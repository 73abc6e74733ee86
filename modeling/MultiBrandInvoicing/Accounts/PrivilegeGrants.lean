import MultiBrandInvoicing.Accounts.AssignedBrands
import MultiBrandInvoicing.Accounts.Calls
import MultiBrandInvoicing.Tenancy.BrandVisibility

/-!
# What a call lets its user do

A role is the user's own and holds on every brand the user is assigned to.  A Brand Admin who
raises it raises it on the brands of other Brand Admins too.
-/

set_option autoImplicit false

namespace MultiBrandInvoicing

namespace Accounts

open ReadCommitted Program Roles Tenancy UsersService

inductive UserCall where
  | invite (input : InviteUserInput) (id passwordHash token : String) (mails : String → Bool)
      (now : Time)
  | updateRole (userId : String) (role : Role) (brandIds : Option (List String))
  | updateBrands (userId : String) (brandIds : List String)
  | updateStatus (userId : String) (status : UserStatus)

namespace UserCall

def program (digests : Digests) (scope : RequestScope) : UserCall → Tx ManagedUser
  | invite input id passwordHash token mails now =>
      UsersService.invite digests scope input id passwordHash token mails now
  | updateRole userId role brandIds => UsersService.updateRole scope userId role brandIds
  | updateBrands userId brandIds => UsersService.updateBrands scope userId brandIds
  | updateStatus userId status => UsersService.updateStatus scope userId status

def after (digests : Digests) (scope : RequestScope) (call : UserCall) (store : Store) : Store :=
  ((call.program digests scope).exec store).store

end UserCall

/-- The user, when active, may take the action on a resource of the brand. -/
def Holds (store : Store) (userId : String) (resource : Resource) (action : Roles.Action)
    (brandId : String) : Prop :=
  ∃ user, store.user? userId = some user ∧
    checkAccess {
      role := user.role
      resource
      action
      assignedBrandIds := (store.assignments.filter fun row => row.userId = userId).map
        UserBrandAssignment.brandId
      brandId := some brandId } = .allowed

/-- Whatever a user gains is on brands where the actor may write users. -/
def GrantsWithin (scope : RequestScope) (before after : Store) : Prop :=
  ∀ userId resource action brandId, Holds after userId resource action brandId →
    ¬Holds before userId resource action brandId → administers scope brandId

section Gains

variable {scope : RequestScope} {before after store : Store}

theorem holds_iff {userId : String} {resource : Resource} {action : Roles.Action}
    {brandId : String} :
    Holds store userId resource action brandId ↔
      ∃ user, store.user? userId = some user ∧ can user.role resource action = true ∧
        (coversAllBrands user.role = true ∨ ⟨userId, brandId⟩ ∈ store.assignments) := by
  have assigned : brandId ∈ ((store.assignments.filter fun row => row.userId = userId).map
      UserBrandAssignment.brandId) ↔ ⟨userId, brandId⟩ ∈ store.assignments := by
    simp only [List.mem_map, List.mem_filter, decide_eq_true_eq]
    constructor
    · rintro ⟨row, ⟨member, rfl⟩, rfl⟩
      exact member
    · exact fun member => ⟨_, ⟨member, rfl⟩, rfl⟩
  simp only [Holds, checkAccess_allowed, Option.some.injEq, forall_eq', assigned]

/-- A call that touches no role gains its users what the new assignments give. -/
theorem grantsWithin_of_roles
    (roles : ∀ userId user, after.user? userId = some user →
      ∃ old, before.user? userId = some old ∧ old.role = user.role)
    (rows : ∀ row ∈ after.assignments,
      row ∈ before.assignments ∨ administers scope row.brandId) :
    GrantsWithin scope before after := by
  intro userId resource action brandId gained lacked
  obtain ⟨user, found, permits, covers⟩ := holds_iff.mp gained
  obtain ⟨old, there, same⟩ := roles userId user found
  have stays : coversAllBrands user.role = true ∨ ⟨userId, brandId⟩ ∈ before.assignments →
      Holds before userId resource action brandId := by
    intro covers
    rw [← same] at permits covers
    exact holds_iff.mpr ⟨old, there, permits, covers⟩
  rcases covers with covers | assigned
  · exact absurd (stays (.inl covers)) lacked
  · rcases rows _ assigned with held | administered
    · exact absurd (stays (.inr held)) lacked
    · exact administered

theorem grantsWithin_of_covers (writes : can scope.role .users .write = true)
    (covers : coversAllBrands scope.role = true) : GrantsWithin scope before after :=
  fun _ _ _ _ _ _ => (administers_iff writes).mpr (.inl covers)

theorem grantsWithin_refl : GrantsWithin scope store store :=
  fun _ _ _ _ gained lacked => absurd gained lacked

end Gains

/-! ## The calls that stay within -/

section Within

variable {digests : Digests} {scope : RequestScope} {store : Store}

theorem updateStatus_within (userId : String) (status : UserStatus) :
    GrantsWithin scope store
      ((UserCall.updateStatus userId status).after digests scope store) := by
  have performs : Performs (fun effect => effect =
      .updateUser (accessOf scope) userId (statusUpdate status))
      (UsersService.updateStatus scope userId status) := updateStatus_performs rfl
  obtain ⟨effects, only, left⟩ := performs.exec store
  have keeps : ∀ user : User, (user.apply (statusUpdate status)).role = user.role := by
    intro user
    unfold statusUpdate
    split <;> rfl
  have same : (∀ id user, (Journal.applied AccountEffect.apply effects store).user? id =
      some user → ∃ old, store.user? id = some old ∧ old.role = user.role) ∧
      (Journal.applied AccountEffect.apply effects store).assignments = store.assignments := by
    clear left
    induction effects with
    | nil => exact ⟨fun _ user found => ⟨user, found, rfl⟩, rfl⟩
    | cons effect rest ih =>
        obtain ⟨roles, rows⟩ := ih fun other member => only other (by simp [member])
        obtain rfl := only effect (by simp)
        refine ⟨fun id user found => ?_, rows⟩
        change Store.user? (AccountEffect.apply (.updateUser (accessOf scope) userId
          (statusUpdate status)) (Journal.applied AccountEffect.apply rest store)) id = _ at found
        rw [AccountEffect.user?_updateUser, Option.map_eq_some_iff] at found
        obtain ⟨earlier, there, rfl⟩ := found
        obtain ⟨old, first, role⟩ := roles id earlier there
        refine ⟨old, first, role.trans ?_⟩
        split
        next => exact (keeps earlier).symm
        next => rfl
  change GrantsWithin scope store ((UsersService.updateStatus scope userId status).exec store).store
  rw [left]
  exact grantsWithin_of_roles same.1 fun row member => .inl (same.2 ▸ member)

theorem updateBrands_within (userId : String) (brandIds : List String) :
    GrantsWithin scope store
      ((UserCall.updateBrands userId brandIds).after digests scope store) := by
  change GrantsWithin scope store ((AssignmentCall.updateBrands userId brandIds).after scope store)
  cases ran : ((AssignmentCall.updateBrands userId brandIds).program scope).alone store with
  | error error =>
      rw [AssignmentCall.after_of_error ran]
      exact grantsWithin_refl
  | ok passed =>
      obtain ⟨existing, addresses, _, replaces⟩ := updateBrands_replaces ran
      rw [AssignmentCall.after_of_ok ran]
      refine grantsWithin_of_roles (fun id user found => ?_) fun row member => ?_
      · exact ⟨user, (replaces.users id).symm.trans found, rfl⟩
      · rcases (replaces.rows row).mp member with ⟨held, _⟩ | ⟨named, listed⟩
        · exact .inl held
        · have inside := administers_of_reachable addresses (replaces.within row.brandId listed)
          exact .inr inside

def Invites (scope : RequestScope) (input : InviteUserInput) (id : String) :
    AccountEffect → Prop
  | .createUser row => row.id = id ∧ row.role = input.role
  | .createAssignments userId brandIds _ =>
      userId = id ∧ ∀ brandId ∈ brandIds, administers scope brandId
  | .spendResetTokens _ _ _ => True
  | .createResetToken _ => True
  | _ => False

theorem invite_invites {input : InviteUserInput} {id passwordHash token : String}
    {mails : String → Bool} {now : Time} :
    Performs (fun effect => mayAssignRole scope.role input.role = true ∧
        Invites scope input id effect)
      (UsersService.invite digests scope input id passwordHash token mails now) := by
  unfold UsersService.invite
  refine performs_require fun may => performs_require fun _ => performs_require fun ours => ?_
  have within : ∀ brandId ∈ (if coversAllBrands input.role then [] else input.brandIds.eraseDups),
      administers scope brandId := by
    intro brandId listed
    rw [administers_iff (can_write_of_mayAssign may)]
    rcases Bool.or_eq_true_iff.mp ours with covers | assigned
    · exact .inl covers
    · exact .inr (by simpa using List.all_eq_true.mp assigned brandId listed)
  refine performs_require fun _ => performs_perform ⟨may, rfl, rfl⟩ fun created => ?_
  refine performs_require fun _ => ?_
  refine (createAssignments_performs ⟨may, rfl, within⟩).bind fun _ => ?_
  intro store
  refine (PasswordResetService.issue_performs (fun _ => ⟨may, trivial⟩)
    fun _ => ⟨may, trivial⟩).bind fun issued => ?_
  exact performs_require fun _ => trivial

structure Invited (scope : RequestScope) (input : InviteUserInput) (id : String)
    (before after : Store) : Prop where
  kept : ∀ userId user, before.user? userId = some user → after.user? userId = some user
  users : ∀ userId user, after.user? userId = some user →
    before.user? userId = some user ∨ userId = id ∧ user.role = input.role
  rows : ∀ row ∈ after.assignments,
    row ∈ before.assignments ∨ row.userId = id ∧ administers scope row.brandId

theorem Invited.apply {input : InviteUserInput} {id : String} {middle : Store}
    (invited : Invited scope input id store middle) {effect : AccountEffect}
    (invites : Invites scope input id effect) :
    Invited scope input id store (effect.apply middle) := by
  cases effect with
  | createUser row =>
      refine ⟨fun userId user found =>
        UniqueTable.find?_insert?_getD (invited.kept userId user found),
        fun userId user found => ?_, invited.rows⟩
      change ((middle.users.insert? row).getD middle.users).rows.find? _ = _ at found
      rcases middle.users.rows_of_insert?_getD row with same | added
      · rw [same] at found
        exact invited.users userId user found
      · rw [added, List.find?_append, Option.or_eq_some_iff] at found
        rcases found with earlier | ⟨_, new⟩
        · exact invited.users userId user earlier
        · obtain ⟨named, rfl⟩ : row.id = userId ∧ row = user := by simpa using new
          exact .inr ⟨named.symm.trans invites.1, invites.2⟩
  | createAssignments userId brandIds skip =>
      refine ⟨invited.kept, invited.users, fun row member => ?_⟩
      rcases mem_createAssignments.mp member with earlier | ⟨named, listed⟩
      · exact invited.rows row earlier
      · exact .inr ⟨named.trans invites.1, invites.2 row.brandId listed⟩
  | spendResetTokens _ _ _ => exact ⟨invited.kept, invited.users, invited.rows⟩
  | createResetToken _ => exact ⟨invited.kept, invited.users, invited.rows⟩
  | _ => exact invites.elim

theorem Invited.run {input : InviteUserInput} {id : String} {effects : List AccountEffect}
    (each : ∀ effect ∈ effects, Invites scope input id effect) :
    Invited scope input id store (Journal.applied AccountEffect.apply effects store) := by
  induction effects with
  | nil => exact ⟨fun _ _ found => found, fun _ _ => .inl, fun _ => .inl⟩
  | cons effect rest ih =>
      exact (ih fun other member => each other (by simp [member])).apply (each effect (by simp))

theorem Invited.within (owned : AssignmentsOwned store) {input : InviteUserInput} {id : String}
    {after : Store} (invited : Invited scope input id store after)
    (may : mayAssignRole scope.role input.role = true) : GrantsWithin scope store after := by
  have writes := can_write_of_mayAssign may
  intro userId resource action brandId gained lacked
  obtain ⟨user, found, permits, covers⟩ := holds_iff.mp gained
  have there : ⟨userId, brandId⟩ ∈ after.assignments → administers scope brandId ∨
      ∃ old, store.user? userId = some old ∧ ⟨userId, brandId⟩ ∈ store.assignments := by
    intro assigned
    rcases invited.rows _ assigned with held | ⟨_, administered⟩
    · obtain ⟨old, known, _⟩ := owned _ held
      exact .inr ⟨old, known, held⟩
    · exact .inl administered
  rcases invited.users userId user found with known | ⟨named, role⟩
  · rcases covers with covers | assigned
    · exact absurd (holds_iff.mpr ⟨user, known, permits, .inl covers⟩) lacked
    · rcases there assigned with administered | ⟨_, _, held⟩
      · exact administered
      · exact absurd (holds_iff.mpr ⟨user, known, permits, .inr held⟩) lacked
  · rcases covers with covers | assigned
    · rw [role] at covers
      exact (administers_iff writes).mpr (.inl (covers_of_mayAssign may covers))
    · rcases there assigned with administered | ⟨old, known, held⟩
      · exact administered
      · obtain rfl := Option.some.inj (found.symm.trans (invited.kept userId old known))
        exact absurd (holds_iff.mpr ⟨user, known, permits, .inr held⟩) lacked

theorem invite_within (owned : AssignmentsOwned store) (input : InviteUserInput)
    (id passwordHash token : String) (mails : String → Bool) (now : Time) :
    GrantsWithin scope store ((UserCall.invite input id passwordHash token mails now).after
      digests scope store) := by
  have performs : Performs _ (UsersService.invite digests scope input id passwordHash token mails
    now) := invite_invites
  obtain ⟨effects, each, left⟩ := performs.exec store
  rw [UserCall.after, UserCall.program, left]
  cases effects with
  | nil => exact grantsWithin_refl
  | cons effect rest =>
      exact Invited.within owned (Invited.run fun other member => (each other member).2)
        (each effect (by simp)).1

end Within

/-! ## The change of role that does not -/

/-- An actor that does not cover every brand may give the user a role that lets it do more, and
the user is assigned to a brand beyond the actor's. -/
structure RaisesElsewhere (scope : RequestScope) (userId : String) (role : Role)
    (brandIds : Option (List String)) (existing : User) (store : Store) : Prop where
  narrow : coversAllBrands scope.role = false
  addresses : Addresses scope store userId existing
  rank : mayAssignRole scope.role role = true
  more : ∃ resource action, can role resource action = true ∧
    can existing.role resource action = false
  requested : ∀ requested, brandIds = some requested →
    ∀ brandId ∈ requested, Reachable scope store userId ⟨userId, brandId⟩
  elsewhere : ∃ brandId, ⟨userId, brandId⟩ ∈ store.assignments ∧
    brandId ∉ scope.assignedBrandIds

def UserCall.RaisesElsewhere (scope : RequestScope) (store : Store) : UserCall → Prop
  | updateRole userId role brandIds =>
      ∃ existing, Accounts.RaisesElsewhere scope userId role brandIds existing store
  | _ => False

section Raising

variable {scope : RequestScope} {userId : String} {role : Role}
  {brandIds : Option (List String)} {existing : User} {store : Store}

theorem covers_eq_false_of_mayAssign {actor target : Role}
    (may : mayAssignRole actor target = true) (narrow : coversAllBrands actor = false) :
    coversAllBrands target = false := by
  cases covers : coversAllBrands target with
  | false => rfl
  | true => rw [covers_of_mayAssign may covers] at narrow; cases narrow

theorem user?_withRole (found : store.user? userId = some existing)
    (sees : (accessOf scope).seesUser existing = true) :
    (withRole scope userId role store).user? userId =
      some (existing.apply { role := some role }) := by
  have named := (Store.user?_eq_some.mp found).2
  rw [withRole, AccountEffect.user?_updateUser, found]
  simp [named, sees]

/-- Nothing in the text of `updateRole` refuses such a change. -/
theorem RaisesElsewhere.goes_through
    (raises : RaisesElsewhere scope userId role brandIds existing store) :
    ∃ managed after,
      (updateRole scope userId role brandIds).alone store = .ok (managed, after) := by
  obtain ⟨narrow, ⟨another, found, standing⟩, rank, _, requested, _⟩ := raises
  obtain ⟨here, sees⟩ := visible?_eq_some found
  obtain rfl := (Store.user?_eq_some.mp here).2
  have under := covers_eq_false_of_mayAssign standing narrow
  have below := covers_eq_false_of_mayAssign rank narrow
  have noOwner : (existing.role = .merchantOwner && role ≠ .merchantOwner : Bool) = false := by
    have other : ¬existing.role = .merchantOwner := by
      intro owner
      rw [owner] at under
      cases under
    simp [other]
  have changed : (withRole scope existing.id role store).user? existing.id =
      some (existing.apply { role := some role }) := user?_withRole here sees
  have assigned : ∃ after, (assignmentsAfter scope existing.id role brandIds).alone
      (withRole scope existing.id role store) = .ok ((), after) ∧
        after.user? existing.id = some (existing.apply { role := some role }) := by
    cases brandIds with
    | none =>
        simp only [assignmentsAfter, below, Bool.false_eq_true, if_false]
        exact ⟨_, rfl, changed⟩
    | some brandIds =>
        have within : ∀ brandId ∈ brandIds.eraseDups,
            Reachable scope (withRole scope existing.id role store) existing.id
              ⟨existing.id, brandId⟩ := by
          intro brandId listed
          exact requested brandIds rfl brandId (by simpa using listed)
        obtain ⟨value, ran⟩ := (replaceAssignments_scoped narrow).mpr ⟨within, rfl⟩
        simp only [assignmentsAfter, below, Bool.false_eq_true, if_false]
        exact ⟨_, ran, changed⟩
  obtain ⟨after, ran, last⟩ := assigned
  refine ⟨toManagedUser (accessOf scope) after (existing.apply { role := some role }), after, ?_⟩
  refine alone_require_bind.mpr ⟨by simpa using another, ?_⟩
  refine alone_orThrow_bind.mpr ⟨existing, found, ?_⟩
  refine alone_require_bind.mpr ⟨by simp [rank, standing], ?_⟩
  rw [noOwner]
  refine alone_require_bind.mpr ⟨by simp [under], ?_⟩
  have updated := alone_updateUser.mpr ⟨⟨existing, here, sees⟩, rfl, changed⟩
  refine alone_bind_eq_ok.mpr ⟨_, _, updated, ?_⟩
  refine alone_bind_eq_ok.mpr ⟨_, _, ran, ?_⟩
  exact alone_orThrow_bind.mpr ⟨_, last, rfl⟩

/-- What the user holds on its other brands afterwards. -/
theorem RaisesElsewhere.not_within (digests : Digests)
    (raises : RaisesElsewhere scope userId role brandIds existing store) :
    ¬GrantsWithin scope store
      ((UserCall.updateRole userId role brandIds).after digests scope store) := by
  intro within
  obtain ⟨managed, after, ran⟩ := raises.goes_through
  obtain ⟨other, changes⟩ := updateRole_changes ran
  let call := AssignmentCall.updateRole userId role brandIds
  have passed : (call.program scope).alone store = .ok (managed, after) := ran
  change GrantsWithin scope store (call.after scope store) at within
  rw [AssignmentCall.after_of_ok passed] at within
  obtain ⟨resource, action, gives, lacks⟩ := raises.more
  obtain ⟨brandId, assigned, beyond⟩ := raises.elsewhere
  obtain ⟨here, sees⟩ := visible?_eq_some raises.addresses.found
  have under := covers_eq_false_of_mayAssign raises.addresses.rank raises.narrow
  have stays : ⟨userId, brandId⟩ ∈ after.assignments := by
    refine ((AssignmentCall.edits passed).frame _ ?_).mpr assigned
    rintro ⟨_, covers | ours, _⟩
    · rw [raises.narrow] at covers
      cases covers
    · exact beyond ours
  have gained : Holds after userId resource action brandId := by
    refine holds_iff.mpr ⟨_, (changes.users userId).trans (user?_withRole here sees), gives,
      .inr stays⟩
  have lacked : ¬Holds store userId resource action brandId := by
    intro held
    obtain ⟨user, found, permits, _⟩ := holds_iff.mp held
    rw [here] at found
    obtain rfl := Option.some.inj found
    rw [lacks] at permits
    cases permits
  rcases (administers_iff (can_write_of_mayAssign raises.rank)).mp
    (within userId resource action brandId gained lacked) with covers | ours
  · rw [raises.narrow] at covers
    cases covers
  · exact beyond ours

theorem updateRole_within (digests : Digests)
    (spared : ¬∃ existing, RaisesElsewhere scope userId role brandIds existing store) :
    GrantsWithin scope store
      ((UserCall.updateRole userId role brandIds).after digests scope store) := by
  change GrantsWithin scope store
    ((AssignmentCall.updateRole userId role brandIds).after scope store)
  cases ran : ((AssignmentCall.updateRole userId role brandIds).program scope).alone store with
  | error error =>
      rw [AssignmentCall.after_of_error ran]
      exact grantsWithin_refl
  | ok passed =>
      obtain ⟨managed, after⟩ := passed
      obtain ⟨existing, changes⟩ := updateRole_changes ran
      rw [AssignmentCall.after_of_ok ran]
      have writes := can_write_of_mayAssign changes.rank
      cases narrow : coversAllBrands scope.role with
      | true => exact grantsWithin_of_covers writes narrow
      | false =>
          have below := covers_eq_false_of_mayAssign changes.rank narrow
          obtain ⟨here, sees⟩ := visible?_eq_some changes.addresses.found
          intro other resource action brandId gained lacked
          rw [administers_iff writes]
          by_contra beyond
          obtain ⟨uncovered, unassigned⟩ := not_or.mp beyond
          obtain ⟨user, found, permits, covers⟩ := holds_iff.mp gained
          rw [changes.users, withRole, AccountEffect.user?_updateUser,
            Option.map_eq_some_iff] at found
          obtain ⟨old, known, rfl⟩ := found
          have frame : ⟨other, brandId⟩ ∈ after.assignments →
              ⟨other, brandId⟩ ∈ store.assignments := by
            refine ((AssignmentCall.edits ran).frame _ ?_).mp
            rintro ⟨_, covers | ours, _⟩
            · exact uncovered covers
            · exact unassigned ours
          by_cases changed : old.id = userId ∧ (accessOf scope).seesUser old = true
          · obtain rfl : other = userId :=
              (Store.user?_eq_some.mp known).2.symm.trans changed.1
            rw [here] at known
            obtain rfl := Option.some.inj known
            rw [if_pos (by simp [changed.1, changed.2])] at permits covers
            rcases covers with covers | assigned
            · exact Bool.false_ne_true (below.symm.trans covers)
            · refine spared ⟨existing, narrow, changes.addresses, changes.rank,
                ⟨resource, action, permits, ?_⟩, fun requested given brandId listed => ?_,
                brandId, frame assigned, unassigned⟩
              · by_contra could
                refine lacked (holds_iff.mpr ⟨existing, here, ?_, .inr (frame assigned)⟩)
                simpa using could
              · have replaces := changes.replaced below requested given
                exact replaces.within brandId (by simpa using listed)
          · have same : ¬(old.id = userId && (accessOf scope).seesUser old : Bool) = true := by
              simpa using changed
            rw [if_neg same] at permits covers
            exact lacked (holds_iff.mpr ⟨old, known, permits, covers.imp_right frame⟩)

end Raising

/-- A call gives nobody anything on a brand where its actor may not write users, unless it is a
Brand Admin's change of a role that also counts on somebody else's brand. -/
theorem grants_within_iff (digests : Digests) (scope : RequestScope) (call : UserCall)
    (store : Store) (owned : AssignmentsOwned store) :
    GrantsWithin scope store (call.after digests scope store) ↔
      ¬call.RaisesElsewhere scope store := by
  cases call with
  | invite input id passwordHash token mails now =>
      exact iff_of_true (invite_within owned input id passwordHash token mails now) not_false
  | updateRole userId role brandIds =>
      constructor
      · rintro within ⟨existing, raises⟩
        exact raises.not_within digests within
      · exact updateRole_within digests
  | updateBrands userId brandIds =>
      exact iff_of_true (updateBrands_within userId brandIds) not_false
  | updateStatus userId status => exact iff_of_true (updateStatus_within userId status) not_false

/-- Bea makes Rob a Brand Admin, and so of her colleague's brand as well. -/
def samplePromotion : UserCall := .updateRole "rob" .brandAdmin none

theorem sample_seesBrand :
    (accessOf sampleBrandAdmin).seesBrand sampleStaff.brandTables "a" = true := by
  have listed : ⟨"a", "m"⟩ ∈ sampleStaff.brandTables.brands := by decide
  refine (appBrandVisible_iff_plain sampleStaff.brandTables (.request sampleBrandAdmin) ?_
    listed).mpr ⟨rfl, by decide⟩
  intro brandId listed
  obtain rfl : brandId = "a" := by simpa [brandIdsOf, sampleBrandAdmin] using listed
  exact ⟨by decide, by decide⟩

theorem sample_visible : visible? sampleBrandAdmin "rob" sampleStaff = some {
    id := "rob", merchantId := "m", email := "rob@m", passwordHash := "h2", name := "Rob",
    role := .readOnly, status := .active, createdAt := 2 } := by
  have shown : "a" ∈ assignedBrandIds (accessOf sampleBrandAdmin) "rob" sampleStaff := by
    simp only [assignedBrandIds, List.mem_map, List.mem_filter, Bool.and_eq_true,
      decide_eq_true_eq]
    exact ⟨⟨"rob", "a"⟩, ⟨by decide, rfl, sample_seesBrand⟩, rfl⟩
  have ours : (assignedBrandIds (accessOf sampleBrandAdmin) "rob" sampleStaff).any
      sampleBrandAdmin.assignedBrandIds.contains = true :=
    List.any_eq_true.mpr ⟨"a", shown, by decide⟩
  refine Option.filter_eq_some_iff.mpr ⟨by decide, Bool.and_eq_true_iff.mpr ⟨by decide, ?_⟩⟩
  rw [isVisible]
  exact Bool.or_eq_true_iff.mpr (.inr ours)

theorem promotion_grants_beyond :
    ¬GrantsWithin sampleBrandAdmin sampleStaff
      (samplePromotion.after sampleDigests sampleBrandAdmin sampleStaff) := by
  refine RaisesElsewhere.not_within sampleDigests
    ⟨by decide, ⟨by decide, sample_visible, by decide⟩, by decide, ?_, nofun, ?_⟩
  · exact ⟨.customers, .write, by decide, by decide⟩
  · exact ⟨"b", by decide, by decide⟩

/-- What she may give without harm is the access Rob has already. -/
theorem grants_within_iff_sample :
    GrantsWithin sampleBrandAdmin sampleStaff
      ((UserCall.updateRole "rob" .readOnly none).after sampleDigests sampleBrandAdmin
        sampleStaff) := by
  refine (grants_within_iff sampleDigests sampleBrandAdmin (.updateRole "rob" .readOnly none)
    sampleStaff (by decide)).mpr ?_
  rintro ⟨existing, raises⟩
  have found := raises.addresses.found
  rw [sample_visible] at found
  obtain rfl := Option.some.inj found
  obtain ⟨resource, action, gives, lacks⟩ := raises.more
  exact Bool.false_ne_true (lacks.symm.trans gives)

end Accounts

end MultiBrandInvoicing
