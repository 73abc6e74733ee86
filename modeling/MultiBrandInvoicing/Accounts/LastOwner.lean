import MultiBrandInvoicing.Accounts.Users

/-!
# The last owner

`updateRole` and `updateStatus` count the other owners before they write, in transactions that
do not see one another.  What a call has counted must still be so when it commits.
-/

set_option autoImplicit false

namespace MultiBrandInvoicing

namespace Accounts

open ReadCommitted Program Roles Tenancy UsersService

inductive OwnerCall where
  | updateRole (scope : RequestScope) (id : String) (role : Role)
      (brandIds : Option (List String))
  | updateStatus (scope : RequestScope) (id : String) (status : UserStatus)

namespace OwnerCall

def program : OwnerCall → Tx ManagedUser
  | updateRole scope id role brandIds => UsersService.updateRole scope id role brandIds
  | updateStatus scope id status => UsersService.updateStatus scope id status

def target : OwnerCall → String
  | updateRole _ id _ _ => id
  | updateStatus _ id _ => id

def demotes : OwnerCall → Bool
  | updateRole _ _ role _ => role ≠ .merchantOwner
  | updateStatus _ _ status => status = .suspended

end OwnerCall

/-- The user is an owner of the merchant and not suspended. -/
def OwnerOf (merchantId : String) (store : Store) (id : String) : Prop :=
  ∃ user, store.user? id = some user ∧ user.merchantId = merchantId ∧ isActiveOwner user = true

/-- Whoever else was an owner at the call's reads still is, and the user the call is about was
one at its first read if it is one now. -/
def Undisturbed (merchantId target : String) (views : List Store) (store : Store) : Prop :=
  (∀ view ∈ views, ∀ id, id ≠ target → OwnerOf merchantId view id →
      OwnerOf merchantId store id) ∧
    ∀ first, views.getLast? = some first → OwnerOf merchantId store target →
      OwnerOf merchantId first target

instance (merchantId : String) (store : Store) (id : String) :
    Decidable (OwnerOf merchantId store id) :=
  decidable_of_iff ((store.user? id).any fun user =>
      user.merchantId = merchantId && isActiveOwner user) (by
    simp [OwnerOf, Option.any_eq_true])

theorem undisturbed_iff {merchantId target : String} {views : List Store} {store : Store} :
    ((∀ view ∈ views, ∀ row ∈ view.users.rows, row.id ≠ target →
        OwnerOf merchantId view row.id → OwnerOf merchantId store row.id) ∧
      ∀ first ∈ views.getLast?, OwnerOf merchantId store target →
        OwnerOf merchantId first target) ↔ Undisturbed merchantId target views store := by
  refine and_congr ?_ (by simp [Option.mem_def])
  constructor
  · rintro rows view seen id different ⟨user, found, owner⟩
    obtain ⟨member, rfl⟩ := Store.user?_eq_some.mp found
    exact rows view seen user member different ⟨user, found, owner⟩
  · intro all view seen row _ different owner
    exact all view seen row.id different owner

instance (merchantId target : String) (views : List Store) (store : Store) :
    Decidable (Undisturbed merchantId target views store) := decidable_of_iff _ undisturbed_iff

/-- What the call has seen allows it to take the standing away from its user. -/
def Checked (merchantId target : String) (views : List Store) : Prop :=
  (∃ view ∈ views, ∃ id, id ≠ target ∧ OwnerOf merchantId view id) ∨
    ∃ first, views.getLast? = some first ∧ ¬OwnerOf merchantId first target

structure LeavesOwners (merchantId : String) (call : OwnerCall) (views : List Store)
    (before after : Store) : Prop where
  others : ∀ id, id ≠ call.target → OwnerOf merchantId before id → OwnerOf merchantId after id
  kept : call.demotes = false → OwnerOf merchantId before call.target →
    OwnerOf merchantId after call.target
  checked : OwnerOf merchantId before call.target → ¬OwnerOf merchantId after call.target →
    Checked merchantId call.target views

def ownerConduct (merchantId : String) (call : OwnerCall) :
    Conduct Store AccountEffect AccountError ManagedUser where
  leaves := fun journal => LeavesOwners merchantId call journal.opening
  tells := fun _ _ _ => True
  ends := fun _ _ => True

theorem LeavesOwners.keepsOwner {merchantId : String} {call : OwnerCall} {views : List Store}
    {before after : Store} (leaves : LeavesOwners merchantId call views before after)
    (undisturbed : call.demotes = true → Undisturbed merchantId call.target views before)
    (owned : ∃ id, OwnerOf merchantId before id) : ∃ id, OwnerOf merchantId after id := by
  obtain ⟨id, owner⟩ := owned
  by_cases target : id = call.target
  · subst target
    by_cases still : OwnerOf merchantId after call.target
    · exact ⟨_, still⟩
    · cases demotes : call.demotes with
      | false => exact absurd (leaves.kept demotes owner) still
      | true =>
          obtain ⟨others, same⟩ := undisturbed demotes
          rcases leaves.checked owner still with ⟨view, seen, other, different, counted⟩ |
            ⟨first, opened, none⟩
          · exact ⟨other, leaves.others other different
              (others view seen other different counted)⟩
          · exact absurd (same first opened owner) none
  · exact ⟨id, leaves.others id target owner⟩

/-! ## What the text of a call checks and writes -/

def SparesUsers (effect : AccountEffect) : Prop :=
  ∀ store id, (effect.apply store).user? id = store.user? id

theorem sparesUsers_updateUser (access : Access) (id : String) :
    SparesUsers (.updateUser access id {}) := by
  intro store other
  rw [AccountEffect.user?_updateUser]
  have same : (fun user : User =>
      if (user.id = id && access.seesUser user : Bool) then user.apply {} else user) = fun user =>
        user := by
    funext user
    split <;> rfl
  rw [same, Option.map_id']

theorem user?_of_spares {effects : List AccountEffect}
    (spares : ∀ effect ∈ effects, SparesUsers effect) (store : Store) (id : String) :
    (Journal.applied AccountEffect.apply effects store).user? id = store.user? id := by
  induction effects with
  | nil => rfl
  | cons effect rest ih =>
      have here := spares effect (by simp) (Journal.applied AccountEffect.apply rest store) id
      exact here.trans (ih fun other member => spares other (by simp [member]))

theorem deleteAssignments_performs (access : Access) (userId : String) (here : String → Bool) :
    Performs SparesUsers (UsersService.deleteAssignments access userId here) := by
  unfold UsersService.deleteAssignments
  exact fun store => performs_perform (fun _ _ => rfl) fun _ => trivial

theorem replaceAssignments_performs (scope : RequestScope) (userId : String)
    (brandIds : List String) :
    Performs SparesUsers (replaceAssignments scope userId brandIds) := by
  unfold replaceAssignments
  split
  next =>
    refine performs_require fun _ => ?_
    refine performs_updateUser (sparesUsers_updateUser _ _) fun _ _ => ?_
    exact (deleteAssignments_performs _ _ _).bind fun _ => createAssignments_performs fun _ _ => rfl
  next =>
    refine performs_require fun _ => ?_
    exact (deleteAssignments_performs _ _ _).bind fun _ => createAssignments_performs fun _ _ => rfl

theorem assignmentsAfter_performs (scope : RequestScope) (userId : String) (role : Role)
    (brandIds : Option (List String)) :
    Performs SparesUsers (assignmentsAfter scope userId role brandIds) := by
  unfold assignmentsAfter
  split
  next => exact deleteAssignments_performs _ _ _
  next =>
    split
    next => exact replaceAssignments_performs _ _ _
    next => trivial

section Guards

variable {merchantId target : String} {scope : RequestScope} {existing : User}

theorem ownerOf_of_remaining {store : Store} {row : User}
    (remains : row ∈ remainingOwners (accessOf scope) target store)
    (ours : appMerchantId (databaseScopeSettings (.request scope)) = some merchantId) :
    row.id ≠ target ∧ OwnerOf merchantId store row.id := by
  simp only [remainingOwners, List.mem_filter, Bool.and_eq_true, decide_eq_true_eq] at remains
  obtain ⟨member, ⟨sees, owner⟩, different⟩ := remains
  refine ⟨different, row, Store.user?_eq_some.mpr ⟨member, rfl⟩, ?_, owner⟩
  rw [seesUser_iff, ours] at sees
  exact (Option.some.inj sees).symm

theorem checked_of_guard {first : Store} {views : List Store}
    (found : visible? scope target first = some existing)
    (ours : appMerchantId (databaseScopeSettings (.request scope)) = some merchantId)
    (opened : views.getLast? = some first)
    (guard : existing.role = .merchantOwner →
      ∃ view ∈ views, remainingOwners (accessOf scope) existing.id view ≠ []) :
    Checked merchantId target views := by
  obtain ⟨here, sees⟩ := visible?_eq_some found
  have named := (Store.user?_eq_some.mp here).2
  by_cases owner : existing.role = .merchantOwner
  · obtain ⟨view, seen, some_⟩ := guard owner
    obtain ⟨row, remains⟩ := List.exists_mem_of_ne_nil _ some_
    rw [named] at remains
    obtain ⟨different, other⟩ := ownerOf_of_remaining remains ours
    exact .inl ⟨view, seen, row.id, different, other⟩
  · refine .inr ⟨first, opened, ?_⟩
    rintro ⟨user, there, _, active⟩
    rw [here] at there
    cases there
    simp [isActiveOwner, owner] at active

end Guards

section Texts

variable {merchantId : String} {call : OwnerCall} {scope : RequestScope} {data : UserUpdate}
  {views : List Store} {before after : Store}

theorem leavesOwners_of_same (same : ∀ id, after.user? id = before.user? id) :
    LeavesOwners merchantId call views before after := by
  have stays : ∀ id, OwnerOf merchantId before id → OwnerOf merchantId after id := by
    rintro id ⟨user, found, owner⟩
    exact ⟨user, (same id).trans found, owner⟩
  exact ⟨fun id _ => stays id, fun _ => stays _, fun owner lost => absurd (stays _ owner) lost⟩

theorem leavesOwners_of_update
    (same : ∀ id, after.user? id =
      ((AccountEffect.updateUser (accessOf scope) call.target data).apply before).user? id)
    (keeps : call.demotes = false → ∀ user, isActiveOwner user = true →
      isActiveOwner (user.apply data) = true)
    (checked : call.demotes = true →
      appMerchantId (databaseScopeSettings (.request scope)) = some merchantId →
        Checked merchantId call.target views) :
    LeavesOwners merchantId call views before after := by
  have kept : call.demotes = false → OwnerOf merchantId before call.target →
      OwnerOf merchantId after call.target := by
    rintro demotes ⟨user, found, merchant, active⟩
    rw [OwnerOf, same, AccountEffect.user?_updateUser, found, Option.map_some]
    refine ⟨_, rfl, ?_⟩
    split
    next => exact ⟨merchant, keeps demotes user active⟩
    next => exact ⟨merchant, active⟩
  refine ⟨?_, kept, ?_⟩
  · rintro id different ⟨user, found, owner⟩
    have named := (Store.user?_eq_some.mp found).2
    refine ⟨user, ?_, owner⟩
    rw [same, AccountEffect.user?_updateUser, found]
    simp [named, different]
  · intro owner lost
    cases demotes : call.demotes with
    | false => exact absurd (kept demotes owner) lost
    | true =>
        obtain ⟨user, found, merchant, active⟩ := owner
        refine checked demotes ?_
        by_contra foreign
        refine lost ⟨user, ?_, merchant, active⟩
        have unseen : (accessOf scope).seesUser user = false := by
          rw [Bool.eq_false_iff, Ne, seesUser_iff, merchant]
          exact foreign
        rw [same, AccountEffect.user?_updateUser, found]
        simp [unseen]

variable {journal : Journal Store AccountEffect} {pending : Store → Store} {rows : List RowKey}

theorem follows_update {tail : User → Tx ManagedUser}
    (recorded : Recorded journal pending rows) (reads : journal.writing = [])
    (keeps : call.demotes = false → ∀ user, isActiveOwner user = true →
      isActiveOwner (user.apply data) = true)
    (checked : call.demotes = true →
      appMerchantId (databaseScopeSettings (.request scope)) = some merchantId →
        Checked merchantId call.target journal.opening)
    (rest : ∀ user, Performs SparesUsers (tail user)) :
    (updateUser (accessOf scope) call.target data >>= tail).Follows accountRely
      (ownerConduct merchantId call) ((ownerConduct merchantId call).finishes accountRely)
      journal pending rows fun _ => True := by
  refine follows_perform recorded Rely.stable_true ?_ trivial
  intro pending rows recorded stable
  refine Performs.finishes (P := SparesUsers) ?_ ?_ (fun _ _ _ _ => trivial)
    (fun _ _ _ => trivial) (fun _ _ _ _ => trivial) (.refl _) recorded stable
  · intro store
    exact performs_orThrow fun user _ => rest user
  · intro later rows store grows locked _
    refine honoured locked ?_
    have opened : later.opening = journal.opening := by
      obtain ⟨more, rfl, _⟩ := grows
      exact Journal.opening_wrote more _ journal
    change LeavesOwners merchantId call later.opening store _
    rw [opened]
    rcases grows.writing with ⟨added, spares, writes⟩ | spares
    · refine leavesOwners_of_update (fun id => ?_) keeps checked
      have only : Journal.writing
          (.wrote (.updateUser (accessOf scope) call.target data) :: journal) =
            [.updateUser (accessOf scope) call.target data] :=
        congrArg (_ :: ·) reads
      rw [Journal.replay, writes, only, Journal.applied_append]
      exact user?_of_spares spares _ id
    · exact leavesOwners_of_same fun id => user?_of_spares spares store id

theorem updateRole_follows (scope : RequestScope) (userId : String) (role : Role)
    (brandIds : Option (List String)) :
    (OwnerCall.updateRole scope userId role brandIds).program.Follows accountRely
      (ownerConduct merchantId (.updateRole scope userId role brandIds))
      ((ownerConduct merchantId (.updateRole scope userId role brandIds)).finishes accountRely)
      [] id [] fun _ => True := by
  unfold OwnerCall.program UsersService.updateRole
  refine follows_require (fun _ => trivial) fun _ => ?_
  intro first _ _
  refine ⟨_, Rely.stable_true, trivial, ?_⟩
  refine follows_orThrow (fun _ => trivial) fun existing found => ?_
  have named : existing.id = userId :=
    (Store.user?_eq_some.mp (visible?_eq_some found).1).2
  subst named
  refine follows_require (fun _ => trivial) fun _ => ?_
  have keeps : (OwnerCall.updateRole scope existing.id role brandIds).demotes = false →
      ∀ user, isActiveOwner user = true →
        isActiveOwner (user.apply { role := some role }) = true := by
    intro stays user active
    have owner : role = .merchantOwner := by simpa [OwnerCall.demotes] using stays
    simp only [isActiveOwner, Bool.and_eq_true, decide_eq_true_eq] at active ⊢
    exact ⟨owner, active.2⟩
  have rest : ∀ _ : User, Performs SparesUsers (do
      assignmentsAfter scope existing.id role brandIds
      let store ← read
      let row ← orThrow .recordNotFound (store.user? existing.id)
      pure (toManagedUser (accessOf scope) store row)) := by
    intro _
    refine (assignmentsAfter_performs _ _ _ _).bind fun _ => ?_
    exact fun store => performs_orThrow fun row _ => trivial
  refine follows_guard (fun _ => trivial) (fun passed => ?_) fun view some_ => ?_
  · refine follows_require (fun _ => trivial) fun _ => ?_
    refine follows_update ⟨rfl, by simp [Journal.writing]⟩ rfl keeps (fun demotes ours => ?_) rest
    refine checked_of_guard found ours rfl fun owner => ?_
    simp [OwnerCall.demotes] at demotes
    simp [owner, demotes] at passed
  · refine follows_require (fun _ => trivial) fun _ => ?_
    refine follows_update ⟨rfl, by simp [Journal.writing]⟩ rfl keeps (fun _ ours => ?_) rest
    exact checked_of_guard found ours rfl fun _ =>
      ⟨view, (by simp : view ∈ [view, first]), some_⟩

theorem updateStatus_follows (scope : RequestScope) (userId : String) (status : UserStatus) :
    (OwnerCall.updateStatus scope userId status).program.Follows accountRely
      (ownerConduct merchantId (.updateStatus scope userId status))
      ((ownerConduct merchantId (.updateStatus scope userId status)).finishes accountRely)
      [] id [] fun _ => True := by
  unfold OwnerCall.program UsersService.updateStatus
  refine follows_require (fun _ => trivial) fun _ => ?_
  intro first _ _
  refine ⟨_, Rely.stable_true, trivial, ?_⟩
  refine follows_orThrow (fun _ => trivial) fun existing found => ?_
  have named : existing.id = userId :=
    (Store.user?_eq_some.mp (visible?_eq_some found).1).2
  subst named
  refine follows_require (fun _ => trivial) fun _ => ?_
  have keeps : (OwnerCall.updateStatus scope existing.id status).demotes = false →
      ∀ user, isActiveOwner user = true →
        isActiveOwner (user.apply (statusUpdate status)) = true := by
    intro stays user active
    have kept : ¬ status = .suspended := by simpa [OwnerCall.demotes] using stays
    simp only [isActiveOwner, Bool.and_eq_true, decide_eq_true_eq] at active ⊢
    rw [statusUpdate, if_neg kept]
    exact ⟨active.1, kept⟩
  have rest : ∀ user : User, Performs SparesUsers (do
      let store ← read
      pure (toManagedUser (accessOf scope) store user)) := fun _ _ => trivial
  refine follows_guard (fun _ => trivial) (fun passed => ?_) fun view some_ => ?_
  · refine follows_update ⟨rfl, by simp [Journal.writing]⟩ rfl keeps (fun demotes ours => ?_) rest
    refine checked_of_guard found ours rfl fun owner => ?_
    simp [OwnerCall.demotes] at demotes
    simp [owner, demotes] at passed
  · refine follows_update ⟨rfl, by simp [Journal.writing]⟩ rfl keeps (fun _ ours => ?_) rest
    exact checked_of_guard found ours rfl fun _ =>
      ⟨view, (by simp : view ∈ [view, first]), some_⟩

theorem ownerCall_follows (call : OwnerCall) :
    call.program.Follows accountRely (ownerConduct merchantId call)
      ((ownerConduct merchantId call).finishes accountRely) [] id [] fun _ => True := by
  cases call with
  | updateRole scope userId role brandIds => exact updateRole_follows scope userId role brandIds
  | updateStatus scope userId status => exact updateStatus_follows scope userId status

end Texts

/-! ## Any number of calls beside one another -/

section Runs

variable {ι : Type} [DecidableEq ι]

abbrev OwnerState (ι : Type) := Journaled ι Store RowKey AccountEffect AccountError ManagedUser

def ownerStart (calls : ι → OwnerCall) (store : Store) : OwnerState ι :=
  Journaled.start store fun session => (calls session).program

/-- When a call that demotes or suspends its user commits, what it has read still holds. -/
def CommitsUndisturbed (merchantId : String) (calls : ι → OwnerCall) (state : OwnerState ι)
    (action : Action ι) : Prop :=
  (state.commits? action).isSome = true → (calls action.session).demotes = true →
    Undisturbed merchantId (calls action.session).target (state.journal action.session).opening
      state.config.committed

instance (merchantId : String) (calls : ι → OwnerCall) (state : OwnerState ι)
    (action : Action ι) : Decidable (CommitsUndisturbed merchantId calls state action) :=
  inferInstanceAs (Decidable (_ → _ → _))

/-- In every interleaving whose calls commit undisturbed, the merchant has an owner all
along. -/
theorem owner_remains (merchantId : String) (calls : ι → OwnerCall) (store : Store)
    (owned : ∃ id, OwnerOf merchantId store id) (schedule : List (Action ι))
    (undisturbed : Runs.Throughout Journaled.step (CommitsUndisturbed merchantId calls) schedule
      (ownerStart calls store)) :
    Runs.Always Journaled.step
      (fun state : OwnerState ι => ∃ id, OwnerOf merchantId state.config.committed id)
      schedule (ownerStart calls store) := by
  have along : (ownerStart calls store).Along accountRely
      fun session => ownerConduct merchantId (calls session) :=
    Journaled.start_along trivial fun session => ownerCall_follows (calls session)
  have keeps : ∀ (state : OwnerState ι) action committed journal,
      state.Along accountRely (fun session => ownerConduct merchantId (calls session)) →
        (∃ id, OwnerOf merchantId state.config.committed id) →
          CommitsUndisturbed merchantId calls state action →
            Journaled.Shift (fun session => ownerConduct merchantId (calls session)) state action
              committed journal → ∃ id, OwnerOf merchantId committed id := by
    intro state action committed journal _ owned meets shift
    cases shift with
    | still => exact owned
    | read => exact owned
    | write label => exact owned
    | tell label tells => exact owned
    | commit after commits leaves =>
        exact leaves.keepsOwner (meets (by rw [commits]; rfl)) owned
    | drop => exact owned
  exact (Journaled.always_of_shifts (fun store _ => ∃ id, OwnerOf merchantId store id) keeps along
    owned undisturbed).mono fun _ both => both.2

def sampleOwnerScope (userId : String) : RequestScope where
  merchantId := "m"
  userId := userId
  role := .merchantOwner
  assignedBrandIds := []
  sessionId := "s"
  sourceIp := none

def sampleRivals : Bool → OwnerCall
  | true => .updateStatus (sampleOwnerScope "ada") "bob" .suspended
  | false => .updateStatus (sampleOwnerScope "bob") "ada" .suspended

/-- Both calls count the owners before either writes. -/
def sampleSkew : List (Action Bool) :=
  [.advance true, .advance true, .advance false, .advance false] ++
    List.replicate 4 (.advance true) ++ List.replicate 4 (.advance false)

theorem rivals_leave_no_owner :
    (∃ id, OwnerOf "m" sampleAccounts id) ∧
      ¬∃ id, OwnerOf "m" (sampleSkew.foldl Journaled.step
        (ownerStart sampleRivals sampleAccounts)).config.committed id := by
  refine ⟨⟨"ada", by decide⟩, ?_⟩
  rintro ⟨id, user, found, _, active⟩
  have none : ((sampleSkew.foldl Journaled.step
      (ownerStart sampleRivals sampleAccounts)).config.committed.users.rows.all fun row =>
        !isActiveOwner row) = true := by decide
  have gone := List.all_eq_true.mp none user (Store.user?_eq_some.mp found).1
  simp [active] at gone

def sampleInTurn : List (Action Bool) :=
  List.replicate 6 (.advance true) ++ List.replicate 3 (.advance false)

theorem owner_remains_sample :
    Runs.Always Journaled.step
      (fun state : OwnerState Bool => ∃ id, OwnerOf "m" state.config.committed id)
      sampleInTurn (ownerStart sampleRivals sampleAccounts) :=
  owner_remains "m" sampleRivals sampleAccounts ⟨"ada", by decide⟩ sampleInTurn (by decide)

end Runs

end Accounts

end MultiBrandInvoicing
