import MultiBrandInvoicing.Accounts.LastOwner
import MultiBrandInvoicing.ReadCommitted.Alone

/-!
# The brands a user is assigned to

What `updateRole` and `updateBrands` do to the assignments of their user.  An all-brand actor
replaces the whole set; a Brand Admin touches the rows of the brands it administers and no
others.
-/

set_option autoImplicit false

namespace MultiBrandInvoicing

namespace Accounts

open ReadCommitted Program Roles Tenancy UsersService

/-! ## Statements on their own -/

section Alone

variable {α : Type} {store : Store} {passed : α × Store}

theorem alone_require_bind {condition : Bool} {error : AccountError} {next : Unit → Tx α} :
    (require condition error >>= next).alone store = .ok passed ↔
      condition = true ∧ (next ()).alone store = .ok passed := by
  cases condition with
  | false => simp [require, alone]
  | true => simp [require]

theorem alone_orThrow_bind {γ : Type} {error : AccountError} {found : Option γ}
    {next : γ → Tx α} :
    (orThrow error found >>= next).alone store = .ok passed ↔
      ∃ value, found = some value ∧ (next value).alone store = .ok passed := by
  cases found with
  | none => simp [orThrow, alone]
  | some value => simp [orThrow]

theorem alone_read_bind {next : Store → Tx α} :
    (read >>= next).alone store = (next store).alone store := rfl

theorem alone_perform_bind {effect : AccountEffect} {next : Bool → Tx α} :
    (perform effect >>= next).alone store =
      if effect.applies store then (next true).alone (effect.apply store)
      else (next false).alone store := rfl

theorem alone_updateUser {access : Access} {id : String} {data : UserUpdate} {user : User}
    {after : Store} :
    (updateUser access id data).alone store = .ok (user, after) ↔
      (∃ row, store.user? id = some row ∧ access.seesUser row = true) ∧
        after = (AccountEffect.updateUser access id data).apply store ∧
          after.user? id = some user := by
  have matches_ : (AccountEffect.updateUser access id data).applies store = true ↔
      ∃ row, store.user? id = some row ∧ access.seesUser row = true := by
    simp only [AccountEffect.applies, List.any_eq_true, Bool.and_eq_true, decide_eq_true_eq,
      Store.user?_eq_some, and_assoc]
  rw [← matches_, updateUser, alone_perform_bind]
  split
  next here =>
    rw [alone_require_bind, alone_read_bind]
    cases found : Store.user? ((AccountEffect.updateUser access id data).apply store) id with
    | none =>
        simp only [orThrow, alone, reduceCtorEq, and_false, here, true_and, false_iff, not_and]
        rintro rfl
        simp [found]
    | some row =>
        simp only [orThrow, pure_eq_done, alone, Except.ok.injEq, Prod.mk.injEq, here, true_and]
        constructor
        · rintro ⟨rfl, rfl⟩
          exact ⟨rfl, found⟩
        · rintro ⟨rfl, there⟩
          exact ⟨Option.some.inj (found.symm.trans there), rfl⟩
  next missed => simp [require, alone, missed]

theorem alone_deleteAssignments (access : Access) (userId : String) (here : String → Bool)
    (store : Store) :
    (UsersService.deleteAssignments access userId here).alone store =
      .ok ((), (AccountEffect.deleteAssignments userId
        ((assignedBrandIds access userId store).filter here)).apply store) := rfl

theorem alone_createAssignments {access : Access} {userId : String} {brandIds : List String}
    {skipDuplicates : Bool} {value : Unit} {after : Store} :
    (UsersService.createAssignments access userId brandIds skipDuplicates).alone store =
        .ok (value, after) ↔
      (∀ brandId ∈ brandIds, access.seesBrand store.brandTables brandId = true) ∧
        (AccountEffect.createAssignments userId brandIds skipDuplicates).applies store = true ∧
          after = (AccountEffect.createAssignments userId brandIds skipDuplicates).apply store := by
  rw [UsersService.createAssignments, alone_read_bind, alone_require_bind, alone_perform_bind,
    List.all_eq_true]
  refine and_congr_right fun _ => ?_
  split
  next here => simp [require, alone, here, eq_comm]
  next missed => simp [require, alone, missed]

theorem guardOwners_alone {access : Access} {losesOwner : Bool} {userId : String}
    {value : Unit} {after : Store}
    (ran : (guardOwners access losesOwner userId).alone store = .ok (value, after)) :
    after = store := by
  cases losesOwner with
  | false => exact (Prod.mk.injEq _ _ _ _ ▸ Except.ok.injEq _ _ ▸ ran : _ ∧ _).2.symm
  | true =>
      rw [guardOwners, if_pos rfl, assertNotLastOwner, alone_read_bind, require] at ran
      split at ran
      next => cases ran; rfl
      next => cases ran

end Alone

/-! ## What they do to the assignments -/

section Rows

variable {store : Store}

theorem mem_deleteAssignments {access : Access} {userId : String} {here : String → Bool}
    {row : UserBrandAssignment} :
    row ∈ ((AccountEffect.deleteAssignments userId
        ((assignedBrandIds access userId store).filter here)).apply store).assignments ↔
      row ∈ store.assignments ∧ ¬(row.userId = userId ∧ here row.brandId = true ∧
        access.seesBrand store.brandTables row.brandId = true) := by
  simp only [AccountEffect.apply, List.mem_filter, Bool.not_eq_true', Bool.and_eq_false_iff,
    decide_eq_false_iff_not, List.contains_eq_mem, assignedBrandIds, List.mem_map,
    Bool.and_eq_true, decide_eq_true_eq]
  refine and_congr_right fun member => ?_
  rw [← not_and_or]
  refine not_congr (and_congr_right fun named => ?_)
  constructor
  · rintro ⟨⟨other, ⟨_, _, sees⟩, same⟩, wanted⟩
    exact ⟨wanted, same ▸ sees⟩
  · rintro ⟨wanted, sees⟩
    exact ⟨⟨row, ⟨member, named, sees⟩, rfl⟩, wanted⟩

theorem mem_createAssignments {userId : String} {brandIds : List String} {skipDuplicates : Bool}
    {row : UserBrandAssignment} :
    row ∈ ((AccountEffect.createAssignments userId brandIds skipDuplicates).apply
        store).assignments ↔
      row ∈ store.assignments ∨ row.userId = userId ∧ row.brandId ∈ brandIds := by
  simp only [AccountEffect.apply, List.mem_append, List.mem_map, List.mem_filter,
    Bool.not_eq_true', List.contains_eq_mem, decide_eq_false_iff_not]
  constructor
  · rintro (here | ⟨brandId, ⟨listed, _⟩, rfl⟩)
    · exact .inl here
    · exact .inr ⟨rfl, listed⟩
  · rintro (here | ⟨rfl, listed⟩)
    · exact .inl here
    · by_cases held : row ∈ store.assignments
      · exact .inl held
      · exact .inr ⟨row.brandId, ⟨listed, held⟩, rfl⟩

end Rows

/-- The actor's own role and brands let it write users on the brand. -/
def administers (scope : RequestScope) (brandId : String) : Prop :=
  checkAccess {
    role := scope.role
    resource := .users
    action := .write
    assignedBrandIds := scope.assignedBrandIds
    brandId := some brandId } = .allowed

theorem administers_iff {scope : RequestScope} {brandId : String}
    (writes : can scope.role .users .write = true) :
    administers scope brandId ↔
      coversAllBrands scope.role = true ∨ brandId ∈ scope.assignedBrandIds := by
  simp [administers, checkAccess_allowed, writes]

theorem can_write_of_mayAssign {actor target : Role} (may : mayAssignRole actor target = true) :
    can actor .users .write = true :=
  (Bool.and_eq_true_iff.mp may).1

theorem covers_of_mayAssign {actor target : Role} (may : mayAssignRole actor target = true)
    (covers : coversAllBrands target = true) : coversAllBrands actor = true := by
  cases actor <;> cases target <;> revert may covers <;> decide

/-! ## The rows before and after -/

/-- The rows that a change of a user's assignments may take away. -/
def Reachable (scope : RequestScope) (store : Store) (userId : String)
    (row : UserBrandAssignment) : Prop :=
  row.userId = userId ∧
    (coversAllBrands scope.role = true ∨ row.brandId ∈ scope.assignedBrandIds) ∧
      (accessOf scope).seesBrand store.brandTables row.brandId = true

/-- The user's rows within reach are now those of `brandIds`; no other row has changed. -/
structure Replaces (scope : RequestScope) (userId : String) (brandIds : List String)
    (before after : Store) : Prop where
  within : ∀ brandId ∈ brandIds, Reachable scope before userId ⟨userId, brandId⟩
  rows : ∀ row, row ∈ after.assignments ↔
    (row ∈ before.assignments ∧ ¬Reachable scope before userId row) ∨
      row.userId = userId ∧ row.brandId ∈ brandIds
  users : ∀ id, after.user? id = before.user? id
  brandTables : after.brandTables = before.brandTables

section Replacing

variable {scope : RequestScope} {userId : String} {brandIds : List String} {store after : Store}

theorem replaceAssignments_covering (covers : coversAllBrands scope.role = true) :
    (∃ value, (replaceAssignments scope userId brandIds).alone store = .ok (value, after)) ↔
      (brandIds ≠ [] ∧
        (∃ row, store.user? userId = some row ∧ (accessOf scope).seesUser row = true) ∧
        ∀ brandId ∈ brandIds, Reachable scope store userId ⟨userId, brandId⟩) ∧
        after = (AccountEffect.createAssignments userId brandIds false).apply
          ((AccountEffect.deleteAssignments userId ((assignedBrandIds (accessOf scope) userId
            store).filter fun _ => true)).apply
              ((AccountEffect.updateUser (accessOf scope) userId {}).apply store)) := by
  rw [replaceAssignments, if_pos covers]
  constructor
  · rintro ⟨_, ran⟩
    obtain ⟨some_, ran⟩ := alone_require_bind.mp ran
    obtain ⟨user, middle, updated, ran⟩ := alone_bind_eq_ok.mp ran
    obtain ⟨seen, rfl, _⟩ := alone_updateUser.mp updated
    obtain ⟨_, left, deleted, created⟩ := alone_bind_eq_ok.mp ran
    rw [alone_deleteAssignments, Except.ok.injEq, Prod.mk.injEq] at deleted
    obtain ⟨-, rfl⟩ := deleted
    obtain ⟨sees, _, rfl⟩ := alone_createAssignments.mp created
    exact ⟨⟨by simpa using some_, seen, fun brandId listed =>
      ⟨rfl, .inl covers, sees brandId listed⟩⟩, rfl⟩
  · rintro ⟨⟨some_, ⟨row, found, seen⟩, within⟩, rfl⟩
    have still := (sparesUsers_updateUser (accessOf scope) userId store userId).trans found
    refine ⟨(), alone_require_bind.mpr ⟨by simpa using some_, alone_bind_eq_ok.mpr ⟨row, _,
      alone_updateUser.mpr ⟨⟨row, found, seen⟩, rfl, still⟩, alone_bind_eq_ok.mpr ⟨(), _,
        alone_deleteAssignments _ _ _ _, alone_createAssignments.mpr
          ⟨fun brandId listed => (within brandId listed).2.2, ?_, rfl⟩⟩⟩⟩⟩
    -- The rows of the brands asked for are among those that went.
    simp only [AccountEffect.applies, Bool.false_or, List.all_eq_true, Bool.not_eq_true',
      List.contains_eq_mem, decide_eq_false_iff_not]
    intro brandId listed held
    exact (mem_deleteAssignments.mp held).2 ⟨rfl, rfl, (within brandId listed).2.2⟩

theorem replaces_covering (covers : coversAllBrands scope.role = true)
    (within : ∀ brandId ∈ brandIds, Reachable scope store userId ⟨userId, brandId⟩) :
    Replaces scope userId brandIds store
      ((AccountEffect.createAssignments userId brandIds false).apply
        ((AccountEffect.deleteAssignments userId ((assignedBrandIds (accessOf scope) userId
          store).filter fun _ => true)).apply
            ((AccountEffect.updateUser (accessOf scope) userId {}).apply store))) := by
  refine ⟨within, fun row => ?_, fun id => sparesUsers_updateUser _ _ store id, rfl⟩
  rw [mem_createAssignments]
  refine or_congr (Iff.trans mem_deleteAssignments ?_) Iff.rfl
  simp [Reachable, covers, AccountEffect.apply]

theorem replaceAssignments_scoped (narrow : coversAllBrands scope.role = false) :
    (∃ value, (replaceAssignments scope userId brandIds).alone store = .ok (value, after)) ↔
      (∀ brandId ∈ brandIds, Reachable scope store userId ⟨userId, brandId⟩) ∧
        after = (AccountEffect.createAssignments userId brandIds true).apply
          ((AccountEffect.deleteAssignments userId ((assignedBrandIds (accessOf scope) userId
            store).filter scope.assignedBrandIds.contains)).apply store) := by
  have uncovered : ¬coversAllBrands scope.role = true := by simp [narrow]
  simp only [replaceAssignments, if_neg uncovered]
  constructor
  · rintro ⟨_, ran⟩
    obtain ⟨ours, ran⟩ := alone_require_bind.mp ran
    obtain ⟨_, left, deleted, created⟩ := alone_bind_eq_ok.mp ran
    rw [alone_deleteAssignments, Except.ok.injEq, Prod.mk.injEq] at deleted
    obtain ⟨-, rfl⟩ := deleted
    obtain ⟨sees, _, rfl⟩ := alone_createAssignments.mp created
    refine ⟨fun brandId listed => ⟨rfl, .inr ?_, sees brandId listed⟩, rfl⟩
    simpa using List.all_eq_true.mp ours brandId listed
  · rintro ⟨within, rfl⟩
    refine ⟨(), alone_require_bind.mpr ⟨?_, alone_bind_eq_ok.mpr ⟨(), _,
      alone_deleteAssignments _ _ _ _, alone_createAssignments.mpr
        ⟨fun brandId listed => (within brandId listed).2.2, rfl, rfl⟩⟩⟩⟩
    rw [List.all_eq_true]
    intro brandId listed
    simpa [narrow] using (within brandId listed).2.1

theorem replaces_scoped (narrow : coversAllBrands scope.role = false)
    (within : ∀ brandId ∈ brandIds, Reachable scope store userId ⟨userId, brandId⟩) :
    Replaces scope userId brandIds store
      ((AccountEffect.createAssignments userId brandIds true).apply
        ((AccountEffect.deleteAssignments userId ((assignedBrandIds (accessOf scope) userId
          store).filter scope.assignedBrandIds.contains)).apply store)) := by
  refine ⟨within, fun row => ?_, fun _ => rfl, rfl⟩
  rw [mem_createAssignments, mem_deleteAssignments]
  simp [Reachable, narrow]

theorem replaceAssignments_replaces {value : Unit}
    (ran : (replaceAssignments scope userId brandIds).alone store = .ok (value, after)) :
    Replaces scope userId brandIds store after := by
  cases covers : coversAllBrands scope.role with
  | true =>
      obtain ⟨⟨_, _, within⟩, rfl⟩ := (replaceAssignments_covering covers).mp ⟨value, ran⟩
      exact replaces_covering covers within
  | false =>
      obtain ⟨within, rfl⟩ := (replaceAssignments_scoped covers).mp ⟨value, ran⟩
      exact replaces_scoped covers within

end Replacing

/-! ## The two calls -/

structure Addresses (scope : RequestScope) (store : Store) (userId : String) (existing : User) :
    Prop where
  another : userId ≠ scope.userId
  found : visible? scope userId store = some existing
  rank : mayAssignRole scope.role existing.role = true

def withRole (scope : RequestScope) (userId : String) (role : Role) (store : Store) : Store :=
  (AccountEffect.updateUser (accessOf scope) userId { role := some role }).apply store

structure ChangesRole (scope : RequestScope) (userId : String) (role : Role)
    (brandIds : Option (List String)) (existing : User) (before after : Store) : Prop where
  addresses : Addresses scope before userId existing
  rank : mayAssignRole scope.role role = true
  users : ∀ id, after.user? id = (withRole scope userId role before).user? id
  brandTables : after.brandTables = before.brandTables
  cleared : coversAllBrands role = true → ∀ row, row ∈ after.assignments ↔
    row ∈ before.assignments ∧ ¬Reachable scope before userId row
  kept : coversAllBrands role = false → brandIds = none → after.assignments = before.assignments
  replaced : coversAllBrands role = false → ∀ requested, brandIds = some requested →
    Replaces scope userId requested.eraseDups (withRole scope userId role before) after

section Calls

variable {scope : RequestScope} {userId : String} {role : Role} {brandIds : List String}
  {requested : Option (List String)} {managed : ManagedUser} {store after : Store}

theorem updateBrands_eq_ok :
    (∃ managed, (updateBrands scope userId brandIds).alone store = .ok (managed, after)) ↔
      ∃ existing, Addresses scope store userId existing ∧
        coversAllBrands existing.role = false ∧
          ∃ value, (replaceAssignments scope userId brandIds.eraseDups).alone store =
            .ok (value, after) := by
  constructor
  · rintro ⟨managed, ran⟩
    obtain ⟨another, ran⟩ := alone_require_bind.mp ran
    obtain ⟨existing, found, ran⟩ := alone_orThrow_bind.mp ran
    have named : existing.id = userId := (Store.user?_eq_some.mp (visible?_eq_some found).1).2
    obtain ⟨rank, ran⟩ := alone_require_bind.mp ran
    obtain ⟨uncovered, ran⟩ := alone_require_bind.mp ran
    obtain ⟨_, middle, replaced, ran⟩ := alone_bind_eq_ok.mp ran
    obtain ⟨row, _, ran⟩ := alone_orThrow_bind.mp ran
    rw [pure_eq_done, alone, Except.ok.injEq, Prod.mk.injEq] at ran
    obtain ⟨-, rfl⟩ := ran
    rw [named] at replaced
    exact ⟨existing, ⟨by simpa using another, found, rank⟩, by simpa using uncovered, _, replaced⟩
  · rintro ⟨existing, addresses, uncovered, value, replaced⟩
    obtain ⟨here, _⟩ := visible?_eq_some addresses.found
    obtain rfl : existing.id = userId := (Store.user?_eq_some.mp here).2
    have still := ((replaceAssignments_replaces replaced).users existing.id).trans here
    refine ⟨toManagedUser (accessOf scope) after existing, ?_⟩
    refine alone_require_bind.mpr ⟨by simpa using addresses.another, ?_⟩
    refine alone_orThrow_bind.mpr ⟨existing, addresses.found, ?_⟩
    refine alone_require_bind.mpr ⟨addresses.rank, ?_⟩
    refine alone_require_bind.mpr ⟨by simpa using uncovered, ?_⟩
    refine alone_bind_eq_ok.mpr ⟨_, after, replaced, ?_⟩
    exact alone_orThrow_bind.mpr ⟨existing, still, rfl⟩

theorem updateBrands_replaces
    (ran : (updateBrands scope userId brandIds).alone store = .ok (managed, after)) :
    ∃ existing, Addresses scope store userId existing ∧
      coversAllBrands existing.role = false ∧
        Replaces scope userId brandIds.eraseDups store after := by
  obtain ⟨existing, addresses, uncovered, _, replaced⟩ := updateBrands_eq_ok.mp ⟨managed, ran⟩
  exact ⟨existing, addresses, uncovered, replaceAssignments_replaces replaced⟩

def MaySetBrands (scope : RequestScope) (store : Store) (userId : String)
    (brandIds : List String) : Prop :=
  (∃ existing, Addresses scope store userId existing ∧ coversAllBrands existing.role = false) ∧
    brandIds ≠ [] ∧
      ∀ brandId ∈ brandIds, (accessOf scope).seesBrand store.brandTables brandId = true

theorem eraseDups_ne_nil {α : Type} [BEq α] {values : List α} :
    values.eraseDups ≠ [] ↔ values ≠ [] := by
  cases values with
  | nil => simp
  | cons value rest => simp [List.eraseDups_cons]

theorem updateBrands_passes_iff (covers : coversAllBrands scope.role = true) :
    (∃ managed after, (updateBrands scope userId brandIds).alone store = .ok (managed, after)) ↔
      MaySetBrands scope store userId brandIds := by
  constructor
  · rintro ⟨managed, after, ran⟩
    obtain ⟨existing, addresses, uncovered, value, replaced⟩ :=
      updateBrands_eq_ok.mp ⟨managed, ran⟩
    obtain ⟨⟨some_, _, within⟩, _⟩ := (replaceAssignments_covering covers).mp ⟨value, replaced⟩
    refine ⟨⟨existing, addresses, uncovered⟩, eraseDups_ne_nil.mp some_, ?_⟩
    intro brandId listed
    exact (within brandId (by simpa using listed)).2.2
  · rintro ⟨⟨existing, addresses, uncovered⟩, some_, sees⟩
    have within : ∀ brandId ∈ brandIds.eraseDups,
        Reachable scope store userId ⟨userId, brandId⟩ := by
      intro brandId listed
      exact ⟨rfl, .inl covers, sees brandId (by simpa using listed)⟩
    obtain ⟨value, replaced⟩ := (replaceAssignments_covering covers).mpr
      ⟨⟨eraseDups_ne_nil.mpr some_, ⟨existing, visible?_eq_some addresses.found⟩, within⟩, rfl⟩
    obtain ⟨managed, ran⟩ := updateBrands_eq_ok.mpr
      ⟨existing, addresses, uncovered, value, replaced⟩
    exact ⟨managed, _, ran⟩

theorem assignmentsAfter_alone {value : Unit}
    (ran : (assignmentsAfter scope userId role requested).alone store = .ok (value, after))
    (rank : mayAssignRole scope.role role = true) :
    (∀ id, after.user? id = store.user? id) ∧ after.brandTables = store.brandTables ∧
      (coversAllBrands role = true → ∀ row, row ∈ after.assignments ↔
        row ∈ store.assignments ∧ ¬Reachable scope store userId row) ∧
      (coversAllBrands role = false → requested = none →
        after.assignments = store.assignments) ∧
      (coversAllBrands role = false → ∀ brandIds, requested = some brandIds →
        Replaces scope userId brandIds.eraseDups store after) := by
  cases covers : coversAllBrands role with
  | true =>
      simp only [assignmentsAfter, if_pos covers, alone_deleteAssignments, Except.ok.injEq,
        Prod.mk.injEq] at ran
      obtain ⟨-, rfl⟩ := ran
      have above := covers_of_mayAssign rank covers
      refine ⟨fun _ => rfl, rfl, fun _ row => ?_, by simp, by simp⟩
      rw [mem_deleteAssignments]
      simp [Reachable, above]
  | false =>
      simp only [assignmentsAfter, covers, Bool.false_eq_true, if_false] at ran
      cases requested with
      | none =>
          rw [pure_eq_done, alone, Except.ok.injEq, Prod.mk.injEq] at ran
          obtain ⟨-, rfl⟩ := ran
          exact ⟨fun _ => rfl, rfl, by simp, fun _ _ => rfl, by simp⟩
      | some brandIds =>
          have replaces := replaceAssignments_replaces ran
          refine ⟨replaces.users, replaces.brandTables, by simp, by simp, ?_⟩
          rintro - _ ⟨⟩
          exact replaces

theorem updateRole_changes
    (passed : (updateRole scope userId role requested).alone store = .ok (managed, after)) :
    ∃ existing, ChangesRole scope userId role requested existing store after := by
  obtain ⟨another, looked⟩ := alone_require_bind.mp passed
  obtain ⟨existing, found, ran⟩ := alone_orThrow_bind.mp looked
  obtain rfl : existing.id = userId := (Store.user?_eq_some.mp (visible?_eq_some found).1).2
  obtain ⟨ranks, ran⟩ := alone_require_bind.mp ran
  obtain ⟨rank, standing⟩ := Bool.and_eq_true_iff.mp ranks
  obtain ⟨_, middle, guarded, branded⟩ := alone_bind_eq_ok.mp ran
  rw [guardOwners_alone guarded] at branded
  obtain ⟨_, ran⟩ := alone_require_bind.mp branded
  obtain ⟨user, changed, updated, ran⟩ := alone_bind_eq_ok.mp ran
  obtain ⟨_, rfl, _⟩ := alone_updateUser.mp updated
  obtain ⟨_, left, assigned, ran⟩ := alone_bind_eq_ok.mp ran
  obtain ⟨row, _, ran⟩ := alone_orThrow_bind.mp ran
  rw [pure_eq_done, alone, Except.ok.injEq, Prod.mk.injEq] at ran
  obtain ⟨-, rfl⟩ := ran
  obtain ⟨users, tables, cleared, kept, replaced⟩ := assignmentsAfter_alone assigned rank
  exact ⟨existing, ⟨by simpa using another, found, standing⟩, rank, users, tables, cleared, kept,
    replaced⟩

end Calls

/-! ## Whole calls -/

inductive AssignmentCall where
  | updateRole (userId : String) (role : Role) (brandIds : Option (List String))
  | updateBrands (userId : String) (brandIds : List String)

namespace AssignmentCall

def userId : AssignmentCall → String
  | updateRole userId _ _ => userId
  | updateBrands userId _ => userId

def program (scope : RequestScope) : AssignmentCall → Tx ManagedUser
  | updateRole userId role brandIds => UsersService.updateRole scope userId role brandIds
  | updateBrands userId brandIds => UsersService.updateBrands scope userId brandIds

def after (scope : RequestScope) (call : AssignmentCall) (store : Store) : Store :=
  ((call.program scope).exec store).store

end AssignmentCall

section Uncommitted

variable {scope : RequestScope} {userId : String}

theorem uncommitted_require {condition : Bool} {error : AccountError} :
    (require condition error).Uncommitted := by
  cases condition <;> trivial

theorem uncommitted_orThrow {γ : Type} {error : AccountError} {found : Option γ} :
    (orThrow error found).Uncommitted := by
  cases found <;> trivial

theorem uncommitted_updateUser {access : Access} {data : UserUpdate} :
    (updateUser access userId data).Uncommitted := by
  refine Uncommitted.bind (fun _ => trivial) fun updated => ?_
  exact uncommitted_require.bind fun _ store => uncommitted_orThrow

theorem uncommitted_createAssignments {access : Access} {brandIds : List String}
    {skipDuplicates : Bool} :
    (UsersService.createAssignments access userId brandIds skipDuplicates).Uncommitted := by
  intro store
  refine uncommitted_require.bind fun _ => ?_
  exact Uncommitted.bind (fun _ => trivial) fun created => uncommitted_require

theorem uncommitted_replaceAssignments {brandIds : List String} :
    (replaceAssignments scope userId brandIds).Uncommitted := by
  unfold replaceAssignments
  split
  next =>
    refine uncommitted_require.bind fun _ => uncommitted_updateUser.bind fun _ => ?_
    exact Uncommitted.bind (fun _ _ => trivial) fun _ => uncommitted_createAssignments
  next =>
    refine uncommitted_require.bind fun _ => ?_
    exact Uncommitted.bind (fun _ _ => trivial) fun _ => uncommitted_createAssignments

theorem uncommitted_assignmentsAfter {role : Role} {brandIds : Option (List String)} :
    (assignmentsAfter scope userId role brandIds).Uncommitted := by
  unfold assignmentsAfter
  split
  next => exact fun _ _ => trivial
  next =>
    cases brandIds with
    | none => trivial
    | some brandIds => exact uncommitted_replaceAssignments

theorem uncommitted_guardOwners {access : Access} {losesOwner : Bool} :
    (guardOwners access losesOwner userId).Uncommitted := by
  cases losesOwner with
  | false => trivial
  | true => exact fun store => uncommitted_require

theorem AssignmentCall.uncommitted (call : AssignmentCall) :
    (call.program scope).Uncommitted := by
  have reread : ∀ id : String, Uncommitted (do
      let store ← (read : Tx Store)
      let row ← orThrow .recordNotFound (store.user? id)
      pure (toManagedUser (accessOf scope) store row) : Tx ManagedUser) :=
    fun id store => uncommitted_orThrow.bind fun _ => trivial
  cases call with
  | updateRole userId role brandIds =>
      refine uncommitted_require.bind fun _ store => uncommitted_orThrow.bind fun existing => ?_
      refine uncommitted_require.bind fun _ => uncommitted_guardOwners.bind fun _ => ?_
      refine uncommitted_require.bind fun _ => uncommitted_updateUser.bind fun _ => ?_
      exact uncommitted_assignmentsAfter.bind fun _ => reread existing.id
  | updateBrands userId brandIds =>
      refine uncommitted_require.bind fun _ store => uncommitted_orThrow.bind fun existing => ?_
      refine uncommitted_require.bind fun _ => uncommitted_require.bind fun _ => ?_
      exact uncommitted_replaceAssignments.bind fun _ => reread existing.id

theorem AssignmentCall.after_of_error {call : AssignmentCall} {store : Store}
    {error : AccountError} (ran : (call.program scope).alone store = .error error) :
    call.after scope store = store :=
  call.uncommitted.store_of_error ran

theorem AssignmentCall.after_of_ok {call : AssignmentCall} {store after : Store}
    {managed : ManagedUser} (ran : (call.program scope).alone store = .ok (managed, after)) :
    call.after scope store = after :=
  call.uncommitted.store_of_ok ran

end Uncommitted

/-! ## The merchant of an assignment -/

def AssignmentsOwned (store : Store) : Prop :=
  ∀ row ∈ store.assignments, ∃ user, store.user? row.userId = some user ∧
    ∃ brand ∈ store.brandTables.brands, brand.id = row.brandId ∧
      brand.merchantId = user.merchantId

section Owned

variable {scope : RequestScope} {userId : String} {existing : User} {store after : Store}

theorem reachable_of_owned (owned : AssignmentsOwned store)
    (covers : coversAllBrands scope.role = true)
    (addresses : Addresses scope store userId existing) {row : UserBrandAssignment}
    (member : row ∈ store.assignments) (named : row.userId = userId) :
    Reachable scope store userId row := by
  refine ⟨named, .inl covers, ?_⟩
  obtain ⟨user, found, brand, listed, id, merchant⟩ := owned row member
  obtain ⟨here, sees⟩ := visible?_eq_some addresses.found
  rw [named, here] at found
  obtain rfl := Option.some.inj found
  have ours := seesUser_iff.mp sees
  simp only [accessOf, Access.seesBrand, appBrandVisible, ours, Bool.and_eq_true,
    List.any_eq_true, decide_eq_true_eq]
  exact ⟨⟨brand, listed, id, merchant⟩, by simp [appAllBrands, databaseScopeSettings, covers,
    nullIfEmpty]⟩

/-- A row within reach is of a brand of the user's merchant. -/
theorem owned_of_reachable (addresses : Addresses scope store userId existing)
    {row : UserBrandAssignment} (reachable : Reachable scope store userId row) :
    ∃ brand ∈ store.brandTables.brands, brand.id = row.brandId ∧
      brand.merchantId = existing.merchantId := by
  have ours := seesUser_iff.mp (visible?_eq_some addresses.found).2
  have visible := reachable.2.2
  simp only [accessOf, Access.seesBrand, appBrandVisible, ours, Bool.and_eq_true,
    List.any_eq_true, decide_eq_true_eq] at visible
  obtain ⟨⟨brand, listed, id, merchant⟩, _⟩ := visible
  exact ⟨brand, listed, id, merchant⟩

theorem assignmentsOwned_of_rows (owned : AssignmentsOwned store)
    (addresses : Addresses scope store userId existing)
    (users : ∀ id user, store.user? id = some user →
      ∃ next, after.user? id = some next ∧ next.merchantId = user.merchantId)
    (tables : after.brandTables = store.brandTables)
    (rows : ∀ row ∈ after.assignments,
      row ∈ store.assignments ∨ Reachable scope store userId row) :
    AssignmentsOwned after := by
  have whose : ∀ row ∈ after.assignments, ∃ user, store.user? row.userId = some user ∧
      ∃ brand ∈ store.brandTables.brands, brand.id = row.brandId ∧
        brand.merchantId = user.merchantId := by
    intro row member
    rcases rows row member with held | reachable
    · exact owned row held
    · refine ⟨existing, ?_, owned_of_reachable addresses reachable⟩
      rw [reachable.1]
      exact (visible?_eq_some addresses.found).1
  intro row member
  obtain ⟨user, found, brand, listed, id, merchant⟩ := whose row member
  obtain ⟨next, here, same⟩ := users _ user found
  exact ⟨next, here, brand, tables ▸ listed, id, merchant.trans same.symm⟩

end Owned

section Edits

variable {scope : RequestScope} {userId : String} {brandIds : List String} {store after : Store}

theorem Replaces.frame (replaces : Replaces scope userId brandIds store after)
    {row : UserBrandAssignment} (beyond : ¬Reachable scope store userId row) :
    row ∈ after.assignments ↔ row ∈ store.assignments := by
  rw [replaces.rows]
  constructor
  · rintro (⟨held, _⟩ | ⟨named, listed⟩)
    · exact held
    · exact absurd (named ▸ replaces.within row.brandId listed) beyond
  · exact fun held => .inl ⟨held, beyond⟩

structure Edits (scope : RequestScope) (userId : String) (before after : Store) : Prop where
  addresses : ∃ existing, Addresses scope before userId existing
  users : ∀ id user, before.user? id = some user →
    ∃ next, after.user? id = some next ∧ next.merchantId = user.merchantId
  brandTables : after.brandTables = before.brandTables
  frame : ∀ row, ¬Reachable scope before userId row →
    (row ∈ after.assignments ↔ row ∈ before.assignments)

theorem AssignmentCall.edits {call : AssignmentCall} {managed : ManagedUser}
    (ran : (call.program scope).alone store = .ok (managed, after)) :
    Edits scope call.userId store after := by
  cases call with
  | updateBrands userId brandIds =>
      obtain ⟨existing, addresses, _, replaces⟩ := updateBrands_replaces ran
      refine ⟨⟨existing, addresses⟩, fun id user found => ?_, replaces.brandTables, fun row =>
        replaces.frame⟩
      exact ⟨user, (replaces.users id).trans found, rfl⟩
  | updateRole userId role brandIds =>
      obtain ⟨existing, changes⟩ := updateRole_changes ran
      refine ⟨⟨existing, changes.addresses⟩, fun id user found => ?_, changes.brandTables,
        fun row beyond => ?_⟩
      · obtain ⟨next, there, merchant⟩ := (AccountEffect.leads (.updateUser (accessOf scope) userId
          { role := some role }) store).users id user found
        exact ⟨next, (changes.users id).trans there, merchant⟩
      · cases covers : coversAllBrands role with
        | true =>
            rw [changes.cleared covers]
            exact ⟨And.left, fun held => ⟨held, beyond⟩⟩
        | false =>
            cases brandIds with
            | none => rw [changes.kept covers rfl]
            | some brandIds => exact (changes.replaced covers brandIds rfl).frame beyond

/-- Every edit keeps the assignments within one merchant. -/
theorem assignmentsOwned_after (owned : AssignmentsOwned store) (call : AssignmentCall) :
    AssignmentsOwned (call.after scope store) := by
  cases ran : (call.program scope).alone store with
  | error error =>
      rw [AssignmentCall.after_of_error ran]
      exact owned
  | ok passed =>
      rw [AssignmentCall.after_of_ok ran]
      have edits := AssignmentCall.edits ran
      obtain ⟨existing, addresses⟩ := edits.addresses
      refine assignmentsOwned_of_rows owned addresses edits.users edits.brandTables ?_
      intro row member
      by_cases reachable : Reachable scope store call.userId row
      · exact .inr reachable
      · exact .inl ((edits.frame row reachable).mp member)

theorem administers_of_reachable {existing : User}
    (addresses : Addresses scope store userId existing) {row : UserBrandAssignment}
    (reachable : Reachable scope store userId row) : administers scope row.brandId :=
  (administers_iff (can_write_of_mayAssign addresses.rank)).mpr reachable.2.1

end Edits

/-- An edit of assignments stays inside the brands of the actor: it leaves the rows of other
users and of brands the actor does not administer alone, an all-brand actor sets exactly what
it asks for where it may, an all-brand role ends with no rows, and what is refused changes
nothing. -/
theorem edits_stay_inside (scope : RequestScope) (store : Store)
    (owned : AssignmentsOwned store) :
    (∀ (call : AssignmentCall) (row : UserBrandAssignment),
      row.userId ≠ call.userId ∨ ¬administers scope row.brandId →
        (row ∈ (call.after scope store).assignments ↔ row ∈ store.assignments)) ∧
    (coversAllBrands scope.role = true → ∀ userId brandIds,
      ((∃ managed, ((updateBrands scope userId brandIds).exec store).outcome = .ok managed) ↔
        MaySetBrands scope store userId brandIds) ∧
      ∀ managed, ((updateBrands scope userId brandIds).exec store).outcome = .ok managed →
        ∀ brandId, ⟨userId, brandId⟩ ∈
          ((AssignmentCall.updateBrands userId brandIds).after scope store).assignments ↔
            brandId ∈ brandIds) ∧
    (∀ userId role requested managed, coversAllBrands role = true →
      ((updateRole scope userId role requested).exec store).outcome = .ok managed →
        ∀ row ∈ ((AssignmentCall.updateRole userId role requested).after scope store).assignments,
          row.userId ≠ userId) ∧
    ∀ (call : AssignmentCall) error, ((call.program scope).exec store).outcome = .error error →
      call.after scope store = store := by
  refine ⟨?_, ?_, ?_, fun call error refused => call.uncommitted.store_of_outcome_error refused⟩
  · intro call row outside
    cases ran : (call.program scope).alone store with
    | error error => rw [AssignmentCall.after_of_error ran]
    | ok passed =>
        rw [AssignmentCall.after_of_ok ran]
        have edits := AssignmentCall.edits ran
        obtain ⟨existing, addresses⟩ := edits.addresses
        refine edits.frame row fun reachable => ?_
        rcases outside with other | unadministered
        · exact other reachable.1
        · exact unadministered (administers_of_reachable addresses reachable)
  · intro covers userId brandIds
    have whole : (updateBrands scope userId brandIds).Uncommitted :=
      (AssignmentCall.updateBrands userId brandIds).uncommitted
    refine ⟨?_, fun managed passed brandId => ?_⟩
    · refine Iff.trans ⟨?_, ?_⟩ (updateBrands_passes_iff covers)
      · rintro ⟨managed, passed⟩
        exact ⟨managed, _, whole.outcome_eq_ok.mp passed⟩
      · rintro ⟨managed, after, ran⟩
        rw [← whole.store_of_ok ran] at ran
        exact ⟨managed, whole.outcome_eq_ok.mpr ran⟩
    have ran := whole.outcome_eq_ok.mp passed
    obtain ⟨existing, addresses, _, replaces⟩ := updateBrands_replaces ran
    refine (replaces.rows _).trans ⟨?_, fun listed => .inr ⟨rfl, by simpa using listed⟩⟩
    rintro (⟨held, beyond⟩ | ⟨_, listed⟩)
    · exact absurd (reachable_of_owned owned covers addresses held rfl) beyond
    · simpa using listed
  · intro userId role requested managed covers passed row member named
    have ran :=
      (AssignmentCall.updateRole userId role requested).uncommitted.outcome_eq_ok.mp passed
    obtain ⟨existing, changes⟩ := updateRole_changes ran
    obtain ⟨held, beyond⟩ := (changes.cleared covers row).mp member
    exact beyond (reachable_of_owned owned (covers_of_mayAssign changes.rank covers)
      changes.addresses held named)

def sampleStaff : Store :=
  { sampleAccounts with
    users := (UniqueTable.put? [
      { id := "bea", merchantId := "m", email := "bea@m", passwordHash := "h1", name := "Bea",
        role := .brandAdmin, status := .active, createdAt := 1 },
      { id := "rob", merchantId := "m", email := "rob@m", passwordHash := "h2", name := "Rob",
        role := .readOnly, status := .active, createdAt := 2 }]).getD .empty
    assignments := [⟨"bea", "a"⟩, ⟨"rob", "a"⟩, ⟨"rob", "b"⟩]
    brandTables := {
      brands := [⟨"a", "m"⟩, ⟨"b", "m"⟩]
      zohoConnections := []
      ids := by decide
      merchantNamed := by decide
      connectedOnce := List.nodup_nil
      owned := by simp } }

def sampleBrandAdmin : RequestScope where
  merchantId := "m"
  userId := "bea"
  role := .brandAdmin
  assignedBrandIds := ["a"]
  sessionId := "s"
  sourceIp := none

instance (store : Store) : Decidable (AssignmentsOwned store) :=
  decidable_of_iff (store.assignments.all fun row =>
      (store.user? row.userId).any fun user => store.brandTables.brands.any fun brand =>
        brand.id = row.brandId && brand.merchantId = user.merchantId) (by
    simp [AssignmentsOwned, Option.any_eq_true])

instance (scope : RequestScope) (brandId : String) : Decidable (administers scope brandId) :=
  inferInstanceAs (Decidable (_ = _))

/-- Whatever Bea asks for, Rob keeps the brand she does not administer; Olga may leave Rob with the
other one only. -/
theorem edits_stay_inside_sample :
    let olga := sampleOwnerScope "olga"
    ⟨"rob", "b"⟩ ∈ ((AssignmentCall.updateBrands "rob" []).after sampleBrandAdmin
        sampleStaff).assignments ∧
      (∃ managed, ((updateBrands olga "rob" ["b", "b"]).exec sampleStaff).outcome = .ok managed) ∧
      ⟨"rob", "a"⟩ ∉ ((AssignmentCall.updateBrands "rob" ["b", "b"]).after olga
        sampleStaff).assignments := by
  intro olga
  have kept := (edits_stay_inside sampleBrandAdmin sampleStaff (by decide)).1
  have replaced := (edits_stay_inside olga sampleStaff (by decide)).2.1 rfl "rob" ["b", "b"]
  obtain ⟨managed, passed⟩ := replaced.1.mpr
    ⟨⟨_, ⟨by decide, rfl, by decide⟩, rfl⟩, by decide, by decide⟩
  refine ⟨(kept (.updateBrands "rob" []) ⟨"rob", "b"⟩ (.inr (by decide))).mpr (by decide),
    ⟨managed, passed⟩, fun held => ?_⟩
  have asked := (replaced.2 managed passed "a").mp held
  revert asked
  decide

end Accounts

end MultiBrandInvoicing
