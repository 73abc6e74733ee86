import MultiBrandInvoicing.Accounts.Credentials

/-!
# Users

`UsersService` in `apps/api/src/users/users.service.ts`.  Every method but the mail after an
invitation runs in one transaction under `withScope`.
-/

set_option autoImplicit false

namespace MultiBrandInvoicing

namespace Accounts

open ReadCommitted Program Roles Tenancy

structure InviteUserInput where
  email : String
  name : String
  role : Role
  brandIds : List String

structure ManagedUser where
  id : String
  email : String
  name : String
  role : Role
  status : UserStatus
  assignedBrandIds : List String
  createdAt : Time
  lastLoginAt : Option Time
  deriving DecidableEq, Repr

namespace UsersService

def accessOf (scope : RequestScope) : Access := .scoped (databaseScopeSettings (.request scope))

def aboveOwnRole : AccountError := .forbidden "you may not assign a role above your own"
def needsBrand : AccountError := .badRequest "this role needs at least one assigned brand"
def insufficient : AccountError := .forbidden "insufficient permissions for this user"

/-- The assignments of a user that row-level security shows. -/
def assignedBrandIds (access : Access) (userId : String) (store : Store) : List String :=
  (store.assignments.filter fun row =>
    row.userId = userId && access.seesBrand store.brandTables row.brandId).map
      UserBrandAssignment.brandId

def toManagedUser (access : Access) (store : Store) (row : User) : ManagedUser where
  id := row.id
  email := row.email
  name := row.name
  role := row.role
  status := row.status
  assignedBrandIds := assignedBrandIds access row.id store
  createdAt := row.createdAt
  lastLoginAt := row.lastLoginAt

/-- A Brand Admin sees itself and the users of the brands it administers. -/
def isVisible (scope : RequestScope) (store : Store) (row : User) : Bool :=
  coversAllBrands scope.role || row.id = scope.userId ||
    (assignedBrandIds (accessOf scope) row.id store).any scope.assignedBrandIds.contains

def visible? (scope : RequestScope) (id : String) (store : Store) : Option User :=
  (store.user? id).filter fun row => (accessOf scope).seesUser row && isVisible scope store row

def requireVisible (scope : RequestScope) (id : String) : Tx User := do
  let store ← read
  orThrow (.notFound "user not found") (visible? scope id store)

/-- Active here means not suspended. -/
def isActiveOwner (row : User) : Bool :=
  row.role = .merchantOwner && row.status ≠ .suspended

def remainingOwners (access : Access) (excludingUserId : String) (store : Store) : List User :=
  store.users.rows.filter fun row =>
    access.seesUser row && isActiveOwner row && row.id ≠ excludingUserId

def assertNotLastOwner (access : Access) (excludingUserId : String) : Tx Unit := do
  let store ← read
  require (remainingOwners access excludingUserId store ≠ [])
    (.conflict "the merchant must always have at least one active owner")

/-- The check before a change that would take an owner out. -/
def guardOwners (access : Access) (losesOwner : Bool) (userId : String) : Tx Unit :=
  if losesOwner then assertNotLastOwner access userId else pure ()

/-- The rows that `deleteMany` finds, and then deletes. -/
def deleteAssignments (access : Access) (userId : String) (here : String → Bool) : Tx Unit := do
  let store ← read
  let _ ← perform (.deleteAssignments userId
    ((assignedBrandIds access userId store).filter here))
  pure ()

/-- An insert that row-level security checks; the errors are those `translateWriteError`
makes of it. -/
def createAssignments (access : Access) (userId : String) (brandIds : List String)
    (skipDuplicates : Bool) : Tx Unit := do
  let store ← read
  require (brandIds.all (access.seesBrand store.brandTables))
    (.forbidden "insufficient permissions")
  let created ← perform (.createAssignments userId brandIds skipDuplicates)
  require created (.conflict "a user with this email address already exists")

def replaceAssignments (scope : RequestScope) (userId : String) (brandIds : List String) :
    Tx Unit :=
  if coversAllBrands scope.role then do
    require (brandIds ≠ []) needsBrand
    let _ ← updateUser (accessOf scope) userId {}
    deleteAssignments (accessOf scope) userId fun _ => true
    createAssignments (accessOf scope) userId brandIds false
  else do
    require (brandIds.all scope.assignedBrandIds.contains)
      (.forbidden "you may only assign brands you administer")
    deleteAssignments (accessOf scope) userId scope.assignedBrandIds.contains
    createAssignments (accessOf scope) userId brandIds true

/-- What a change of role does to the assignments: an all-brand role holds none. -/
def assignmentsAfter (scope : RequestScope) (userId : String) (role : Role)
    (brandIds : Option (List String)) : Tx Unit :=
  if coversAllBrands role then deleteAssignments (accessOf scope) userId fun _ => true
  else
    match brandIds with
    | some brandIds => replaceAssignments scope userId brandIds.eraseDups
    | none => pure ()

/-- `id` and the password's digest are drawn by the call. -/
def invite (digests : Digests) (scope : RequestScope) (input : InviteUserInput)
    (id passwordHash token : String) (mails : String → Bool) (now : Time) : Tx ManagedUser := do
  require (mayAssignRole scope.role input.role) aboveOwnRole
  let brandIds := if coversAllBrands input.role then [] else input.brandIds.eraseDups
  require (coversAllBrands input.role || brandIds ≠ []) needsBrand
  require (coversAllBrands scope.role || brandIds.all scope.assignedBrandIds.contains)
    (.forbidden "you may only assign brands you administer")
  let row : User := {
    id
    merchantId := scope.merchantId
    email := input.email
    name := input.name
    passwordHash
    role := input.role
    status := .invited
    createdAt := now }
  require ((accessOf scope).seesUser row) (.forbidden "insufficient permissions")
  let created ← perform (.createUser row)
  require created (.conflict "a user with this email address already exists")
  createAssignments (accessOf scope) id brandIds false
  let store ← read
  commitNow
  let issued ← PasswordResetService.issue digests id token now
  announce (.sendSetPasswordLink input.email issued.token)
  require (mails input.email) .mail
  pure (toManagedUser (accessOf scope) store row)

def updateRole (scope : RequestScope) (id : String) (role : Role)
    (brandIds : Option (List String)) : Tx ManagedUser := do
  require (id ≠ scope.userId) (.forbidden "you cannot change your own role")
  let existing ← requireVisible scope id
  require (mayAssignRole scope.role role && mayAssignRole scope.role existing.role) aboveOwnRole
  guardOwners (accessOf scope) (existing.role = .merchantOwner && role ≠ .merchantOwner)
    existing.id
  require (!(coversAllBrands existing.role && !coversAllBrands role &&
    (brandIds.getD []).isEmpty)) needsBrand
  let _ ← updateUser (accessOf scope) existing.id { role := some role }
  assignmentsAfter scope existing.id role brandIds
  let store ← read
  let row ← orThrow .recordNotFound (store.user? existing.id)
  pure (toManagedUser (accessOf scope) store row)

def updateBrands (scope : RequestScope) (id : String) (brandIds : List String) :
    Tx ManagedUser := do
  require (id ≠ scope.userId) (.forbidden "you cannot change your own brand assignments")
  let existing ← requireVisible scope id
  require (mayAssignRole scope.role existing.role) insufficient
  require (!coversAllBrands existing.role) (.forbidden "this role already covers every brand")
  replaceAssignments scope existing.id brandIds.eraseDups
  let store ← read
  let row ← orThrow .recordNotFound (store.user? existing.id)
  pure (toManagedUser (accessOf scope) store row)

/-- A suspension begins the count of failures anew. -/
def statusUpdate (status : UserStatus) : UserUpdate :=
  if status = .suspended then
    { status := some status, failedLogins := some 0, lockedUntil := some none }
  else { status := some status }

def updateStatus (scope : RequestScope) (id : String) (status : UserStatus) :
    Tx ManagedUser := do
  require (id ≠ scope.userId) (.forbidden "you cannot change your own account status")
  let existing ← requireVisible scope id
  require (mayAssignRole scope.role existing.role) insufficient
  guardOwners (accessOf scope) (status = .suspended && existing.role = .merchantOwner)
    existing.id
  let updated ← updateUser (accessOf scope) existing.id (statusUpdate status)
  let store ← read
  pure (toManagedUser (accessOf scope) store updated)

/-! ## Along the text of a method -/

section Texts

variable {scope : RequestScope} {target : String} {existing : User} {store : Store}

theorem seesUser_iff {row : User} :
    (accessOf scope).seesUser row = true ↔
      appMerchantId (databaseScopeSettings (.request scope)) = some row.merchantId := by
  simp [accessOf, Access.seesUser]

theorem visible?_eq_some (found : visible? scope target store = some existing) :
    store.user? target = some existing ∧ (accessOf scope).seesUser existing = true := by
  obtain ⟨here, sees⟩ := Option.filter_eq_some_iff.mp found
  exact ⟨here, (Bool.and_eq_true_iff.mp sees).1⟩

theorem createAssignments_performs {P : AccountEffect → Prop} {access : Access} {userId : String}
    {brandIds : List String} {skipDuplicates : Bool}
    (here : P (.createAssignments userId brandIds skipDuplicates)) :
    Performs P (createAssignments access userId brandIds skipDuplicates) := by
  unfold createAssignments
  intro store
  refine performs_require fun _ => ?_
  refine performs_perform here fun created => ?_
  cases created <;> trivial

variable {α β : Type} {conduct : Conduct Store AccountEffect AccountError β}
  {last : α → Journal Store AccountEffect → (Store → Store) → List RowKey → (Store → Prop) → Prop}
  {journal : Journal Store AccountEffect} {rows : List RowKey} {access : Access}

theorem follows_guard {condition : Bool} {excluding : String} {next : Unit → Tx α}
    (refused : ∀ store, conduct.ends (.dropped :: .found store :: journal)
      (.error (.conflict "the merchant must always have at least one active owner")))
    (passed : condition = false → (next ()).Follows accountRely conduct last journal
      (fun store => store) rows fun _ => True)
    (counted : ∀ store, remainingOwners access excluding store ≠ [] →
      (next ()).Follows accountRely conduct last (.found store :: journal)
        (fun store => store) rows fun _ => True) :
    (guardOwners access condition excluding >>= next).Follows accountRely conduct last journal
      (fun store => store) rows fun _ => True := by
  cases condition with
  | false => exact passed rfl
  | true =>
      intro store _ _
      refine ⟨_, Rely.stable_true, trivial, ?_⟩
      refine follows_require (fun _ => refused store) fun some_ => ?_
      exact counted store (by simpa using some_)

end Texts

end UsersService

end Accounts

end MultiBrandInvoicing
