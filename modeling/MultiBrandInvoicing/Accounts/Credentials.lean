import MultiBrandInvoicing.Accounts.Statements

/-!
# Links and sessions

`PasswordResetService` and `SessionService` in `apps/api/src/auth`.  Every statement commits on
its own.  The digests of `node:crypto` are parameters, and the random tokens of a call are its
arguments; so is the time, one for a call.
-/

set_option autoImplicit false

namespace MultiBrandInvoicing

namespace Accounts

open ReadCommitted Program Roles Tenancy

structure Digests where
  hashToken : String → String
  verifyPassword : String → String → Bool

structure IssuedToken where
  token : String
  expiresAt : Time
  deriving DecidableEq, Repr

structure AttemptContext where
  sourceIp : Option String
  userAgent : Option String
  deriving DecidableEq, Repr

namespace PasswordResetService

def tokenTtlHours : Int := 24

def unused (userId : String) (store : Store) : List PasswordResetToken :=
  store.resetTokens.rows.filter fun row => row.userId = userId && row.usedAt.isNone

def issue (digests : Digests) (userId token : String) (now : Time) : Tx IssuedToken := do
  let expiresAt := now + tokenTtlHours * 3600 * 1000
  let store ← read
  let _ ← performNow (.spendResetTokens userId
    ((unused userId store).map PasswordResetToken.tokenHash) now)
  let created ← performNow (.createResetToken {
    userId
    tokenHash := digests.hashToken token
    expiresAt })
  require created .constraintViolation
  pure { token, expiresAt }

def consume (digests : Digests) (token : String) (now : Time) : Tx (Option String) := do
  let tokenHash := digests.hashToken token
  let claimed ← performNow (.claimResetToken tokenHash now)
  if claimed then
    let store ← read
    pure ((store.resetToken? tokenHash).map PasswordResetToken.userId)
  else pure none

end PasswordResetService

namespace SessionService

def sessionTtlHours : Int := 12

def issue (digests : Digests) (id userId token : String) (context : AttemptContext)
    (now : Time) : Tx IssuedToken := do
  let expiresAt := now + sessionTtlHours * 3600 * 1000
  let created ← performNow (.createSession {
    id
    userId
    tokenHash := digests.hashToken token
    expiresAt
    sourceIp := context.sourceIp
    userAgent := context.userAgent })
  require created .constraintViolation
  pure { token, expiresAt }

/-- The scope of the session that `app_resolve_session` finds in these rows. -/
def resolved (tokenHash : String) (sourceIp : Option String) (now : Time) (store : Store) :
    Option RequestScope := do
  let session ← store.session? tokenHash
  let user ← store.user? session.userId
  if session.revokedAt.isSome then none
  else if session.expiresAt ≤ now then none
  else if user.status = .suspended then none
  else
    some {
      merchantId := user.merchantId
      userId := user.id
      role := user.role
      assignedBrandIds := (store.assignments.filter fun row => row.userId = user.id).map
        UserBrandAssignment.brandId
      sessionId := session.id
      sourceIp }

def resolve (digests : Digests) (token : String) (sourceIp : Option String) (now : Time) :
    Tx (Option RequestScope) := do
  let store ← read
  pure (resolved (digests.hashToken token) sourceIp now store)

def unrevoked (userId : String) (store : Store) : List Session :=
  store.sessions.rows.filter fun row => row.userId = userId && row.revokedAt.isNone

/-- No caller reads how many rows were revoked. -/
def revokeAllForUser (userId : String) (now : Time) : Tx Unit := do
  let store ← read
  let _ ← performNow (.revokeSessions userId
    ((unrevoked userId store).map Session.tokenHash) now)
  pure ()

end SessionService

structure SignedRequest where
  token : String
  sourceIp : Option String
  now : Time
  deriving DecidableEq, Repr

/-- A route behind `AuthorisationGuard`, with a permission that names no brand. -/
def authorised {α : Type} (digests : Digests) (request : SignedRequest) (resource : Resource)
    (action : Roles.Action) (handler : RequestScope → Tx α) : Tx α := do
  let scope ← SessionService.resolve digests request.token request.sourceIp request.now
  let scope ← orThrow (.unauthorized "authentication required") scope
  require (can scope.role resource action) (.forbidden "insufficient permissions")
  handler scope

/-! ## Along the text of a call -/

section Texts

variable {P : AccountEffect → Prop} {digests : Digests} {userId token : String} {now : Time}

theorem PasswordResetService.issue_performs
    (spends : ∀ tokenHashes, P (.spendResetTokens userId tokenHashes now))
    (creates : ∀ row, P (.createResetToken row)) :
    Performs P (PasswordResetService.issue digests userId token now) := by
  unfold PasswordResetService.issue
  intro store
  refine performs_performNow (spends _) fun _ => ?_
  exact performs_performNow (creates _) fun _ => performs_require fun _ => trivial

theorem SessionService.issue_performs {id : String} {context : AttemptContext}
    (creates : ∀ row : Session, P (.createSession row)) :
    Performs P (SessionService.issue digests id userId token context now) := by
  unfold SessionService.issue
  exact performs_performNow (creates _) fun _ => performs_require fun _ => trivial

theorem SessionService.revokeAllForUser_performs
    (revokes : ∀ tokenHashes, P (.revokeSessions userId tokenHashes now)) :
    Performs P (SessionService.revokeAllForUser userId now) := by
  unfold SessionService.revokeAllForUser
  exact fun store => performs_performNow (revokes _) fun _ => trivial

variable {request : SignedRequest} {resource : Resource} {action : Roles.Action} {α β : Type}
  {handler : RequestScope → Tx α}

/-- The scope that the guard lets a request in with. -/
def admitted? (digests : Digests) (request : SignedRequest) (store : Store) :
    Option RequestScope :=
  SessionService.resolved (digests.hashToken request.token) request.sourceIp request.now store

theorem authorised_performs (handles : ∀ scope, Performs P (handler scope)) :
    Performs P (authorised digests request resource action handler) := by
  unfold authorised
  intro store
  exact performs_orThrow fun scope _ => performs_require fun _ => handles scope

variable {conduct : Conduct Store AccountEffect AccountError β}
  {last : α → Journal Store AccountEffect → (Store → Store) → List RowKey → (Store → Prop) → Prop}
  {journal : Journal Store AccountEffect} {rows : List RowKey}

theorem follows_authorised
    (refused : ∀ store error, conduct.ends (.dropped :: .found store :: journal) (.error error))
    (admitted : ∀ store scope, admitted? digests request store = some scope →
      can scope.role resource action = true →
        (handler scope).Follows accountRely conduct last (.found store :: journal)
          (fun store => store) rows fun _ => True) :
    (authorised digests request resource action handler).Follows accountRely conduct last journal
      (fun store => store) rows fun _ => True := by
  intro store _ _
  refine ⟨_, Rely.stable_true, trivial, ?_⟩
  refine follows_orThrow (fun _ => refused store _) fun scope found => ?_
  exact follows_require (fun _ => refused store _) fun may => admitted store scope found may

end Texts

def sampleDigests : Digests where
  hashToken := fun token => token
  verifyPassword := fun password stored => password = stored

end Accounts

end MultiBrandInvoicing
