import Mathlib.Data.List.Sort
import MultiBrandInvoicing.Accounts.Credentials

/-!
# Sign-in

`AuthService` in `apps/api/src/auth/auth.service.ts`.  `withoutScope` opens no transaction, so
between two statements of a call anything may happen; `setPassword` alone writes in one.
-/

set_option autoImplicit false

namespace MultiBrandInvoicing

namespace Accounts

open ReadCommitted Program Roles Tenancy

structure LoginAttempt where
  email : String
  password : String
  context : AttemptContext

structure AuthenticatedUser where
  id : String
  merchantId : String
  email : String
  name : String
  role : Role
  mustResetPassword : Bool
  deriving DecidableEq, Repr

structure LoginResult where
  token : String
  expiresAt : Time
  user : AuthenticatedUser
  deriving DecidableEq, Repr

namespace AuthService

def failureWindowMinutes : Int := 15
def maxFailuresInWindow : Nat := 5
def lockoutMinutes : Int := 30

def genericFailure : String := "invalid email or password"

def accountsOf (email : String) (store : Store) : List User :=
  (store.users.rows.filter fun user => user.email = email).insertionSort
    fun first second => first.createdAt ≤ second.createdAt

def auditEntry (merchantId userId : String) (outcome : AuditOutcome) (reason : Option String)
    (context : AttemptContext) (action : AuditAction) (now : Time) : AuditEntry where
  merchantId := merchantId
  actorId := userId
  action := action
  outcome := outcome
  reason := reason
  sourceIp := context.sourceIp
  userAgent := context.userAgent
  occurredAt := now

def record (merchantId userId : String) (outcome : AuditOutcome) (reason : Option String)
    (context : AttemptContext) (action : AuditAction) (now : Time) : Tx Unit := do
  let _ ← performNow
    (.createAuditEntry (auditEntry merchantId userId outcome reason context action now))
  pure ()

def signInEntries (merchantId userId : String) (outcome : AuditOutcome) (store : Store) :
    List AuditEntry :=
  store.auditLog.filter fun entry => entry.merchantId = merchantId && entry.actorId = userId &&
    entry.action = .login && entry.outcome = outcome

def windowStart (now : Time) : Time := now - failureWindowMinutes * 60000

def lastSuccess? (merchantId userId : String) (now : Time) (store : Store) : Option Time :=
  (((signInEntries merchantId userId .success store).map AuditEntry.occurredAt).filter
    fun occurredAt => windowStart now ≤ occurredAt).max?

def countFrom (lastSuccess : Option Time) (now : Time) : Time :=
  match lastSuccess with
  | some occurredAt => if windowStart now < occurredAt then occurredAt else windowStart now
  | none => windowStart now

def countedFailures (merchantId userId : String) (countFrom : Time) (store : Store) :
    List AuditEntry :=
  (signInEntries merchantId userId .failure store).filter fun entry =>
    countFrom < entry.occurredAt

def failureUpdate (failures : Nat) (now : Time) : UserUpdate where
  failedLogins := some failures
  lockedUntil :=
    if maxFailuresInWindow ≤ failures then some (some (now + lockoutMinutes * 60000)) else none

def registerFailure (merchantId userId : String) (context : AttemptContext) (now : Time) :
    Tx Unit := do
  record merchantId userId .failure (some "BAD_PASSWORD") context .login now
  let store ← read
  let lastSuccess := lastSuccess? merchantId userId now store
  let store ← read
  let failures := (countedFailures merchantId userId (countFrom lastSuccess now) store).length
  let updated ← performNow (.updateUser .unscoped userId (failureUpdate failures now))
  require updated .recordNotFound

/-- The account an attempt is about, and whether its password matched. -/
def chosen? (digests : Digests) (attempt : LoginAttempt) (store : Store) : Option (User × Bool) :=
  let candidates := accountsOf attempt.email store
  match candidates.find? fun user =>
      digests.verifyPassword attempt.password user.passwordHash with
  | some user => some (user, true)
  | none => candidates.head?.map fun user => (user, false)

def User.isLocked (user : User) (now : Time) : Bool :=
  user.lockedUntil.any fun lockedUntil => now < lockedUntil

def statusReason : UserStatus → String
  | .invited => "STATUS_INVITED"
  | .active => "STATUS_ACTIVE"
  | .suspended => "STATUS_SUSPENDED"

def startSession (digests : Digests) (row : User) (context : AttemptContext)
    (sessionId sessionToken : String) (now : Time) : Tx LoginResult := do
  let issued ← SessionService.issue digests sessionId row.id sessionToken context now
  let updated ← performNow (.updateUser .unscoped row.id {
    failedLogins := some 0
    lockedUntil := some none
    lastLoginAt := some now })
  require updated .recordNotFound
  record row.merchantId row.id .success none context .login now
  pure {
    token := issued.token
    expiresAt := issued.expiresAt
    user := {
      id := row.id
      merchantId := row.merchantId
      email := row.email
      name := row.name
      role := row.role
      mustResetPassword := row.status = .invited } }

/-- The lock is looked at before the password's result, and the status after it. -/
def answer (digests : Digests) (row : User) (passwordMatched : Bool) (context : AttemptContext)
    (sessionId sessionToken : String) (now : Time) : Tx LoginResult :=
  if User.isLocked row now then do
    record row.merchantId row.id .failure (some "LOCKED") context .login now
    .throw (.unauthorized genericFailure)
  else if !passwordMatched then do
    registerFailure row.merchantId row.id context now
    .throw (.unauthorized genericFailure)
  else if row.status = .suspended then do
    record row.merchantId row.id .failure (some (statusReason row.status)) context .login now
    .throw (.unauthorized genericFailure)
  else startSession digests row context sessionId sessionToken now

def login (digests : Digests) (attempt : LoginAttempt) (sessionId sessionToken : String)
    (now : Time) : Tx LoginResult := do
  let store ← read
  let found ← orThrow (.unauthorized genericFailure) (chosen? digests attempt store)
  answer digests found.1 found.2 attempt.context sessionId sessionToken now

/-- A link for each of the accounts, until a mail is refused. -/
def sendLinks (digests : Digests) (tokenOf : String → String) (mails : String → Bool)
    (context : AttemptContext) (now : Time) : List User → Tx Unit
  | [] => pure ()
  | candidate :: rest => do
      let issued ← PasswordResetService.issue digests candidate.id (tokenOf candidate.id) now
      announce (.sendSetPasswordLink candidate.email issued.token)
      require (mails candidate.email) .mail
      record candidate.merchantId candidate.id .success none context .passwordResetRequest now
      sendLinks digests tokenOf mails context now rest

/-- `allowed` is the answer of the rate limiter. -/
def requestPasswordReset (digests : Digests) (allowed : Bool) (tokenOf : String → String)
    (mails : String → Bool) (email : String) (context : AttemptContext) (now : Time) :
    Tx Unit :=
  if allowed then do
    let store ← read
    sendLinks digests tokenOf mails context now
      ((accountsOf email store).filter fun user => user.status ≠ .suspended)
  else pure ()

/-- A reset once its link is spent; `passwordHash` is the digest of the new password, salt
included. -/
def completeReset (digests : Digests) (userId passwordHash : String) (context : AttemptContext)
    (sessionId sessionToken : String) (now : Time) : Tx LoginResult := do
  let user ← updateUser .unscoped userId {
    passwordHash := some passwordHash
    status := some .active
    failedLogins := some 0
    lockedUntil := some none }
  commitNow
  SessionService.revokeAllForUser user.id now
  let issued ← SessionService.issue digests sessionId user.id sessionToken context now
  record user.merchantId user.id .success none context .passwordSet now
  pure {
    token := issued.token
    expiresAt := issued.expiresAt
    user := {
      id := user.id
      merchantId := user.merchantId
      email := user.email
      name := user.name
      role := user.role
      mustResetPassword := false } }

def setPasswordWithToken (digests : Digests) (token passwordHash : String)
    (context : AttemptContext) (sessionId sessionToken : String) (now : Time) :
    Tx LoginResult := do
  let claim ← PasswordResetService.consume digests token now
  let userId ← orThrow (.unauthorized "this link is no longer valid") claim
  completeReset digests userId passwordHash context sessionId sessionToken now

def setPassword (scope : RequestScope) (passwordHash : String) (now : Time) : Tx Unit := do
  let updated ← performNow (.updateUser (.scoped (databaseScopeSettings (.request scope)))
    scope.userId {
      passwordHash := some passwordHash
      status := some .active })
  require updated .recordNotFound
  record scope.merchantId scope.userId .success none
    { sourceIp := scope.sourceIp, userAgent := none } .passwordSet now

/-! ## Along the text of a call -/

section Texts

variable {P : AccountEffect → Prop} {digests : Digests} {context : AttemptContext} {now : Time}

theorem record_performs {merchantId userId : String} {outcome : AuditOutcome}
    {reason : Option String} {action : AuditAction}
    (audits : P (.createAuditEntry
      (auditEntry merchantId userId outcome reason context action now))) :
    Performs P (record merchantId userId outcome reason context action now) := by
  unfold record
  exact performs_performNow audits fun _ => trivial

theorem registerFailure_performs {merchantId userId : String}
    (audits : P (.createAuditEntry
      (auditEntry merchantId userId .failure (some "BAD_PASSWORD") context .login now)))
    (updates : ∀ data : UserUpdate, data.passwordHash = none → data.status = none →
      P (.updateUser .unscoped userId data)) :
    Performs P (registerFailure merchantId userId context now) := by
  unfold registerFailure
  refine (record_performs audits).bind fun _ => ?_
  intro store view
  exact performs_performNow (updates _ rfl rfl) fun updated => require_performs

theorem startSession_performs {row : User} {sessionId sessionToken : String}
    (audits : P (.createAuditEntry
      (auditEntry row.merchantId row.id .success none context .login now)))
    (sessions : ∀ session : Session, P (.createSession session))
    (updates : P (.updateUser .unscoped row.id {
      failedLogins := some 0
      lockedUntil := some none
      lastLoginAt := some now })) :
    Performs P (startSession digests row context sessionId sessionToken now) := by
  unfold startSession
  refine (SessionService.issue_performs sessions).bind fun issued => ?_
  refine performs_performNow updates fun updated => ?_
  exact performs_require fun _ => (record_performs audits).bind fun _ => trivial

theorem answer_performs {row : User} {matched : Bool} {sessionId sessionToken : String}
    (audits : ∀ outcome reason,
      P (.createAuditEntry (auditEntry row.merchantId row.id outcome reason context .login now)))
    (sessions : ∀ session : Session, P (.createSession session))
    (updates : ∀ data : UserUpdate, data.passwordHash = none → data.status = none →
      P (.updateUser .unscoped row.id data)) :
    Performs P (answer digests row matched context sessionId sessionToken now) := by
  unfold answer
  split
  next => exact (record_performs (audits _ _)).bind fun _ => trivial
  next =>
    split
    next => exact (registerFailure_performs (audits _ _) updates).bind fun _ => trivial
    next =>
      split
      next => exact (record_performs (audits _ _)).bind fun _ => trivial
      next => exact startSession_performs (audits _ _) sessions (updates _ rfl rfl)

theorem login_performs {attempt : LoginAttempt} {sessionId sessionToken : String}
    (audits : ∀ row, P (.createAuditEntry row)) (sessions : ∀ row, P (.createSession row))
    (updates : ∀ (id : String) (data : UserUpdate), data.passwordHash = none →
      data.status = none → P (.updateUser .unscoped id data)) :
    Performs P (login digests attempt sessionId sessionToken now) := by
  unfold login
  intro store
  exact performs_orThrow fun found _ =>
    answer_performs (fun _ _ => audits _) sessions (updates found.1.id)

theorem completeReset_performs {userId passwordHash sessionId sessionToken : String}
    (updates : P (.updateUser .unscoped userId {
      passwordHash := some passwordHash
      status := some .active
      failedLogins := some 0
      lockedUntil := some none }))
    (revokes : ∀ tokenHashes, P (.revokeSessions userId tokenHashes now))
    (sessions : ∀ session : Session, P (.createSession session))
    (audits : ∀ merchantId, P (.createAuditEntry
      (auditEntry merchantId userId .success none context .passwordSet now))) :
    Performs P
      (completeReset digests userId passwordHash context sessionId sessionToken now) := by
  unfold completeReset
  refine performs_updateUser updates fun user named => ?_
  subst named
  refine (SessionService.revokeAllForUser_performs revokes).bind fun _ => ?_
  refine (SessionService.issue_performs sessions).bind fun issued => ?_
  exact (record_performs (audits _)).bind fun _ => trivial

theorem sendLinks_performs {tokenOf : String → String} {mails : String → Bool}
    (audits : ∀ merchantId userId, P (.createAuditEntry
      (auditEntry merchantId userId .success none context .passwordResetRequest now)))
    (spends : ∀ userId tokenHashes, P (.spendResetTokens userId tokenHashes now))
    (creates : ∀ row, P (.createResetToken row)) (candidates : List User) :
    Performs P (sendLinks digests tokenOf mails context now candidates) := by
  induction candidates with
  | nil => trivial
  | cons candidate rest ih =>
      unfold sendLinks
      refine (PasswordResetService.issue_performs (spends _) creates).bind fun issued => ?_
      exact performs_require fun _ => (record_performs (audits _ _)).bind fun _ => ih

theorem requestPasswordReset_performs {allowed : Bool} {tokenOf : String → String}
    {mails : String → Bool} {email : String}
    (audits : ∀ merchantId userId, P (.createAuditEntry
      (auditEntry merchantId userId .success none context .passwordResetRequest now)))
    (spends : ∀ userId tokenHashes, P (.spendResetTokens userId tokenHashes now))
    (creates : ∀ row, P (.createResetToken row)) :
    Performs P (requestPasswordReset digests allowed tokenOf mails email context now) := by
  cases allowed with
  | false => trivial
  | true => exact fun store => sendLinks_performs audits spends creates _

end Texts

end AuthService

end Accounts

end MultiBrandInvoicing
