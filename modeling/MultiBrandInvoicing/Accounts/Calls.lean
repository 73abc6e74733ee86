import MultiBrandInvoicing.Accounts.SignIn
import MultiBrandInvoicing.Accounts.Users

/-!
# The calls on accounts

The routes of `auth.controller.ts` and `users.controller.ts` that read or write the standing of
an account, each with its guard.
-/

set_option autoImplicit false

namespace MultiBrandInvoicing

namespace Accounts

open ReadCommitted Program Roles Tenancy UsersService

inductive AccountCall where
  | invite (request : SignedRequest) (input : InviteUserInput) (id passwordHash token : String)
      (mails : String → Bool)
  | requestPasswordReset (allowed : Bool) (tokenOf : String → String) (mails : String → Bool)
      (email : String) (context : AttemptContext) (now : Time)
  | updateStatus (request : SignedRequest) (id : String) (status : UserStatus)
  | setPasswordWithToken (token passwordHash : String) (context : AttemptContext)
      (sessionId sessionToken : String) (now : Time)
  | setPassword (request : SignedRequest) (passwordHash : String)
  | login (attempt : LoginAttempt) (sessionId sessionToken : String) (now : Time)

/-- What a call answers plays no part here. -/
def discard {α : Type} (program : Tx α) : Tx Unit := do
  let _ ← program
  pure ()

def AccountCall.program (digests : Digests) : AccountCall → Tx Unit
  | invite request input id passwordHash token mails =>
      authorised digests request .users .write fun scope =>
        discard (UsersService.invite digests scope input id passwordHash token mails request.now)
  | requestPasswordReset allowed tokenOf mails email context now =>
      AuthService.requestPasswordReset digests allowed tokenOf mails email context now
  | updateStatus request id status =>
      authorised digests request .users .delete fun scope =>
        discard (UsersService.updateStatus scope id status)
  | setPasswordWithToken token passwordHash context sessionId sessionToken now =>
      discard (AuthService.setPasswordWithToken digests token passwordHash context sessionId
        sessionToken now)
  | setPassword request passwordHash =>
      authorised digests request .organisationProfile .read fun scope =>
        AuthService.setPassword scope passwordHash request.now
  | login attempt sessionId sessionToken now =>
      discard (AuthService.login digests attempt sessionId sessionToken now)

section Texts

variable {P : AccountEffect → Prop} {digests : Digests}

theorem invite_performs {scope : RequestScope} {input : InviteUserInput}
    {id passwordHash token : String} {mails : String → Bool} {now : Time}
    (creates : ∀ row : User, row.status = .invited → P (.createUser row))
    (assigns : ∀ brandIds, P (.createAssignments id brandIds false))
    (spends : ∀ tokenHashes, P (.spendResetTokens id tokenHashes now))
    (links : ∀ row, P (.createResetToken row)) :
    Performs P (UsersService.invite digests scope input id passwordHash token mails now) := by
  unfold UsersService.invite
  refine performs_require fun _ => performs_require fun _ => performs_require fun _ =>
    performs_require fun _ => ?_
  refine performs_perform (creates _ rfl) fun created => performs_require fun _ => ?_
  refine (createAssignments_performs (assigns _)).bind fun _ => ?_
  intro store
  refine (PasswordResetService.issue_performs spends links).bind fun issued => ?_
  exact performs_require fun _ => trivial

theorem updateStatus_performs {scope : RequestScope} {id : String} {status : UserStatus}
    (updates : P (.updateUser (accessOf scope) id (statusUpdate status))) :
    Performs P (UsersService.updateStatus scope id status) := by
  unfold UsersService.updateStatus
  refine performs_require fun _ store => performs_orThrow fun existing found => ?_
  have named : existing.id = id := (Store.user?_eq_some.mp (visible?_eq_some found).1).2
  refine performs_require fun _ => ?_
  have guard : Performs P (guardOwners (accessOf scope)
      (status = .suspended && existing.role = .merchantOwner) existing.id) := by
    unfold guardOwners
    split
    next => exact fun store => require_performs
    next => trivial
  refine guard.bind fun _ => ?_
  rw [named]
  exact performs_updateUser updates fun user _ store => trivial

theorem setPassword_performs {scope : RequestScope} {passwordHash : String} {now : Time}
    (updates : P (.updateUser (accessOf scope) scope.userId {
      passwordHash := some passwordHash
      status := some .active }))
    (audits : P (.createAuditEntry (AuthService.auditEntry scope.merchantId scope.userId .success
      none { sourceIp := scope.sourceIp, userAgent := none } .passwordSet now))) :
    Performs P (AuthService.setPassword scope passwordHash now) := by
  unfold AuthService.setPassword
  refine performs_performNow updates fun updated => performs_require fun _ => ?_
  exact AuthService.record_performs audits

end Texts

end Accounts

end MultiBrandInvoicing
