import MultiBrandInvoicing.Accounts.Calls

/-!
# Histories of calls

Calls on accounts one after another, and what each does to the lock of one account and to its
entries in the audit log.
-/

set_option autoImplicit false

namespace MultiBrandInvoicing

namespace Accounts

open ReadCommitted Program Roles Tenancy

namespace AccountCall

def time : AccountCall → Time
  | invite request _ _ _ _ _ => request.now
  | requestPasswordReset _ _ _ _ _ now => now
  | updateStatus request _ _ => request.now
  | setPasswordWithToken _ _ _ _ _ now => now
  | setPassword request _ => request.now
  | login _ _ _ now => now

def after (digests : Digests) (call : AccountCall) (store : Store) : Store :=
  ((call.program digests).exec store).store

def succeeds (digests : Digests) (call : AccountCall) (store : Store) : Bool :=
  ((call.program digests).exec store).outcome.isOk

end AccountCall

/-! ## What a statement does to one account -/

namespace AccountEffect

def lockWrite? (userId : String) : AccountEffect → Option (Option Time)
  | updateUser _ id data => if id = userId then data.lockedUntil else none
  | _ => none

def auditRow? : AccountEffect → Option AuditEntry
  | createAuditEntry row => some row
  | _ => none

variable {effect : AccountEffect} {effects : List AccountEffect} {store : Store}
  {userId : String} {user : User}

theorem auditLog_apply : (effect.apply store).auditLog =
    store.auditLog ++ effect.auditRow?.toList := by
  cases effect <;> simp [apply, auditRow?]

theorem auditLog_writes : (Journal.applied AccountEffect.apply effects store).auditLog =
    store.auditLog ++ effects.reverse.filterMap auditRow? := by
  induction effects with
  | nil => simp [Journal.applied]
  | cons effect rest ih =>
      have last : [effect].filterMap auditRow? = effect.auditRow?.toList := by
        cases row : effect.auditRow? <;> simp [row]
      calc (effect.apply (Journal.applied AccountEffect.apply rest store)).auditLog
          = (store.auditLog ++ rest.reverse.filterMap auditRow?) ++ effect.auditRow?.toList := by
            rw [auditLog_apply, ih]
        _ = store.auditLog ++ (effect :: rest).reverse.filterMap auditRow? := by
            rw [List.reverse_cons, List.filterMap_append, last, List.append_assoc]

theorem lock_apply (effect : AccountEffect) (found : store.user? userId = some user) :
    ∃ next, (effect.apply store).user? userId = some next ∧ next.merchantId = user.merchantId ∧
      (next.lockedUntil = user.lockedUntil ∨
        effect.lockWrite? userId = some next.lockedUntil) := by
  cases effect with
  | createUser row => exact ⟨user, UniqueTable.find?_insert?_getD found, rfl, .inl rfl⟩
  | updateUser access id data =>
      refine ⟨_, by rw [user?_updateUser, found, Option.map_some], ?_⟩
      split
      next here =>
        obtain ⟨_, rfl⟩ := Store.user?_eq_some.mp found
        have named : user.id = id := by simpa using (Bool.and_eq_true_iff.mp here).1
        refine ⟨rfl, ?_⟩
        cases written : data.lockedUntil with
        | none => exact .inl (by simp [User.apply, written])
        | some lock => exact .inr (by simp [lockWrite?, named, User.apply, written])
      next => exact ⟨rfl, .inl rfl⟩
  | _ => exact ⟨user, found, rfl, .inl rfl⟩

theorem lock_writes (effects : List AccountEffect) (found : store.user? userId = some user) :
    ∃ next, (Journal.applied AccountEffect.apply effects store).user? userId = some next ∧
      next.merchantId = user.merchantId ∧
      (next.lockedUntil = user.lockedUntil ∨
        ∃ effect ∈ effects, effect.lockWrite? userId = some next.lockedUntil) := by
  induction effects with
  | nil => exact ⟨user, found, rfl, .inl rfl⟩
  | cons effect rest ih =>
      obtain ⟨middle, there, merchant, lock⟩ := ih
      obtain ⟨next, here, same, write⟩ := effect.lock_apply there
      refine ⟨next, here, same.trans merchant, ?_⟩
      rcases write with kept | wrote
      · rw [kept]
        exact lock.imp id fun ⟨other, member, wrote⟩ =>
          ⟨other, List.mem_cons_of_mem _ member, wrote⟩
      · exact .inr ⟨effect, by simp, wrote⟩

end AccountEffect

/-! ## Calls that nothing runs beside -/

section Calls

variable {digests : Digests} {call : AccountCall} {store : Store} {P : AccountEffect → Prop}

theorem after_performs (performs : Performs P (call.program digests)) :
    ∃ effects, (∀ effect ∈ effects, P effect) ∧
      call.after digests store = Journal.applied AccountEffect.apply effects store :=
  performs.exec store

theorem discard_exec {α : Type} (program : Tx α) (store : Store) :
    ((discard program).exec store).store = (program.exec store).store ∧
      ((discard program).exec store).outcome.isOk = (program.exec store).outcome.isOk := by
  have run : (discard program).exec store =
      (program.exec store).andThen fun _ committed view => ⟨.ok (), committed, view, []⟩ :=
    execFrom_bind program _ store store
  rw [run]
  rcases program.exec store with ⟨outcome, committed, view, announced⟩
  cases outcome <;> exact ⟨rfl, rfl⟩

variable {attempt : LoginAttempt} {sessionId sessionToken : String} {now : Time}

theorem login_ran {ran : Execution Store AccountEffect AccountError LoginResult}
    (run : (AuthService.login digests attempt sessionId sessionToken now).exec store = ran) :
    (AccountCall.login attempt sessionId sessionToken now).after digests store = ran.store ∧
      (AccountCall.login attempt sessionId sessionToken now).succeeds digests store =
        ran.outcome.isOk := by
  rw [← run]
  exact discard_exec (AuthService.login digests attempt sessionId sessionToken now) store

theorem login_after {row : User} {matched : Bool}
    (chosen : AuthService.chosen? digests attempt store = some (row, matched)) :
    (AccountCall.login attempt sessionId sessionToken now).after digests store =
        ((AuthService.answer digests row matched attempt.context sessionId sessionToken now).exec
          store).store ∧
      (AccountCall.login attempt sessionId sessionToken now).succeeds digests store =
        ((AuthService.answer digests row matched attempt.context sessionId sessionToken now).exec
          store).outcome.isOk := by
  refine login_ran ?_
  change (orThrow _ (AuthService.chosen? digests attempt store) >>= _).execFrom store store = _
  rw [chosen]
  rfl

theorem login_unknown (chosen : AuthService.chosen? digests attempt store = none) :
    (AccountCall.login attempt sessionId sessionToken now).after digests store = store ∧
      (AccountCall.login attempt sessionId sessionToken now).succeeds digests store = false := by
  have run : (AuthService.login digests attempt sessionId sessionToken now).exec store =
      ⟨.error (.unauthorized AuthService.genericFailure), store, store, []⟩ := by
    change (orThrow _ (AuthService.chosen? digests attempt store) >>= _).execFrom store store = _
    rw [chosen]
    rfl
  exact login_ran run

def refused (row : User) (reason : String) (context : AttemptContext) (now : Time)
    (store : Store) : Store :=
  (AccountEffect.createAuditEntry (AuthService.auditEntry row.merchantId row.id .failure
    (some reason) context .login now)).apply store

variable {row user : User} {matched : Bool} {context : AttemptContext}

theorem answer_locked (locked : AuthService.User.isLocked row now = true) :
    (AuthService.answer digests row matched context sessionId sessionToken now).exec store =
      ⟨.error (.unauthorized AuthService.genericFailure), refused row "LOCKED" context now store,
        refused row "LOCKED" context now store, []⟩ := by
  unfold AuthService.answer
  rw [if_pos locked]
  rfl

/-- How many failures a wrong password finds in the log, its own included. -/
def failuresNow (row : User) (context : AttemptContext) (now : Time) (store : Store) : Nat :=
  let logged := refused row "BAD_PASSWORD" context now store
  (AuthService.countedFailures row.merchantId row.id (AuthService.countFrom
    (AuthService.lastSuccess? row.merchantId row.id now logged) now) logged).length

def missed (row : User) (context : AttemptContext) (now : Time) (store : Store) : Store :=
  (AccountEffect.updateUser .unscoped row.id
    (AuthService.failureUpdate (failuresNow row context now store) now)).apply
      (refused row "BAD_PASSWORD" context now store)

theorem user?_missed (found : store.user? row.id = some user) :
    (missed row context now store).user? row.id =
      some (user.apply (AuthService.failureUpdate (failuresNow row context now store) now)) := by
  have named := (Store.user?_eq_some.mp found).2
  unfold missed
  rw [AccountEffect.user?_updateUser]
  change (store.user? row.id).map _ = _
  rw [found, Option.map_some, if_pos (by simp [named, Access.seesUser])]

theorem answer_missed (open_ : AuthService.User.isLocked row now = false)
    (found : store.user? row.id = some user) :
    (AuthService.answer digests row false context sessionId sessionToken now).exec store =
      ⟨.error (.unauthorized AuthService.genericFailure), missed row context now store,
        missed row context now store, []⟩ := by
  obtain ⟨member, named⟩ := Store.user?_eq_some.mp found
  have applies : ∀ data, (AccountEffect.updateUser .unscoped row.id data).applies
      (refused row "BAD_PASSWORD" context now store) = true := by
    intro data
    exact List.any_eq_true.mpr ⟨user, member, by simp [named, Access.seesUser]⟩
  unfold AuthService.answer
  rw [if_neg (by simp [open_]), if_pos (by rfl)]
  change (if (AccountEffect.updateUser .unscoped row.id (AuthService.failureUpdate _ now)).applies
    (refused row "BAD_PASSWORD" context now store) = true then _ else _) = _
  rw [if_pos (applies _)]
  rfl

theorem refused_isOk {α β : Type} (program : Tx α) (error : AccountError) :
    ((program >>= fun _ => (.throw error : Tx β)).exec store).outcome.isOk = false := by
  change ((program >>= fun _ => (.throw error : Tx β)).execFrom store store).outcome.isOk = false
  rw [execFrom_bind]
  rcases program.execFrom store store with ⟨outcome, committed, view, announced⟩
  cases outcome <;> rfl

/-- Who signs in is not locked and not suspended, and had the password. -/
theorem answer_succeeds
    (succeeds : ((AuthService.answer digests row matched context sessionId sessionToken now).exec
      store).outcome.isOk = true) :
    AuthService.User.isLocked row now = false ∧ matched = true ∧ row.status ≠ .suspended := by
  unfold AuthService.answer at succeeds
  split at succeeds
  next => cases succeeds
  next open_ =>
    split at succeeds
    next =>
      rw [refused_isOk] at succeeds
      cases succeeds
    next right =>
      split at succeeds
      next => cases succeeds
      next active => exact ⟨by simpa using open_, by simpa using right, active⟩

/-! ### Resets and changes of status -/

def resetOf? (digests : Digests) (token : String) (now : Time) (store : Store) : Option String :=
  ((store.resetToken? (digests.hashToken token)).filter fun link =>
    link.usedAt.isNone && now < link.expiresAt).map PasswordResetToken.userId

theorem setPasswordWithToken_after (token passwordHash : String)
    (claims : P (.claimResetToken (digests.hashToken token) now))
    (completes : ∀ userId, resetOf? digests token now store = some userId →
      Performs P (AuthService.completeReset digests userId passwordHash context sessionId
        sessionToken now)) :
    ∃ effects, (∀ effect ∈ effects, P effect) ∧
      (AccountCall.setPasswordWithToken token passwordHash context sessionId sessionToken
        now).after digests store = Journal.applied AccountEffect.apply effects store := by
  have rows : (AccountCall.setPasswordWithToken token passwordHash context sessionId sessionToken
      now).after digests store = ((AuthService.setPasswordWithToken digests token passwordHash
        context sessionId sessionToken now).exec store).store := (discard_exec _ _).1
  rw [rows]
  let claim : AccountEffect := .claimResetToken (digests.hashToken token) now
  by_cases applies : claim.applies store = true
  · obtain ⟨link, found, unused, unexpired⟩ := applies_claim.mp applies
    have usable : resetOf? digests token now store = some link.userId := by
      simp [resetOf?, found, unused, unexpired]
    have owner : ((claim.apply store).resetToken? (digests.hashToken token)).map
        PasswordResetToken.userId = some link.userId := by
      rw [AccountEffect.resetToken?_claimResetToken, found, Option.map_some, Option.map_some]
      split <;> rfl
    obtain ⟨effects, each, left⟩ := (completes link.userId usable).exec (claim.apply store)
    refine ⟨effects ++ [claim], by simpa [or_imp, forall_and] using ⟨each, claims⟩, ?_⟩
    rw [Journal.applied_append]
    refine Eq.trans (congrArg Execution.store ?_) left
    change (if claim.applies store = true then _ else _) = _
    rw [if_pos applies]
    change (orThrow _ (((claim.apply store).resetToken? (digests.hashToken token)).map
      PasswordResetToken.userId) >>= _).execFrom (claim.apply store) (claim.apply store) = _
    rw [owner]
    rfl
  · refine ⟨[], by simp, ?_⟩
    change (if claim.applies store = true then _ else _ :
      Execution Store AccountEffect AccountError LoginResult).store = store
    rw [if_neg applies]
    rfl

theorem require_uncommitted {condition : Bool} {error : AccountError} :
    (require condition error).Uncommitted := by
  cases condition <;> trivial

theorem orThrow_uncommitted {α : Type} {error : AccountError} {found : Option α} :
    (orThrow error found).Uncommitted := by
  cases found <;> trivial

theorem updateUser_uncommitted {access : Access} {id : String} {data : UserUpdate} :
    (updateUser access id data).Uncommitted := by
  unfold updateUser
  exact fun updated => require_uncommitted.bind fun _ => fun store => orThrow_uncommitted

theorem updateStatus_atomic {request : SignedRequest} {id : String} {status : UserStatus} :
    ((AccountCall.updateStatus request id status).program digests).Atomic := by
  unfold AccountCall.program discard authorised UsersService.updateStatus
  simp only [bind_bind]
  refine Atomic.read fun guarded => Atomic.bind orThrow_uncommitted fun scope => ?_
  refine Atomic.bind require_uncommitted fun _ => Atomic.bind require_uncommitted fun _ => ?_
  refine Atomic.read fun seen => Atomic.bind orThrow_uncommitted fun existing => ?_
  refine Atomic.bind require_uncommitted fun _ => Atomic.bind ?_ fun _ => ?_
  · unfold UsersService.guardOwners
    split
    next => exact fun store => require_uncommitted
    next => trivial
  · exact Atomic.bind updateUser_uncommitted fun _ store => trivial

theorem updateStatus_failed {request : SignedRequest} {id : String} {status : UserStatus}
    (failed : (AccountCall.updateStatus request id status).succeeds digests store = false) :
    (AccountCall.updateStatus request id status).after digests store = store := by
  unfold AccountCall.succeeds at failed
  cases ended : (((AccountCall.updateStatus request id status).program digests).exec
      store).outcome with
  | ok value =>
      rw [ended] at failed
      cases failed
  | error error => exact updateStatus_atomic.store_of_error ended

end Calls

end Accounts

end MultiBrandInvoicing
