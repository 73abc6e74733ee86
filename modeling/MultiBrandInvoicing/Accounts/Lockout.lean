import MultiBrandInvoicing.Accounts.Histories
import MultiBrandInvoicing.Transitions.Runs

/-!
# Lockout after wrong passwords

An attempt is tried against every account with the address, but a failure is registered for
the oldest of them, and only while that one is not locked.
-/

set_option autoImplicit false

namespace MultiBrandInvoicing

namespace Accounts

open ReadCommitted Program Roles Tenancy AuthService

/-- The attempt's password was compared with the account's and did not match: `login` stops at
the first that matches. -/
def wronglyTested (digests : Digests) (attempt : LoginAttempt) (userId : String)
    (store : Store) : Bool :=
  ((accountsOf attempt.email store).takeWhile fun user =>
    !digests.verifyPassword attempt.password user.passwordHash).any fun user => user.id = userId

def rightlyTested (digests : Digests) (attempt : LoginAttempt) (userId : String)
    (store : Store) : Bool :=
  (chosen? digests attempt store).any fun found => found.2 && found.1.id = userId

def signsIn (digests : Digests) (userId : String) (call : AccountCall) (store : Store) : Bool :=
  match call with
  | .login attempt _ _ _ =>
      rightlyTested digests attempt userId store && call.succeeds digests store
  | _ => false

/-- The latest five of these times, the latest first, lie within the window. -/
def fiveWithin : List Time → Bool
  | [] => false
  | latest :: earlier =>
      maxFailuresInWindow ≤ (latest :: earlier).length &&
        ((latest :: earlier).take maxFailuresInWindow).all fun time => windowStart latest ≤ time

/-- What an observer of one account keeps: the wrong passwords in a row, the latest first, and
until when no login may succeed. -/
structure Watch where
  store : Store
  clock : Time
  wrong : List Time
  barredUntil : Option Time

namespace Watch

def start (store : Store) (clock : Time) : Watch := ⟨store, clock, [], none⟩

variable (digests : Digests) (userId : String)

/-- A reset or a change of status of the account begins anew. -/
def step (watch : Watch) (call : AccountCall) : Watch :=
  let store := call.after digests watch.store
  match call with
  | .login attempt _ _ now =>
      if wronglyTested digests attempt userId watch.store then
        ⟨store, now, now :: watch.wrong,
          if fiveWithin (now :: watch.wrong) then some (now + lockoutMinutes * 60000)
          else watch.barredUntil⟩
      else if rightlyTested digests attempt userId watch.store then
        ⟨store, now, [], watch.barredUntil⟩
      else ⟨store, now, watch.wrong, watch.barredUntil⟩
  | .setPasswordWithToken token _ _ _ _ now =>
      if resetOf? digests token now watch.store = some userId then ⟨store, now, [], none⟩
      else ⟨store, now, watch.wrong, watch.barredUntil⟩
  | .updateStatus _ id _ =>
      if id = userId && call.succeeds digests watch.store then ⟨store, call.time, [], none⟩
      else ⟨store, call.time, watch.wrong, watch.barredUntil⟩
  | _ => ⟨store, call.time, watch.wrong, watch.barredUntil⟩

def BarHolds (watch : Watch) (call : AccountCall) : Prop :=
  signsIn digests userId call watch.store = true →
    ∀ barred, watch.barredUntil = some barred → barred ≤ call.time

def registers (watch : Watch) (attempt : LoginAttempt) (now : Time) : Bool :=
  (chosen? digests attempt watch.store).any fun found =>
    !found.2 && found.1.id = userId &&
      !(fiveWithin (now :: watch.wrong) && User.isLocked found.1 now) &&
      !((watch.wrong.take (maxFailuresInWindow - 1)).contains (windowStart now)) &&
      (signInEntries found.1.merchantId userId .success watch.store).all
        fun entry => entry.occurredAt < now

def attempt? : AccountCall → Option (LoginAttempt × Time)
  | .login attempt _ _ now => some (attempt, now)
  | _ => none

/-- The calls come in the order of time, and every wrong password of the account is registered
for it. -/
def Registers (watch : Watch) (call : AccountCall) : Prop :=
  watch.clock ≤ call.time ∧ ∀ tried ∈ attempt? call,
    wronglyTested digests tried.1 userId watch.store = true →
      registers digests userId watch tried.1 tried.2 = true

instance (watch : Watch) (call : AccountCall) : Decidable (Registers digests userId watch call) :=
  inferInstanceAs (Decidable (_ ∧ ∀ tried ∈ attempt? call, _ → _))

end Watch

/-! ## Who an attempt is about -/

section Chosen

variable {digests : Digests} {attempt : LoginAttempt} {store : Store} {row : User}

theorem user?_of_accountsOf {email : String} (member : row ∈ accountsOf email store) :
    store.user? row.id = some row :=
  Store.user?_eq_some.mpr
    ⟨(List.mem_filter.mp ((List.mem_insertionSort _).mp member)).1, rfl⟩

theorem user?_of_chosen {matched : Bool}
    (chosen : chosen? digests attempt store = some (row, matched)) :
    store.user? row.id = some row := by
  refine user?_of_accountsOf (?_ : row ∈ accountsOf attempt.email store)
  simp only [chosen?] at chosen
  split at chosen
  next user found =>
    cases chosen
    exact List.mem_of_find?_eq_some found
  next =>
    obtain ⟨first, head, same⟩ := Option.map_eq_some_iff.mp chosen
    cases same
    exact List.mem_of_head? head

/-- An attempt that matches no account is a wrong password for the one it is about. -/
theorem wronglyTested_of_chosen (chosen : chosen? digests attempt store = some (row, false)) :
    wronglyTested digests attempt row.id store = true := by
  simp only [chosen?] at chosen
  split at chosen
  next => cases chosen
  next none =>
    obtain ⟨first, head, same⟩ := Option.map_eq_some_iff.mp chosen
    cases same
    have wrong := List.find?_eq_none.mp none row (List.mem_of_head? head)
    have first : ((accountsOf attempt.email store).takeWhile fun user =>
        !digests.verifyPassword attempt.password user.passwordHash).head? = some row := by
      rw [List.head?_takeWhile, head]
      simpa [Option.filter] using wrong
    exact List.any_eq_true.mpr ⟨row, List.mem_of_head? first, by simp⟩

end Chosen

/-! ## What the log has to show -/

section Log

variable {merchantId userId : String} {outcome : AuditOutcome} {store : Store} {now : Time}

theorem signInEntries_quiet {after : Store} {rows : List AuditEntry}
    (grown : after.auditLog = store.auditLog ++ rows)
    (quiet : ∀ row ∈ rows, row.actorId = userId → row.action ≠ .login) :
    signInEntries merchantId userId outcome after =
      signInEntries merchantId userId outcome store := by
  have none : rows.filter (fun entry => entry.merchantId = merchantId &&
      entry.actorId = userId && entry.action = .login && entry.outcome = outcome) = [] := by
    refine List.filter_eq_nil_iff.mpr fun row member => ?_
    have other := quiet row member
    simp only [Bool.and_eq_true, decide_eq_true_eq, not_and, and_imp]
    exact fun _ actor login => absurd login (other actor)
  rw [signInEntries, grown, List.filter_append, none, List.append_nil]
  rfl

theorem countFrom_lt {lastSuccess : Option Time} {time : Time} (window : windowStart now < time)
    (later : ∀ success, lastSuccess = some success → success < time) :
    countFrom lastSuccess now < time := by
  unfold countFrom
  split
  next success =>
    split
    next => exact later success rfl
    next => exact window
  next => exact window

theorem windowStart_lt : windowStart now < now :=
  Int.sub_lt_self now (by decide : 0 < failureWindowMinutes * 60000)

theorem lastSuccess?_mem {success : Time}
    (last : lastSuccess? merchantId userId now store = some success) :
    ∃ entry ∈ signInEntries merchantId userId .success store, entry.occurredAt = success := by
  have member := List.max?_mem last
  exact List.mem_map.mp (List.mem_filter.mp member).1

/-- If all of five wrong passwords in the log are late enough, the count finds five. -/
theorem countedFailures_of_listed {times : List Time} {from_ : Time}
    (listed : times.reverse.Sublist
      ((signInEntries merchantId userId .failure store).map AuditEntry.occurredAt))
    (enough : maxFailuresInWindow ≤ times.length)
    (late : ∀ time ∈ times.take maxFailuresInWindow, from_ < time) :
    maxFailuresInWindow ≤ (countedFailures merchantId userId from_ store).length := by
  calc maxFailuresInWindow
      = ((times.take maxFailuresInWindow).filter fun time => from_ < time).length := by
        rw [List.filter_eq_self.mpr fun time member => by simpa using late time member,
          List.length_take, Nat.min_eq_left enough]
    _ ≤ (times.filter fun time => from_ < time).length :=
        ((List.take_sublist _ _).filter _).length_le
    _ = (times.reverse.filter fun time => from_ < time).length := by
        rw [List.filter_reverse, List.length_reverse]
    _ ≤ (((signInEntries merchantId userId .failure store).map AuditEntry.occurredAt).filter
          fun time => from_ < time).length := (listed.filter _).length_le
    _ = (countedFailures merchantId userId from_ store).length := by
        rw [List.filter_map, List.length_map]
        rfl

end Log

/-! ## One account, call by call -/

/-- The statement leaves the lock of the account and its sign-in entries alone. -/
def Aloof (userId : String) (effect : AccountEffect) : Prop :=
  effect.lockWrite? userId = none ∧
    ∀ row ∈ effect.auditRow?, row.actorId = userId → row.action ≠ .login

structure Watched (merchantId userId : String) (watch : Watch) : Prop where
  there : ∃ user, watch.store.user? userId = some user ∧ user.merchantId = merchantId ∧
    ∀ barred, watch.barredUntil = some barred → barred ≤ watch.clock ∨
      ∃ lock, user.lockedUntil = some lock ∧ barred ≤ lock
  listed : watch.wrong.reverse.Sublist
    ((signInEntries merchantId userId .failure watch.store).map AuditEntry.occurredAt)
  later : ∀ time ∈ watch.wrong,
    ∀ entry ∈ signInEntries merchantId userId .success watch.store, entry.occurredAt < time

section Steps

variable {merchantId userId : String} {watch : Watch} {now : Time}

theorem barred_le {user : User} {barred : Time} (open_ : User.isLocked user now = false)
    (order : watch.clock ≤ now)
    (bar : barred ≤ watch.clock ∨ ∃ lock, user.lockedUntil = some lock ∧ barred ≤ lock) :
    barred ≤ now := by
  rcases bar with past | ⟨lock, locked, before⟩
  · exact past.trans order
  · have expired : ¬now < lock := by simpa [User.isLocked, locked] using open_
    exact before.trans (Int.not_lt.mp expired)

theorem Watched.aloof (watched : Watched merchantId userId watch)
    (effects : List AccountEffect) (aloof : ∀ effect ∈ effects, Aloof userId effect)
    (order : watch.clock ≤ now) :
    Watched merchantId userId ⟨Journal.applied AccountEffect.apply effects watch.store, now,
      watch.wrong, watch.barredUntil⟩ := by
  obtain ⟨user, found, merchant, bar⟩ := watched.there
  obtain ⟨next, here, same, lock⟩ := AccountEffect.lock_writes effects found
  have unlocked : next.lockedUntil = user.lockedUntil := by
    refine lock.resolve_right ?_
    rintro ⟨effect, member, wrote⟩
    rw [(aloof effect member).1] at wrote
    cases wrote
  have entries : ∀ outcome, signInEntries merchantId userId outcome
      (Journal.applied AccountEffect.apply effects watch.store) =
        signInEntries merchantId userId outcome watch.store := by
    intro outcome
    refine signInEntries_quiet AccountEffect.auditLog_writes fun row member => ?_
    obtain ⟨effect, written, wrote⟩ := List.mem_filterMap.mp member
    exact (aloof effect (List.mem_reverse.mp written)).2 row wrote
  refine ⟨⟨next, here, same.trans merchant, fun barred until_ => ?_⟩, ?_, ?_⟩
  · rw [unlocked]
    exact (bar barred until_).imp (fun past => past.trans order) id
  · rw [entries]
    exact watched.listed
  · rw [entries]
    exact watched.later

theorem Watched.anew (watched : Watched merchantId userId watch) (effects : List AccountEffect) :
    Watched merchantId userId
      ⟨Journal.applied AccountEffect.apply effects watch.store, now, [], none⟩ := by
  obtain ⟨user, found, merchant, _⟩ := watched.there
  obtain ⟨next, here, same, _⟩ := AccountEffect.lock_writes effects found
  exact ⟨⟨next, here, same.trans merchant, nofun⟩, List.nil_sublist _, nofun⟩

variable {digests : Digests} {attempt : LoginAttempt} {row : User}

theorem Watched.right {sessionId sessionToken : String}
    (watched : Watched merchantId row.id watch) (order : watch.clock ≤ now)
    (chosen : chosen? digests attempt watch.store = some (row, true)) :
    Watched merchantId row.id
      ⟨(AccountCall.login attempt sessionId sessionToken now).after digests watch.store, now, [],
        watch.barredUntil⟩ := by
  obtain ⟨user, found, merchant, bar⟩ := watched.there
  obtain rfl : row = user := Option.some.inj ((user?_of_chosen chosen).symm.trans found)
  refine ⟨?_, List.nil_sublist _, nofun⟩
  rw [(login_after chosen).1]
  cases locked : User.isLocked row now with
  | true =>
      rw [answer_locked locked]
      exact ⟨row, found, merchant, fun barred until_ =>
        (bar barred until_).imp (fun past => past.trans order) id⟩
  | false =>
      obtain ⟨effects, _, left⟩ := (answer_performs (P := fun _ => True) (fun _ _ => trivial)
        (fun _ => trivial) fun _ _ _ => trivial).exec watch.store
      rw [left]
      obtain ⟨next, here, same, _⟩ := AccountEffect.lock_writes effects found
      exact ⟨next, here, same.trans merchant, fun barred until_ =>
        .inl (barred_le locked order (bar barred until_))⟩

theorem signInEntries_refused {outcome : AuditOutcome} {reason : String}
    {context : AttemptContext} {store : Store} :
    signInEntries row.merchantId row.id outcome (refused row reason context now store) =
      signInEntries row.merchantId row.id outcome store ++
        if outcome = .failure then
          [auditEntry row.merchantId row.id .failure (some reason) context .login now]
        else [] := by
  cases outcome <;>
    simp [signInEntries, refused, AccountEffect.apply, List.filter_append, auditEntry]

/-- A refused attempt that is registered for the account keeps the notes true. -/
theorem Watched.refused {reason : String} {context : AttemptContext} {after : Store}
    (watched : Watched merchantId row.id watch)
    (merchant : row.merchantId = merchantId)
    (log : after.auditLog = (refused row reason context now watch.store).auditLog)
    (fresh : ∀ entry ∈ signInEntries merchantId row.id .success watch.store,
      entry.occurredAt < now) :
    (now :: watch.wrong).reverse.Sublist
        ((signInEntries merchantId row.id .failure after).map AuditEntry.occurredAt) ∧
      ∀ time ∈ now :: watch.wrong,
        ∀ entry ∈ signInEntries merchantId row.id .success after, entry.occurredAt < time := by
  subst merchant
  have entries : ∀ outcome, signInEntries row.merchantId row.id outcome after =
      signInEntries row.merchantId row.id outcome watch.store ++
        if outcome = .failure then
          [auditEntry row.merchantId row.id .failure (some reason) context .login now]
        else [] := by
    intro outcome
    rw [← signInEntries_refused, signInEntries, log]
    rfl
  constructor
  · rw [entries, if_pos rfl, List.map_append, List.reverse_cons]
    exact watched.listed.append (.refl _)
  · rw [entries, if_neg (by simp), List.append_nil]
    intro time member
    rcases List.mem_cons.mp member with rfl | earlier
    · exact fresh
    · exact watched.later time earlier

/-- Five wrong passwords in the window, all in the log, lock the account. -/
theorem failureUpdate_locks {times : List Time} {store : Store}
    (five : fiveWithin (now :: times) = true)
    (edge : windowStart now ∉ times.take (maxFailuresInWindow - 1))
    (listed : (now :: times).reverse.Sublist
      ((signInEntries merchantId userId .failure store).map AuditEntry.occurredAt))
    (later : ∀ time ∈ now :: times,
      ∀ entry ∈ signInEntries merchantId userId .success store, entry.occurredAt < time) :
    (failureUpdate (countedFailures merchantId userId
      (countFrom (lastSuccess? merchantId userId now store) now) store).length now).lockedUntil =
        some (some (now + lockoutMinutes * 60000)) := by
  simp only [fiveWithin, Bool.and_eq_true, decide_eq_true_eq, List.all_eq_true] at five
  obtain ⟨enough, within⟩ := five
  have late : ∀ time ∈ (now :: times).take maxFailuresInWindow,
      countFrom (lastSuccess? merchantId userId now store) now < time := by
    intro time member
    refine countFrom_lt ?_ fun success last => ?_
    · rcases List.mem_cons.mp member with rfl | earlier
      · exact windowStart_lt
      · refine Int.lt_iff_le_and_ne.mpr ⟨within time member, ?_⟩
        rintro rfl
        exact edge earlier
    · obtain ⟨entry, here, rfl⟩ := lastSuccess?_mem last
      exact later time (List.mem_of_mem_take member) entry here
  exact if_pos (countedFailures_of_listed listed enough late)

theorem Watched.wrongly {sessionId sessionToken : String}
    (watched : Watched merchantId row.id watch) (order : watch.clock ≤ now)
    (chosen : chosen? digests attempt watch.store = some (row, false))
    (unlocked : fiveWithin (now :: watch.wrong) = true → User.isLocked row now = false)
    (edge : windowStart now ∉ watch.wrong.take (maxFailuresInWindow - 1))
    (fresh : ∀ entry ∈ signInEntries row.merchantId row.id .success watch.store,
      entry.occurredAt < now) :
    Watched merchantId row.id
      ⟨(AccountCall.login attempt sessionId sessionToken now).after digests watch.store, now,
        now :: watch.wrong,
        if fiveWithin (now :: watch.wrong) then some (now + lockoutMinutes * 60000)
        else watch.barredUntil⟩ := by
  obtain ⟨user, found, merchant, bar⟩ := watched.there
  obtain rfl : row = user := Option.some.inj ((user?_of_chosen chosen).symm.trans found)
  subst merchant
  rw [(login_after chosen).1]
  cases locked : User.isLocked row now with
  | true =>
      have few : fiveWithin (now :: watch.wrong) = false := by
        by_contra five
        rw [unlocked (by simpa using five)] at locked
        cases locked
      rw [answer_locked locked, if_neg (by simp [few])]
      obtain ⟨listed, later⟩ := watched.refused rfl (rfl : _ = (Accounts.refused row "LOCKED"
        attempt.context now watch.store).auditLog) fresh
      exact ⟨⟨row, found, rfl, fun barred until_ =>
        (bar barred until_).imp (fun past => past.trans order) id⟩, listed, later⟩
  | false =>
      rw [answer_missed locked found]
      obtain ⟨listed, later⟩ := watched.refused rfl (rfl : (missed row attempt.context now
        watch.store).auditLog = (Accounts.refused row "BAD_PASSWORD" attempt.context now
          watch.store).auditLog) fresh
      refine ⟨?_, listed, later⟩
      refine ⟨_, user?_missed found, rfl, fun barred until_ => ?_⟩
      split at until_
      next five =>
        cases until_
        refine .inr ⟨_, ?_, le_refl _⟩
        obtain ⟨listed, later⟩ := watched.refused rfl (rfl : _ = (Accounts.refused row
          "BAD_PASSWORD" attempt.context now watch.store).auditLog) fresh
        rw [User.apply, failuresNow, failureUpdate_locks five edge listed later]
        rfl
      next => exact .inl (barred_le locked order (bar barred until_))

end Steps

section Calls

variable {digests : Digests} {merchantId userId : String} {watch : Watch}

theorem aloof_of_none {effect : AccountEffect} (unlocking : effect.lockWrite? userId = none)
    (unlogged : effect.auditRow? = none) : Aloof userId effect := by
  refine ⟨unlocking, fun row logged => ?_⟩
  rw [unlogged] at logged
  cases logged

theorem aloof_audit {entry : AuditEntry} (other : entry.actorId = userId → entry.action ≠ .login) :
    Aloof userId (.createAuditEntry entry) :=
  ⟨rfl, by rintro row ⟨⟩; exact other⟩

theorem aloof_update {access : Access} {id : String} {data : UserUpdate}
    (other : id = userId → data.lockedUntil = none) : Aloof userId (.updateUser access id data) := by
  refine ⟨?_, fun row logged => by cases logged⟩
  rw [AccountEffect.lockWrite?]
  split
  next same => exact other same
  next => rfl

theorem invite_aloof (request : SignedRequest) (input : InviteUserInput)
    (id passwordHash token : String) (mails : String → Bool) :
    Performs (Aloof userId)
      ((AccountCall.invite request input id passwordHash token mails).program digests) := by
  refine authorised_performs fun scope => ?_
  exact (invite_performs (fun _ _ => aloof_of_none rfl rfl) (fun _ => aloof_of_none rfl rfl)
    (fun _ => aloof_of_none rfl rfl) fun _ => aloof_of_none rfl rfl).bind fun _ => trivial

theorem requestPasswordReset_aloof (allowed : Bool) (tokenOf : String → String)
    (mails : String → Bool) (email : String) (context : AttemptContext) (now : Time) :
    Performs (Aloof userId) ((AccountCall.requestPasswordReset allowed tokenOf mails email context
      now).program digests) :=
  requestPasswordReset_performs (fun _ _ => aloof_audit fun _ login => by cases login)
    (fun _ _ => aloof_of_none rfl rfl) fun _ => aloof_of_none rfl rfl

theorem setPassword_aloof (request : SignedRequest) (passwordHash : String) :
    Performs (Aloof userId)
      ((AccountCall.setPassword request passwordHash).program digests) :=
  authorised_performs fun _ => setPassword_performs (aloof_update fun _ => rfl)
    (aloof_audit fun _ login => by cases login)

theorem updateStatus_aloof (request : SignedRequest) {id : String} (status : UserStatus)
    (other : id ≠ userId) :
    Performs (Aloof userId) ((AccountCall.updateStatus request id status).program digests) := by
  refine authorised_performs fun scope => ?_
  exact (updateStatus_performs (aloof_update fun same => absurd same other)).bind
    fun _ => trivial

theorem setPasswordWithToken_aloof {token passwordHash sessionId sessionToken : String}
    {context : AttemptContext} {now : Time} {store : Store}
    (other : resetOf? digests token now store ≠ some userId) :
    ∃ effects, (∀ effect ∈ effects, Aloof userId effect) ∧
      (AccountCall.setPasswordWithToken token passwordHash context sessionId sessionToken
        now).after digests store = Journal.applied AccountEffect.apply effects store := by
  refine setPasswordWithToken_after token passwordHash (aloof_of_none rfl rfl) fun id usable => ?_
  refine completeReset_performs (aloof_update fun same => ?_) (fun _ => aloof_of_none rfl rfl)
    (fun _ => aloof_of_none rfl rfl) fun _ => aloof_audit fun _ login => by cases login
  subst same
  exact absurd usable other

theorem login_aloof {attempt : LoginAttempt} (sessionId sessionToken : String) (now : Time)
    {store : Store} {row : User} {matched : Bool}
    (chosen : chosen? digests attempt store = some (row, matched)) (other : row.id ≠ userId) :
    ∃ effects, (∀ effect ∈ effects, Aloof userId effect) ∧
      (AccountCall.login attempt sessionId sessionToken now).after digests store =
        Journal.applied AccountEffect.apply effects store := by
  rw [(login_after chosen).1]
  have performs : Performs (Aloof userId)
      (answer digests row matched attempt.context sessionId sessionToken now) :=
    answer_performs (fun _ _ => aloof_audit fun same => absurd same other)
      (fun _ => aloof_of_none rfl rfl) fun _ _ _ => aloof_update fun same => absurd same other
  exact performs.exec store

theorem Watched.login {attempt : LoginAttempt} {sessionId sessionToken : String} {now : Time}
    (watched : Watched merchantId userId watch)
    (registers : Watch.Registers digests userId watch
      (.login attempt sessionId sessionToken now)) :
    Watched merchantId userId
      (watch.step digests userId (.login attempt sessionId sessionToken now)) := by
  obtain ⟨order, registers⟩ := registers
  replace registers := registers (attempt, now) rfl
  simp only [Watch.step]
  split
  next wrongly =>
    obtain ⟨found, chosen, meets⟩ := (Option.any_eq_true _ _).mp (registers wrongly)
    simp only [Bool.and_eq_true, Bool.not_eq_true', decide_eq_true_eq, Bool.and_eq_false_imp,
      List.all_eq_true, List.contains_eq_mem, decide_eq_false_iff_not] at meets
    obtain ⟨⟨⟨⟨unmatched, rfl⟩, unlocked⟩, edge⟩, fresh⟩ := meets
    obtain ⟨row, matched⟩ := found
    obtain rfl : matched = false := unmatched
    exact watched.wrongly order chosen unlocked edge fresh
  next elsewhere =>
    split
    next rightly =>
      obtain ⟨found, chosen, meets⟩ := (Option.any_eq_true _ _).mp rightly
      simp only [Bool.and_eq_true, decide_eq_true_eq] at meets
      obtain ⟨matched, rfl⟩ := meets
      obtain ⟨row, _⟩ := found
      subst matched
      exact watched.right order chosen
    next unconcerned =>
      cases chosen : chosen? digests attempt watch.store with
      | none =>
          rw [(login_unknown chosen).1]
          exact watched.aloof [] (by simp) order
      | some found =>
          obtain ⟨row, matched⟩ := found
          have other : row.id ≠ userId := by
            rintro rfl
            cases matched with
            | true => exact unconcerned (by simp [rightlyTested, chosen])
            | false => exact elsewhere (wronglyTested_of_chosen chosen)
          obtain ⟨effects, aloof, left⟩ := login_aloof sessionId sessionToken now chosen other
          rw [left]
          exact watched.aloof effects aloof order

theorem Watched.step (watched : Watched merchantId userId watch) {call : AccountCall}
    (registers : Watch.Registers digests userId watch call) :
    Watched merchantId userId (watch.step digests userId call) := by
  have order := registers.1
  have quiet : Performs (Aloof userId) (call.program digests) → Watched merchantId userId
      ⟨call.after digests watch.store, call.time, watch.wrong, watch.barredUntil⟩ := by
    intro performs
    obtain ⟨effects, aloof, left⟩ := after_performs performs
    rw [left]
    exact watched.aloof effects aloof order
  cases call with
  | login attempt sessionId sessionToken now => exact watched.login registers
  | invite request input id passwordHash token mails =>
      exact quiet (invite_aloof request input id passwordHash token mails)
  | requestPasswordReset allowed tokenOf mails email context now =>
      exact quiet (requestPasswordReset_aloof allowed tokenOf mails email context now)
  | setPassword request passwordHash => exact quiet (setPassword_aloof request passwordHash)
  | setPasswordWithToken token passwordHash context sessionId sessionToken now =>
      simp only [Watch.step]
      split
      next =>
        obtain ⟨effects, _, left⟩ := setPasswordWithToken_after (P := fun _ => True) token
          passwordHash trivial fun _ _ => completeReset_performs trivial (fun _ => trivial)
            (fun _ => trivial) fun _ => trivial
        rw [left]
        exact watched.anew effects
      next other =>
        obtain ⟨effects, aloof, left⟩ := setPasswordWithToken_aloof other
        rw [left]
        exact watched.aloof effects aloof order
  | updateStatus request id status =>
      simp only [Watch.step]
      split
      next =>
        have performs : Performs (fun _ => True)
            ((AccountCall.updateStatus request id status).program digests) :=
          authorised_performs fun scope =>
            (updateStatus_performs trivial).bind fun _ => trivial
        obtain ⟨effects, _, left⟩ := after_performs performs
        rw [left]
        exact watched.anew effects
      next other =>
        by_cases same : id = userId
        · have failed : (AccountCall.updateStatus request id status).succeeds digests
              watch.store = false := by simpa [same] using other
          rw [updateStatus_failed failed]
          exact watched.aloof [] (by simp) order
        · exact quiet (updateStatus_aloof request status same)

theorem Watched.barHolds (watched : Watched merchantId userId watch) {call : AccountCall}
    (order : watch.clock ≤ call.time) : watch.BarHolds digests userId call := by
  intro signs barred until_
  cases call with
  | login attempt sessionId sessionToken now =>
      obtain ⟨rightly, succeeds⟩ := Bool.and_eq_true_iff.mp signs
      obtain ⟨found, chosen, meets⟩ := (Option.any_eq_true _ _).mp rightly
      simp only [Bool.and_eq_true, decide_eq_true_eq] at meets
      obtain ⟨_, rfl⟩ := meets
      obtain ⟨row, matched⟩ := found
      rw [(login_after chosen).2] at succeeds
      obtain ⟨user, there, _, bar⟩ := watched.there
      obtain rfl : row = user := Option.some.inj ((user?_of_chosen chosen).symm.trans there)
      exact barred_le (answer_succeeds succeeds).1 order (bar barred until_)
  | _ => cases signs

/-- Where every wrong password of an account is registered for it, no login to it succeeds
until thirty minutes after the last of five in a row. -/
theorem lockout_holds (digests : Digests) (userId : String) (store : Store) (clock : Time)
    (user : User) (found : store.user? userId = some user) (calls : List AccountCall)
    (registers : Runs.Throughout (Watch.step digests userId) (Watch.Registers digests userId) calls
      (Watch.start store clock)) :
    Runs.Throughout (Watch.step digests userId) (Watch.BarHolds digests userId) calls
      (Watch.start store clock) := by
  have first : Watched user.merchantId userId (Watch.start store clock) :=
    ⟨⟨user, found, rfl, nofun⟩, List.nil_sublist _, nofun⟩
  have always : Runs.Always (Watch.step digests userId) (Watched user.merchantId userId) calls
      (Watch.start store clock) :=
    Runs.always_of_throughout (fun _ _ watched registers => watched.step registers) first registers
  refine (always.throughout.and registers).mono ?_
  rintro watch call ⟨watched, registers⟩
  exact watched.barHolds registers.1

end Calls

def sampleShared : Store :=
  { sampleAccounts with
    users := (UniqueTable.put? [
      { id := "ada", merchantId := "m", email := "ada@m", passwordHash := "h1", name := "Ada",
        role := .merchantOwner, status := .active, createdAt := 1 },
      { id := "ada2", merchantId := "n", email := "ada@m", passwordHash := "h2", name := "Ada",
        role := .merchantOwner, status := .active, createdAt := 2 }]).getD .empty }

def sampleAttempt (password : String) (now : Time) : AccountCall :=
  .login { email := "ada@m", password, context := ⟨none, none⟩ } "s" "s" now

def sampleWrongPasswords : List AccountCall :=
  [sampleAttempt "h0" 1, sampleAttempt "h0" 2, sampleAttempt "h0" 3, sampleAttempt "h0" 4,
    sampleAttempt "h0" 5]

/-- The wrong passwords of the younger account are registered for the older. -/
theorem younger_account_not_barred :
    ¬Runs.Throughout (Watch.step sampleDigests "ada2") (Watch.BarHolds sampleDigests "ada2")
      (sampleWrongPasswords ++ [sampleAttempt "h2" 6]) (Watch.start sampleShared 0) := by
  intro holds
  have bar := holds.at_end (by decide +kernel) 1800005 (by decide +kernel)
  exact absurd bar (by decide +kernel)

theorem lockout_holds_sample :
    Runs.Throughout (Watch.step sampleDigests "ada") (Watch.BarHolds sampleDigests "ada")
      (sampleWrongPasswords ++ [sampleAttempt "h1" 6]) (Watch.start sampleShared 0) :=
  lockout_holds sampleDigests "ada" sampleShared 0 _ rfl _ (by decide +kernel)

end Accounts

end MultiBrandInvoicing
