import MultiBrandInvoicing.Accounts.Lockout

/-!
# What a lock counts

The failures that lead to a lock are counted in the audit log, where refused attempts are
failures too and a reset of the password leaves no mark that the count would stop at.
-/

set_option autoImplicit false

namespace MultiBrandInvoicing

namespace Accounts

open ReadCommitted Program Roles Tenancy AuthService

/-- A wrong password for the account while it is not locked. -/
def misses (digests : Digests) (attempt : LoginAttempt) (userId : String) (now : Time)
    (store : Store) : Bool :=
  (chosen? digests attempt store).any fun found =>
    !found.2 && found.1.id = userId && !User.isLocked found.1 now

def lockedAt (userId : String) (now : Time) (store : Store) : Bool :=
  (store.user? userId).any fun user => User.isLocked user now

/-- What an observer of one account keeps: the wrong passwords since the last success, the
last reset and the last lock, the latest first, and the time of the last of these. -/
structure Tally where
  store : Store
  clock : Time
  fresh : List Time
  since : Time

namespace Tally

def start (store : Store) (clock : Time) : Tally := ⟨store, clock, [], clock⟩

variable (digests : Digests) (userId : String)

/-- While the account is locked nothing is a wrong password for it, so what follows a lock
follows its end. -/
def step (tally : Tally) (call : AccountCall) : Tally :=
  let store := call.after digests tally.store
  match call with
  | .login attempt _ _ now =>
      if misses digests attempt userId now tally.store then
        if lockedAt userId now store then ⟨store, now, [], now⟩
        else ⟨store, now, now :: tally.fresh, tally.since⟩
      else if signsIn digests userId call tally.store then ⟨store, now, [], now⟩
      else ⟨store, now, tally.fresh, tally.since⟩
  | .setPasswordWithToken token _ _ _ _ now =>
      if resetOf? digests token now tally.store = some userId then ⟨store, now, [], now⟩
      else ⟨store, now, tally.fresh, tally.since⟩
  | _ => ⟨store, call.time, tally.fresh, tally.since⟩

def LocksOnFive (tally : Tally) (call : AccountCall) : Prop :=
  lockedAt userId call.time tally.store = false →
    lockedAt userId call.time (call.after digests tally.store) = true →
      (∃ tried ∈ Watch.attempt? call, misses digests tried.1 userId tried.2 tally.store = true) ∧
        maxFailuresInWindow ≤
          (call.time :: tally.fresh).countP fun time => windowStart call.time < time

def countsFresh (tally : Tally) (attempt : LoginAttempt) (now : Time) : Bool :=
  (chosen? digests attempt tally.store).all fun found =>
    (countedFailures found.1.merchantId userId
      (countFrom (lastSuccess? found.1.merchantId userId now tally.store) now) tally.store).all
        fun entry => entry.reason = some "BAD_PASSWORD" && tally.since < entry.occurredAt

/-- The calls come in the order of time, and each wrong password of the account counts fresh
ones only. -/
def CountsFresh (tally : Tally) (call : AccountCall) : Prop :=
  tally.clock ≤ call.time ∧ ∀ tried ∈ Watch.attempt? call,
    misses digests tried.1 userId tried.2 tally.store = true →
      countsFresh digests userId tally tried.1 tried.2 = true

instance (tally : Tally) (call : AccountCall) :
    Decidable (CountsFresh digests userId tally call) :=
  inferInstanceAs (Decidable (_ ∧ ∀ tried ∈ Watch.attempt? call, _ → _))

end Tally

/-- The entries of wrong passwords later than the time. -/
def freshEntries (merchantId userId : String) (since : Time) (store : Store) : List AuditEntry :=
  (signInEntries merchantId userId .failure store).filter fun entry =>
    entry.reason = some "BAD_PASSWORD" && since < entry.occurredAt

structure Tallied (merchantId userId : String) (tally : Tally) : Prop where
  there : ∃ user, tally.store.user? userId = some user ∧ user.merchantId = merchantId
  past : ∀ entry ∈ signInEntries merchantId userId .failure tally.store,
    entry.occurredAt ≤ tally.clock
  listed : ((freshEntries merchantId userId tally.since tally.store).map
    AuditEntry.occurredAt).Sublist tally.fresh.reverse

/-- The statement locks nobody, and logs no wrong password of the account. -/
def Lenient (userId : String) (now : Time) (effect : AccountEffect) : Prop :=
  (∀ lock, effect.lockWrite? userId = some lock → lock = none) ∧
    ∀ row ∈ effect.auditRow?, row.actorId = userId → row.action = .login →
      row.outcome = .failure → row.reason ≠ some "BAD_PASSWORD" ∧ row.occurredAt ≤ now

theorem Aloof.lenient {userId : String} {now : Time} {effect : AccountEffect}
    (aloof : Aloof userId effect) : Lenient userId now effect := by
  refine ⟨fun lock wrote => ?_, fun row wrote actor login => ?_⟩
  · rw [aloof.1] at wrote
    cases wrote
  · exact absurd login (aloof.2 row wrote actor)

section Steps

variable {digests : Digests} {merchantId userId : String} {tally : Tally} {now since : Time}
  {store after : Store}

theorem freshEntries_append {extra : List AuditEntry}
    (grown : signInEntries merchantId userId .failure after =
      signInEntries merchantId userId .failure store ++ extra)
    (stale : ∀ entry ∈ extra, entry.reason ≠ some "BAD_PASSWORD") :
    freshEntries merchantId userId since after = freshEntries merchantId userId since store := by
  have none : extra.filter (fun entry =>
      entry.reason = some "BAD_PASSWORD" && since < entry.occurredAt) = [] :=
    List.filter_eq_nil_iff.mpr fun entry member => by simp [stale entry member]
  rw [freshEntries, grown, List.filter_append, none, List.append_nil]
  rfl

theorem freshEntries_now (past : ∀ entry ∈ signInEntries merchantId userId .failure store,
    entry.occurredAt ≤ now) : freshEntries merchantId userId now store = [] := by
  refine List.filter_eq_nil_iff.mpr fun entry member => ?_
  simpa using fun _ => past entry member

theorem failures_lenient (merchantId : String) (store : Store) (effects : List AccountEffect)
    (lenient : ∀ effect ∈ effects, Lenient userId now effect) :
    ∃ extra, signInEntries merchantId userId .failure
        (Journal.applied AccountEffect.apply effects store) =
          signInEntries merchantId userId .failure store ++ extra ∧
      ∀ entry ∈ extra, entry.reason ≠ some "BAD_PASSWORD" ∧ entry.occurredAt ≤ now := by
  refine ⟨_, by rw [signInEntries, AccountEffect.auditLog_writes, List.filter_append]; rfl, ?_⟩
  intro entry member
  obtain ⟨logged, meets⟩ := List.mem_filter.mp member
  obtain ⟨effect, written, wrote⟩ := List.mem_filterMap.mp logged
  simp only [Bool.and_eq_true, decide_eq_true_eq] at meets
  exact (lenient effect (List.mem_reverse.mp written)).2 entry wrote meets.1.1.2 meets.1.2 meets.2

theorem Tallied.past_lenient (tallied : Tallied merchantId userId tally)
    (effects : List AccountEffect) (lenient : ∀ effect ∈ effects, Lenient userId now effect)
    (order : tally.clock ≤ now) :
    ∀ entry ∈ signInEntries merchantId userId .failure
      (Journal.applied AccountEffect.apply effects tally.store), entry.occurredAt ≤ now := by
  obtain ⟨extra, grown, late⟩ := failures_lenient merchantId tally.store effects lenient
  rw [grown]
  intro entry member
  rcases List.mem_append.mp member with before | new
  · exact (tallied.past entry before).trans order
  · exact (late entry new).2

theorem Tallied.quiet (tallied : Tallied merchantId userId tally)
    (effects : List AccountEffect) (lenient : ∀ effect ∈ effects, Lenient userId now effect)
    (order : tally.clock ≤ now) :
    Tallied merchantId userId ⟨Journal.applied AccountEffect.apply effects tally.store, now,
      tally.fresh, tally.since⟩ := by
  obtain ⟨user, found, merchant⟩ := tallied.there
  obtain ⟨next, here, same, _⟩ := AccountEffect.lock_writes effects found
  refine ⟨⟨next, here, same.trans merchant⟩, tallied.past_lenient effects lenient order, ?_⟩
  obtain ⟨extra, grown, late⟩ := failures_lenient merchantId tally.store effects lenient
  rw [freshEntries_append grown fun entry member => (late entry member).1]
  exact tallied.listed

/-- After a success, a reset or a lock the observer begins anew. -/
theorem Tallied.anew {user : User} (found : after.user? userId = some user)
    (merchant : user.merchantId = merchantId)
    (past : ∀ entry ∈ signInEntries merchantId userId .failure after, entry.occurredAt ≤ now) :
    Tallied merchantId userId ⟨after, now, [], now⟩ := by
  refine ⟨⟨user, found, merchant⟩, past, ?_⟩
  rw [freshEntries_now past]
  exact List.Sublist.refl _

/-- A lenient call locks nobody who was not locked. -/
theorem lockedAt_lenient {user : User} (found : store.user? userId = some user)
    (effects : List AccountEffect) (lenient : ∀ effect ∈ effects, Lenient userId now effect)
    {time : Time}
    (locked : lockedAt userId time (Journal.applied AccountEffect.apply effects store) = true) :
    lockedAt userId time store = true := by
  obtain ⟨next, here, _, lock⟩ := AccountEffect.lock_writes effects found
  rw [lockedAt, here, Option.any_some] at locked
  rw [lockedAt, found, Option.any_some]
  rcases lock with kept | ⟨effect, member, wrote⟩
  · rwa [User.isLocked, kept] at locked
  · rw [User.isLocked, (lenient effect member).1 _ wrote] at locked
    cases locked

theorem lenient_of_none {effect : AccountEffect} (unlocking : effect.lockWrite? userId = none)
    (unlogged : effect.auditRow? = none) : Lenient userId now effect := by
  refine ⟨fun lock wrote => ?_, fun row logged => ?_⟩
  · rw [unlocking] at wrote
    cases wrote
  · rw [unlogged] at logged
    cases logged

theorem lenient_audit {entry : AuditEntry} (other : entry.outcome = .failure →
    entry.reason ≠ some "BAD_PASSWORD" ∧ entry.occurredAt ≤ now) :
    Lenient userId now (.createAuditEntry entry) :=
  ⟨fun _ wrote => (by cases wrote), by rintro row ⟨⟩ _ _; exact other⟩

theorem lenient_update {access : Access} {id : String} {data : UserUpdate}
    (unlocks : data.lockedUntil = none ∨ data.lockedUntil = some none) :
    Lenient userId now (.updateUser access id data) := by
  refine ⟨fun lock wrote => ?_, fun _ logged => by cases logged⟩
  rw [AccountEffect.lockWrite?] at wrote
  split at wrote
  next =>
    rcases unlocks with kept | freed
    · rw [kept] at wrote
      cases wrote
    · rw [freed] at wrote
      exact (Option.some.inj wrote).symm
  next => cases wrote

theorem answer_lenient {row : User} {matched : Bool} {context : AttemptContext}
    {sessionId sessionToken : String} (right : User.isLocked row now = false → matched = true) :
    Performs (Lenient userId now)
      (answer digests row matched context sessionId sessionToken now) := by
  unfold answer
  split
  next =>
    refine (record_performs (lenient_audit fun _ => ?_)).bind fun _ => trivial
    exact ⟨by simp [auditEntry], le_refl _⟩
  next open_ =>
    rw [right (by simpa using open_), if_neg (by simp)]
    split
    next suspended =>
      refine (record_performs (lenient_audit fun _ => ?_)).bind fun _ => trivial
      exact ⟨by simp [auditEntry, suspended, statusReason], le_refl _⟩
    next =>
      exact startSession_performs (lenient_audit fun failed => by cases failed)
        (fun _ => lenient_of_none rfl rfl) (lenient_update (.inr rfl))

theorem login_lenient {attempt : LoginAttempt} (sessionId sessionToken : String)
    (other : misses digests attempt userId now store = false) :
    ∃ effects, (∀ effect ∈ effects, Lenient userId now effect) ∧
      (AccountCall.login attempt sessionId sessionToken now).after digests store =
        Journal.applied AccountEffect.apply effects store := by
  cases chosen : chosen? digests attempt store with
  | none => exact ⟨[], by simp, (login_unknown chosen).1⟩
  | some found =>
      obtain ⟨row, matched⟩ := found
      by_cases named : row.id = userId
      · rw [(login_after chosen).1]
        refine (answer_lenient fun open_ => ?_).exec store
        by_contra wrong
        simp [misses, chosen, named, open_, wrong] at other
      · obtain ⟨effects, aloof, left⟩ := login_aloof sessionId sessionToken now chosen named
        exact ⟨effects, fun effect member => (aloof effect member).lenient, left⟩

theorem windowStart_le_countFrom {lastSuccess : Option Time} :
    windowStart now ≤ countFrom lastSuccess now := by
  unfold countFrom
  split
  next success =>
    split
    next later => exact Int.le_of_lt later
    next => exact le_refl _
  next => exact le_refl _

/-- Rows that are all of fresh wrong passwords are no more than the observer knows of. -/
theorem countedFailures_le {from_ : Time} (tallied : Tallied merchantId userId tally)
    (window : windowStart now ≤ from_)
    (fresh : ∀ entry ∈ countedFailures merchantId userId from_ tally.store,
      entry.reason = some "BAD_PASSWORD" ∧ tally.since < entry.occurredAt) :
    (countedFailures merchantId userId from_ tally.store).length ≤
      tally.fresh.countP fun time => windowStart now < time := by
  have only : countedFailures merchantId userId from_ tally.store =
      (freshEntries merchantId userId tally.since tally.store).filter fun entry =>
        from_ < entry.occurredAt := by
    have all : (countedFailures merchantId userId from_ tally.store).filter (fun entry =>
        entry.reason = some "BAD_PASSWORD" && tally.since < entry.occurredAt) =
          countedFailures merchantId userId from_ tally.store :=
      List.filter_eq_self.mpr fun entry member => by simpa using fresh entry member
    rw [← all, countedFailures, freshEntries, List.filter_filter, List.filter_filter]
    exact List.filter_congr fun entry _ => Bool.and_comm ..
  calc (countedFailures merchantId userId from_ tally.store).length
      = (((freshEntries merchantId userId tally.since tally.store).map
          AuditEntry.occurredAt).filter fun time => from_ < time).length := by
        rw [only, List.filter_map, List.length_map]
        rfl
    _ ≤ (tally.fresh.reverse.filter fun time => from_ < time).length :=
        (tallied.listed.filter _).length_le
    _ = tally.fresh.countP fun time => from_ < time := by
        rw [List.filter_reverse, List.length_reverse, List.countP_eq_length_filter]
    _ ≤ tally.fresh.countP fun time => windowStart now < time := by
        refine List.countP_mono_left fun time _ late => ?_
        simp only [decide_eq_true_eq] at late ⊢
        exact Int.lt_of_le_of_lt window late

theorem failuresNow_le {row : User} (context : AttemptContext)
    (tallied : Tallied row.merchantId row.id tally)
    (fresh : ∀ entry ∈ countedFailures row.merchantId row.id
      (countFrom (lastSuccess? row.merchantId row.id now tally.store) now) tally.store,
        entry.reason = some "BAD_PASSWORD" ∧ tally.since < entry.occurredAt) :
    failuresNow row context now tally.store ≤
      (now :: tally.fresh).countP fun time => windowStart now < time := by
  have last : lastSuccess? row.merchantId row.id now
      (refused row "BAD_PASSWORD" context now tally.store) =
        lastSuccess? row.merchantId row.id now tally.store := by
    rw [lastSuccess?, signInEntries_refused, if_neg (by simp), List.append_nil]
    rfl
  simp only [failuresNow]
  rw [last, countedFailures, signInEntries_refused, if_pos rfl, List.filter_append,
    List.length_append, List.countP_cons_of_pos (by simpa using windowStart_lt)]
  exact Nat.add_le_add (countedFailures_le tallied windowStart_le_countFrom fresh)
    (List.length_filter_le _ _)

theorem Tallied.miss {attempt : LoginAttempt} {sessionId sessionToken : String} {row : User}
    (tallied : Tallied merchantId row.id tally) (order : tally.clock ≤ now)
    (chosen : chosen? digests attempt tally.store = some (row, false))
    (open_ : User.isLocked row now = false) :
    Tallied merchantId row.id
      (if lockedAt row.id now
          ((AccountCall.login attempt sessionId sessionToken now).after digests tally.store) then
        ⟨(AccountCall.login attempt sessionId sessionToken now).after digests tally.store, now, [],
          now⟩
      else ⟨(AccountCall.login attempt sessionId sessionToken now).after digests tally.store, now,
        now :: tally.fresh, tally.since⟩) := by
  obtain ⟨user, found, merchant⟩ := tallied.there
  obtain rfl : row = user := Option.some.inj ((user?_of_chosen chosen).symm.trans found)
  subst merchant
  have left : (AccountCall.login attempt sessionId sessionToken now).after digests tally.store =
      missed row attempt.context now tally.store := by
    rw [(login_after chosen).1, answer_missed open_ found]
    rfl
  have here : (missed row attempt.context now tally.store).user? row.id = some _ :=
    user?_missed found
  have entries : signInEntries row.merchantId row.id .failure
      (missed row attempt.context now tally.store) =
        signInEntries row.merchantId row.id .failure tally.store ++
          [auditEntry row.merchantId row.id .failure (some "BAD_PASSWORD") attempt.context .login
            now] := signInEntries_refused
  have past : ∀ entry ∈ signInEntries row.merchantId row.id .failure
      (missed row attempt.context now tally.store), entry.occurredAt ≤ now := by
    rw [entries]
    intro entry member
    rcases List.mem_append.mp member with before | last
    · exact (tallied.past entry before).trans order
    · obtain rfl := List.mem_singleton.mp last
      exact le_refl now
  rw [left]
  split
  next => exact Tallied.anew here rfl past
  next =>
    refine ⟨⟨_, here, rfl⟩, past, ?_⟩
    rw [freshEntries, entries, List.filter_append, List.map_append, List.reverse_cons]
    refine tallied.listed.append ?_
    exact (List.filter_sublist.map AuditEntry.occurredAt)

theorem Tallied.locksOnFive_miss {attempt : LoginAttempt} {sessionId sessionToken : String}
    {row : User} (tallied : Tallied merchantId row.id tally)
    (chosen : chosen? digests attempt tally.store = some (row, false))
    (open_ : User.isLocked row now = false)
    (fresh : ∀ entry ∈ countedFailures row.merchantId row.id
      (countFrom (lastSuccess? row.merchantId row.id now tally.store) now) tally.store,
        entry.reason = some "BAD_PASSWORD" ∧ tally.since < entry.occurredAt)
    (locked : lockedAt row.id now
      ((AccountCall.login attempt sessionId sessionToken now).after digests tally.store) = true) :
    maxFailuresInWindow ≤
      (now :: tally.fresh).countP fun time => windowStart now < time := by
  obtain ⟨user, found, merchant⟩ := tallied.there
  obtain rfl : row = user := Option.some.inj ((user?_of_chosen chosen).symm.trans found)
  subst merchant
  rw [(login_after chosen).1, answer_missed open_ found, lockedAt] at locked
  change Option.any _ ((missed row attempt.context now tally.store).user? row.id) = true at locked
  rw [user?_missed found, Option.any_some] at locked
  refine le_trans ?_ (failuresNow_le attempt.context tallied fresh)
  by_contra few
  have kept : (row.apply (failureUpdate (failuresNow row attempt.context now tally.store)
      now)).lockedUntil = row.lockedUntil := by
    rw [User.apply, failureUpdate, if_neg few]
    rfl
  rw [User.isLocked, kept] at locked
  exact absurd locked (by simpa [User.isLocked] using open_)

theorem after_lenient (digests : Digests) (call : AccountCall) (store : Store)
    (other : ∀ tried ∈ Watch.attempt? call,
      misses digests tried.1 userId tried.2 store = false) :
    ∃ effects, (∀ effect ∈ effects, Lenient userId call.time effect) ∧
      call.after digests store = Journal.applied AccountEffect.apply effects store := by
  have aloof : Performs (Aloof userId) (call.program digests) →
      ∃ effects, (∀ effect ∈ effects, Lenient userId call.time effect) ∧
        call.after digests store = Journal.applied AccountEffect.apply effects store :=
    fun performs => after_performs (performs.mono fun _ aloof => aloof.lenient)
  cases call with
  | login attempt sessionId sessionToken now =>
      exact login_lenient sessionId sessionToken (other (attempt, now) rfl)
  | invite request input id passwordHash token mails =>
      exact aloof (invite_aloof request input id passwordHash token mails)
  | requestPasswordReset allowed tokenOf mails email context now =>
      exact aloof (requestPasswordReset_aloof allowed tokenOf mails email context now)
  | setPassword request passwordHash => exact aloof (setPassword_aloof request passwordHash)
  | setPasswordWithToken token passwordHash context sessionId sessionToken now =>
      refine setPasswordWithToken_after token passwordHash (lenient_of_none rfl rfl) fun id _ => ?_
      exact completeReset_performs (lenient_update (.inr rfl)) (fun _ => lenient_of_none rfl rfl)
        (fun _ => lenient_of_none rfl rfl) fun _ => lenient_audit fun failed => by cases failed
  | updateStatus request id status =>
      refine after_performs (authorised_performs fun scope => ?_)
      refine (updateStatus_performs (lenient_update ?_)).bind fun _ => trivial
      unfold UsersService.statusUpdate
      split
      next => exact .inr rfl
      next => exact .inl rfl

theorem Tallied.step (tallied : Tallied merchantId userId tally) {call : AccountCall}
    (order : tally.clock ≤ call.time) :
    Tallied merchantId userId (tally.step digests userId call) := by
  have anew : ∀ effects, (∀ effect ∈ effects, Lenient userId call.time effect) →
      Tallied merchantId userId ⟨Journal.applied AccountEffect.apply effects tally.store,
        call.time, [], call.time⟩ := by
    intro effects lenient
    obtain ⟨user, found, merchant⟩ := tallied.there
    obtain ⟨next, here, same, _⟩ := AccountEffect.lock_writes effects found
    exact .anew here (same.trans merchant) (tallied.past_lenient effects lenient order)
  have passes : ∀ other : AccountCall, Watch.attempt? other = none → tally.clock ≤ other.time →
      Tallied merchantId userId
        ⟨other.after digests tally.store, other.time, tally.fresh, tally.since⟩ := by
    intro other none order
    obtain ⟨effects, lenient, left⟩ := after_lenient digests other tally.store (by simp [none])
    rw [left]
    exact tallied.quiet effects lenient order
  cases call with
  | login attempt sessionId sessionToken now =>
      simp only [Tally.step]
      cases miss : misses digests attempt userId now tally.store with
      | true =>
          obtain ⟨found, chosen, meets⟩ := (Option.any_eq_true _ _).mp miss
          simp only [Bool.and_eq_true, Bool.not_eq_true', decide_eq_true_eq] at meets
          obtain ⟨⟨unmatched, rfl⟩, open_⟩ := meets
          obtain ⟨row, matched⟩ := found
          obtain rfl : matched = false := unmatched
          exact tallied.miss order chosen open_
      | false =>
          obtain ⟨effects, lenient, left⟩ := login_lenient sessionId sessionToken miss
          rw [left, if_neg (by simp)]
          split
          next => exact anew effects lenient
          next => exact tallied.quiet effects lenient order
  | setPasswordWithToken token passwordHash context sessionId sessionToken now =>
      obtain ⟨effects, lenient, left⟩ := after_lenient digests (.setPasswordWithToken
        token passwordHash context sessionId sessionToken now) tally.store (by rintro _ ⟨⟩)
      simp only [Tally.step]
      rw [left]
      split
      next => exact anew effects lenient
      next => exact tallied.quiet effects lenient order
  | _ => exact passes _ rfl order

theorem Tallied.locksOnFive (tallied : Tallied merchantId userId tally) {call : AccountCall}
    (counts : tally.CountsFresh digests userId call) : tally.LocksOnFive digests userId call := by
  intro open_ locked
  by_cases missed_ : ∃ tried ∈ Watch.attempt? call,
      misses digests tried.1 userId tried.2 tally.store = true
  · refine ⟨missed_, ?_⟩
    obtain ⟨tried, attempted, miss⟩ := missed_
    have fresh := counts.2 tried attempted miss
    cases call with
    | login attempt sessionId sessionToken now =>
        cases attempted
        obtain ⟨found, chosen, meets⟩ := (Option.any_eq_true _ _).mp miss
        simp only [Bool.and_eq_true, Bool.not_eq_true', decide_eq_true_eq] at meets
        obtain ⟨⟨unmatched, rfl⟩, unlocked⟩ := meets
        obtain ⟨row, matched⟩ := found
        obtain rfl : matched = false := unmatched
        refine tallied.locksOnFive_miss chosen unlocked (fun entry member => ?_) locked
        rw [Tally.countsFresh, chosen] at fresh
        simpa using List.all_eq_true.mp fresh entry member
    | _ => cases attempted
  · obtain ⟨effects, lenient, left⟩ := after_lenient digests call tally.store
      fun tried attempted => by
        simpa using fun miss => missed_ ⟨tried, attempted, miss⟩
    obtain ⟨user, found, _⟩ := tallied.there
    rw [left] at locked
    rw [lockedAt_lenient found effects lenient locked] at open_
    cases open_

/-- Where every wrong password counts fresh ones only, an account becomes locked only by the
fifth of them within the window. -/
theorem locks_on_five (digests : Digests) (userId : String) (store : Store) (clock : Time)
    (user : User) (found : store.user? userId = some user)
    (past : ∀ entry ∈ store.auditLog, entry.actorId = userId → entry.occurredAt ≤ clock)
    (calls : List AccountCall)
    (counts : Runs.Throughout (Tally.step digests userId) (Tally.CountsFresh digests userId) calls
      (Tally.start store clock)) :
    Runs.Throughout (Tally.step digests userId) (Tally.LocksOnFive digests userId) calls
      (Tally.start store clock) := by
  have first : Tallied user.merchantId userId (Tally.start store clock) := by
    refine .anew found rfl fun entry member => ?_
    obtain ⟨logged, meets⟩ := List.mem_filter.mp member
    simp only [Bool.and_eq_true, decide_eq_true_eq] at meets
    exact past entry logged meets.1.1.2
  have always : Runs.Always (Tally.step digests userId) (Tallied user.merchantId userId) calls
      (Tally.start store clock) :=
    Runs.always_of_throughout (fun _ _ tallied counts => tallied.step counts.1) first counts
  refine (always.throughout.and counts).mono ?_
  rintro tally call ⟨tallied, counts⟩
  exact tallied.locksOnFive counts

end Steps

def sampleReset : Store :=
  { sampleAccounts with
    resetTokens := (UniqueTable.put? [
      { userId := "ada", tokenHash := "link", expiresAt := 100 }]).getD .empty }

def sampleResetBetween : List AccountCall :=
  [sampleAttempt "h0" 1, sampleAttempt "h0" 2, sampleAttempt "h0" 3, sampleAttempt "h0" 4,
    .setPasswordWithToken "link" "h3" ⟨none, none⟩ "t" "t" 5]

/-- The first wrong password after the reset locks the account. -/
theorem locked_after_reset :
    ¬Runs.Throughout (Tally.step sampleDigests "ada") (Tally.LocksOnFive sampleDigests "ada")
      (sampleResetBetween ++ [sampleAttempt "h0" 6]) (Tally.start sampleReset 0) := by
  intro holds
  have five := holds.at_end (by decide) (by decide)
  exact absurd five.2 (by decide)

theorem locks_on_five_sample :
    Runs.Throughout (Tally.step sampleDigests "ada") (Tally.LocksOnFive sampleDigests "ada")
      (sampleWrongPasswords ++ [sampleAttempt "h1" 6]) (Tally.start sampleReset 0) :=
  locks_on_five sampleDigests "ada" sampleReset 0 _ rfl (by decide) _ (by decide)

end Accounts

end MultiBrandInvoicing
