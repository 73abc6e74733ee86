import MultiBrandInvoicing.RateLimits.RateTokens

/-!
# Grants in any window

The limiter counts in fixed windows, the first call of each opening it.  Wherever an interval of
the length of a window is laid, no more than twice the limit is granted in it, whichever calls
fail, crash or overtake each other: it meets two windows of the limiter at most.
-/

set_option autoImplicit false

namespace MultiBrandInvoicing

namespace RateTokens

def Call.isGranted : Call → Bool
  | .returned granted => granted
  | _ => false

def grants (state : State) : Action → Bool
  | .advance call fate =>
      !(state.calls call).isGranted &&
        ((step state (.advance call fate)).calls call).isGranted
  | _ => false

def grantTimes : List Action → State → List Nat
  | [], _ => []
  | action :: rest, state =>
      (if grants state action then [state.now] else []) ++ grantTimes rest (step state action)

def inInterval (first length time : Nat) : Bool := first ≤ time && time < first + length

def Spaced (bound length : Nat) (times : List Nat) : Prop :=
  ∀ first, times.countP (inInterval first length) ≤ bound

section Effects

variable {limit windowSeconds : Nat} {state : State}

inductive Effect (windowSeconds : Nat) (state : State) : Bool → State → Prop where
  | none_ {next : State} (kept : next.counter = state.counter)
      (granted : next.granted = state.granted) (past : state.now ≤ next.now) :
      Effect windowSeconds state false next
  | create {next : State} (absent : state.live? = none) (created : next.counter = some ⟨1, none⟩)
      (granted : next.granted = 0) (now : next.now = state.now) :
      Effect windowSeconds state false next
  | count {next : State} {counter : Counter} (grant : Bool) (there : state.counter = some counter)
      (counted : next.counter = some { counter with count := counter.count + 1 })
      (granted : next.granted = if grant then state.granted + 1 else state.granted)
      (now : next.now = state.now) : Effect windowSeconds state grant next
  | close {next : State} {count : Nat} (grant : Bool) (there : state.counter = some ⟨count, none⟩)
      (closed : next.counter = some ⟨count, some (state.now + 1000 * windowSeconds)⟩)
      (granted : next.granted = if grant then state.granted + 1 else state.granted)
      (now : next.now = state.now) : Effect windowSeconds state grant next

theorem granted_put (call : Nat) (answer : Call) :
    ((state.put call answer).calls call).isGranted = answer.isGranted := by
  simp [State.put]

theorem effect_incr (sound : Sound limit windowSeconds state) {call : Nat}
    (fresh : state.calls call = .running (acquireGenericRateToken limit windowSeconds))
    (fate : Fate) :
    Effect windowSeconds state (grants state (.advance call fate))
      (step state (.advance call fate)) := by
  have waiting : (state.calls call).isGranted = false := by rw [fresh]; rfl
  rcases fate with _ | _ | _
  · cases live : state.live? with
    | none =>
        have run := step_absent fresh live
        have whole : grants state (.advance call .answered) = false := by
          rw [grants, run, granted_put, opening]
          simp [Call.isGranted]
        rw [whole, run]
        exact .create live rfl rfl rfl
    | some counter =>
        have run := step_live fresh live (sound.count_ne_one live)
        have whole : grants state (.advance call .answered) =
            decide (counter.count + 1 ≤ limit) := by
          rw [grants, run, granted_put, waiting]
          simp [Call.isGranted]
        rw [whole, run]
        refine .count _ (Option.filter_eq_some_iff.mp live).1 rfl ?_ rfl
        simp only [State.put, decide_eq_true_eq]
  · have run : step state (.advance call (.unanswered false)) = state.put call .failed := by
      simp only [step, fresh, acquireGenericRateToken]
    have whole : grants state (.advance call (.unanswered false)) = false := by
      rw [grants, run, granted_put]
      simp [Call.isGranted]
    rw [whole, run]
    exact .none_ rfl rfl (Nat.le_refl _)
  · have run : step state (.advance call (.unanswered true)) =
        state.incremented.put call .failed := by
      simp only [step, fresh, acquireGenericRateToken]
    have whole : grants state (.advance call (.unanswered true)) = false := by
      rw [grants, run, granted_put]
      simp [Call.isGranted]
    rw [whole, run]
    cases live : state.live? with
    | none =>
        simp only [State.incremented, live]
        exact .create live rfl rfl rfl
    | some counter =>
        simp only [State.incremented, live]
        exact .count false (Option.filter_eq_some_iff.mp live).1 rfl rfl rfl

theorem effect_expire (sound : Sound limit windowSeconds state) {call : Nat}
    (opened : state.calls call = opening limit windowSeconds) (fate : Fate) :
    Effect windowSeconds state (grants state (.advance call fate))
      (step state (.advance call fate)) := by
  have waiting : (state.calls call).isGranted = false := by rw [opened]; rfl
  obtain ⟨count, there, _⟩ := sound.owed call (by rw [opened]; rfl)
  have live : state.live? = some ⟨count, none⟩ := by
    simp [State.live?, there, Counter.isLive]
  have closed : (state.expiring windowSeconds).counter =
      some ⟨count, some (state.now + 1000 * windowSeconds)⟩ := by
    simp [State.expiring, live]
  rcases fate with _ | _ | _
  · have run : step state (.advance call .answered) =
        (state.expiring windowSeconds).resume call (.done (1 ≤ limit)) := step_opening opened
    rw [resume_done] at run
    have whole : grants state (.advance call .answered) = decide (1 ≤ limit) := by
      rw [grants, run, granted_put, waiting]
      simp [Call.isGranted]
    rw [whole, run]
    exact .close _ there closed rfl rfl
  · have run : step state (.advance call (.unanswered false)) = state.put call .failed := by
      simp only [step, opened, opening]
    have whole : grants state (.advance call (.unanswered false)) = false := by
      rw [grants, run, granted_put]
      simp [Call.isGranted]
    rw [whole, run]
    exact .none_ rfl rfl (Nat.le_refl _)
  · have run : step state (.advance call (.unanswered true)) =
        (state.expiring windowSeconds).put call .failed := by
      simp only [step, opened, opening]
    have whole : grants state (.advance call (.unanswered true)) = false := by
      rw [grants, run, granted_put]
      simp [Call.isGranted]
    rw [whole, run]
    exact .close false there closed rfl rfl

theorem effect (sound : Sound limit windowSeconds state) (action : Action) :
    Effect windowSeconds state (grants state action) (step state action) := by
  cases action with
  | wait milliseconds => exact .none_ rfl rfl (Nat.le_add_right _ _)
  | crash call =>
      have still : (step state (.crash call)).counter = state.counter ∧
          (step state (.crash call)).granted = state.granted ∧
          (step state (.crash call)).now = state.now := by
        simp only [step]
        split <;> exact ⟨rfl, rfl, rfl⟩
      exact .none_ still.1 still.2.1 (Nat.le_of_eq still.2.2.symm)
  | advance call fate =>
      have placed := sound.placed call
      generalize at_ : state.calls call = here at placed
      cases placed with
      | fresh => exact effect_incr sound at_ fate
      | opening => exact effect_expire sound at_ fate
      | returned granted =>
          have run : step state (.advance call fate) = state := by simp only [step, at_]
          have whole : grants state (.advance call fate) = false := by simp [grants, run]
          rw [whole, run]
          exact .none_ rfl rfl (Nat.le_refl _)
      | failed =>
          have run : step state (.advance call fate) = state := by simp only [step, at_]
          have whole : grants state (.advance call fate) = false := by simp [grants, run]
          rw [whole, run]
          exact .none_ rfl rfl (Nat.le_refl _)

end Effects

/-! ## The windows of the limiter -/

section Ledger

variable {limit windowSeconds : Nat} {state next : State} {older previous current : List Nat}
variable {created : Nat}

/-- The grants of the current key, of the key before it and of all keys before that one: the
current key was created a window or more after the last key but one had gone. -/
structure Ledger (limit windowSeconds : Nat) (older previous current : List Nat) (created : Nat)
    (state : State) : Prop where
  past : created ≤ state.now
  counted : current.length = state.granted
  before : ∀ time ∈ older, time + 1000 * windowSeconds ≤ created
  until_ : ∀ time ∈ previous, time ≤ created
  within : ∀ time ∈ current, created ≤ time ∧ time ≤ state.now
  lasting : ∀ counter expiresAt, state.counter = some counter →
    counter.expiresAt = some expiresAt → created + 1000 * windowSeconds ≤ expiresAt
  unused : state.counter = none → previous = []
  few : previous.length ≤ limit
  spaced : Spaced (2 * limit) (1000 * windowSeconds) (older ++ previous)

theorem start_ledger : Ledger limit windowSeconds [] [] [] 0 (start limit windowSeconds) where
  past := Nat.zero_le _
  counted := rfl
  before := by simp
  until_ := by simp
  within := by simp
  lasting := by simp [start]
  unused := fun _ => rfl
  few := Nat.zero_le _
  spaced := fun _ => by simp

theorem Ledger.spaced_all (ledger : Ledger limit windowSeconds older previous current created state)
    (bounded : state.granted ≤ limit) :
    Spaced (2 * limit) (1000 * windowSeconds) (older ++ previous ++ current) := by
  intro first
  by_cases some_ : ∃ time ∈ current, inInterval first (1000 * windowSeconds) time = true
  · obtain ⟨time, member, inside⟩ := some_
    simp only [inInterval, Bool.and_eq_true, decide_eq_true_eq] at inside
    have here := ledger.within time member
    have none_ : older.countP (inInterval first (1000 * windowSeconds)) = 0 := by
      rw [List.countP_eq_zero]
      intro old found
      have far := ledger.before old found
      simp only [inInterval, Bool.and_eq_true, decide_eq_true_eq]
      omega
    have one := List.countP_le_length (p := inInterval first (1000 * windowSeconds))
      (l := previous)
    have two := List.countP_le_length (p := inInterval first (1000 * windowSeconds))
      (l := current)
    have few := ledger.few
    have counted := ledger.counted
    rw [List.countP_append, List.countP_append, none_]
    omega
  · have none_ : current.countP (inInterval first (1000 * windowSeconds)) = 0 := by
      rw [List.countP_eq_zero]
      intro time member inside
      exact some_ ⟨time, member, inside⟩
    rw [List.countP_append, none_]
    exact ledger.spaced first

theorem Ledger.moved (ledger : Ledger limit windowSeconds older previous current created state)
    (bounded : state.granted ≤ limit) {grant : Bool}
    (effect : Effect windowSeconds state grant next) :
    ∃ older_ previous_ current_ created_,
      older_ ++ previous_ ++ current_ =
        older ++ previous ++ current ++ (if grant then [state.now] else []) ∧
      Ledger limit windowSeconds older_ previous_ current_ created_ next := by
  have entered (counts : Bool) (now : next.now = state.now)
      (granted : next.granted = if counts then state.granted + 1 else state.granted) :
      (current ++ if counts then [state.now] else []).length = next.granted ∧
        ∀ time ∈ current ++ (if counts then [state.now] else []),
          created ≤ time ∧ time ≤ next.now := by
    have past := ledger.past
    have counted := ledger.counted
    rw [now, granted]
    cases counts with
    | false =>
        simp only [Bool.false_eq_true, if_false, List.append_nil]
        exact ⟨counted, ledger.within⟩
    | true =>
        simp only [if_true, List.length_append, List.length_singleton]
        refine ⟨by omega, ?_⟩
        intro time member
        rcases List.mem_append.mp member with old | new
        · exact ledger.within time old
        · rw [List.mem_singleton.mp new]
          exact ⟨past, Nat.le_refl _⟩
  cases effect with
  | none_ kept granted past =>
      refine ⟨older, previous, current, created, by simp, ?_⟩
      exact {
        past := Nat.le_trans ledger.past past
        counted := by rw [granted]; exact ledger.counted
        before := ledger.before
        until_ := ledger.until_
        within := fun time member =>
          ⟨(ledger.within time member).1, Nat.le_trans (ledger.within time member).2 past⟩
        lasting := by rw [kept]; exact ledger.lasting
        unused := by rw [kept]; exact ledger.unused
        few := ledger.few
        spaced := ledger.spaced }
  | create absent made granted now =>
      refine ⟨older ++ previous, current, [], state.now, by simp, ?_⟩
      have over_ : ∀ time ∈ previous, time + 1000 * windowSeconds ≤ state.now := by
        intro time member
        have early := ledger.until_ time member
        cases there : state.counter with
        | none =>
            rw [ledger.unused there] at member
            cases member
        | some counter =>
            cases set : counter.expiresAt with
            | none => simp [State.live?, there, Counter.isLive, set] at absent
            | some expiresAt =>
                have lasting := ledger.lasting counter expiresAt there set
                have gone : ¬state.now < expiresAt := by
                  intro live
                  simp [State.live?, there, Counter.isLive, set, live] at absent
                omega
      exact {
        past := Nat.le_of_eq now.symm
        counted := by rw [granted]; rfl
        before := by
          intro time member
          rcases List.mem_append.mp member with old | recent
          · exact Nat.le_trans (ledger.before time old) ledger.past
          · exact over_ time recent
        until_ := fun time member => (ledger.within time member).2
        within := by simp
        lasting := by
          intro counter expiresAt there set
          rw [made] at there
          obtain rfl := Option.some.inj there
          cases set
        unused := by rw [made]; simp
        few := by rw [ledger.counted]; exact bounded
        spaced := ledger.spaced_all bounded }
  | @count _ counter _ there counted granted now =>
      obtain ⟨length, within⟩ := entered grant now granted
      refine ⟨older, previous, _, created, (List.append_assoc _ _ _).symm, ?_⟩
      exact {
        past := by rw [now]; exact ledger.past
        counted := length
        before := ledger.before
        until_ := ledger.until_
        within := within
        lasting := by
          intro other expiresAt same set
          rw [counted] at same
          obtain rfl := Option.some.inj same
          exact ledger.lasting counter expiresAt there set
        unused := by rw [counted]; simp
        few := ledger.few
        spaced := ledger.spaced }
  | close _ there closed granted now =>
      obtain ⟨length, within⟩ := entered grant now granted
      refine ⟨older, previous, _, created, (List.append_assoc _ _ _).symm, ?_⟩
      exact {
        past := by rw [now]; exact ledger.past
        counted := length
        before := ledger.before
        until_ := ledger.until_
        within := within
        lasting := by
          intro counter expiresAt same set
          rw [closed] at same
          obtain rfl := Option.some.inj same
          obtain rfl := Option.some.inj set
          exact Nat.add_le_add_right ledger.past _
        unused := by rw [closed]; simp
        few := ledger.few
        spaced := ledger.spaced }

theorem spaced_after (run : List Action) (sound : Sound limit windowSeconds state)
    (ledger : Ledger limit windowSeconds older previous current created state) :
    Spaced (2 * limit) (1000 * windowSeconds)
      (older ++ previous ++ current ++ grantTimes run state) := by
  induction run generalizing state older previous current created with
  | nil =>
      rw [grantTimes, List.append_nil]
      exact ledger.spaced_all sound.bounded
  | cons action rest ih =>
      obtain ⟨older_, previous_, current_, created_, times, kept⟩ :=
        ledger.moved sound.bounded (effect sound action)
      have later := ih (sound.moved (RateTokens.moved sound action)) kept
      rw [times] at later
      rw [grantTimes, ← List.append_assoc]
      exact later

end Ledger

/-- In no interval of the length of a window are more than twice as many calls let through as the
limit says, in any run of any number of calls. -/
theorem grants_spaced (limit windowSeconds : Nat) (run : List Action) :
    Spaced (2 * limit) (1000 * windowSeconds) (grantTimes run (start limit windowSeconds)) := by
  have ledger : Ledger limit windowSeconds [] [] [] 0 (start limit windowSeconds) := start_ledger
  have spaced := spaced_after run start_sound ledger
  simpa using spaced

end RateTokens

end MultiBrandInvoicing
