import Mathlib.Logic.Function.Basic
import MultiBrandInvoicing.Transitions.Runs

/-!
# Rate tokens

`acquireGenericRateToken` in `apps/api/src/infra/redis/redis.service.ts`: the first call of a
window creates the key by INCR and sets its time to live by EXPIRE.  Any number of calls share
the key; each command is answered, fails or is cut off, and a call may crash between its two
commands.
-/

set_option autoImplicit false

namespace MultiBrandInvoicing

namespace RateTokens

/-! ## One call -/

inductive Commands (α : Type) where
  | done (value : α)
  | incr (next : Nat → Commands α)
  | expire (seconds : Nat) (next : Commands α)

def acquireGenericRateToken (limit windowSeconds : Nat) : Commands Bool :=
  .incr fun count =>
    if count = 1 then .expire windowSeconds (.done (count ≤ limit)) else .done (count ≤ limit)

/-! ## The key and the calls -/

/-- The value of the key; times are in milliseconds. -/
structure Counter where
  count : Nat
  expiresAt : Option Nat
  deriving DecidableEq, Repr

def Counter.isLive (counter : Counter) (now : Nat) : Bool :=
  counter.expiresAt.all fun expiresAt => now < expiresAt

inductive Call where
  | running (rest : Commands Bool)
  | returned (granted : Bool)
  | failed

def Call.isFresh : Call → Bool
  | .running (.incr _) => true
  | _ => false

def Call.isOpening : Call → Bool
  | .running (.expire _ _) => true
  | _ => false

structure State where
  now : Nat
  counter : Option Counter
  calls : Nat → Call
  /-- How many calls have been granted since the key was created. -/
  granted : Nat
  lastCommand : Nat

inductive Fate where
  | answered
  | unanswered (performed : Bool)
  deriving DecidableEq, Repr

inductive Action where
  | advance (call : Nat) (fate : Fate)
  | crash (call : Nat)
  | wait (milliseconds : Nat)
  deriving DecidableEq, Repr

namespace State

/-- The key as Redis sees it: one that has expired is gone. -/
def live? (state : State) : Option Counter :=
  state.counter.filter fun counter => counter.isLive state.now

def nextCount (state : State) : Nat := (state.live?.elim 0 Counter.count) + 1

def incremented (state : State) : State :=
  match state.live? with
  | none => { state with counter := some ⟨1, none⟩, granted := 0, lastCommand := state.now }
  | some counter =>
      { state with
        counter := some { counter with count := counter.count + 1 }
        lastCommand := state.now }

def expiring (state : State) (seconds : Nat) : State :=
  { state with
    counter := state.live?.map fun counter =>
      { counter with expiresAt := some (state.now + 1000 * seconds) }
    lastCommand := state.now }

def put (state : State) (call : Nat) (next : Call) : State :=
  { state with calls := Function.update state.calls call next }

def resume (state : State) (call : Nat) : Commands Bool → State
  | .done granted =>
      { state.put call (.returned granted) with
        granted := if granted then state.granted + 1 else state.granted }
  | rest => state.put call (.running rest)

end State

def step (state : State) : Action → State
  | .advance call fate =>
      match state.calls call with
      | .running (.incr next) =>
          match fate with
          | .answered => state.incremented.resume call (next state.nextCount)
          | .unanswered true => state.incremented.put call .failed
          | .unanswered false => state.put call .failed
      | .running (.expire seconds next) =>
          match fate with
          | .answered => (state.expiring seconds).resume call next
          | .unanswered true => (state.expiring seconds).put call .failed
          | .unanswered false => state.put call .failed
      | _ => state
  | .crash call =>
      match state.calls call with
      | .running _ => state.put call .failed
      | _ => state
  | .wait milliseconds => { state with now := state.now + milliseconds }

def start (limit windowSeconds : Nat) : State where
  now := 0
  counter := none
  calls := fun _ => .running (acquireGenericRateToken limit windowSeconds)
  granted := 0
  lastCommand := 0

/-! ## What the limiter is for -/

/-- Nobody has sent a command for a full window, and no call is between its commands. -/
def IsIdle (windowSeconds : Nat) (state : State) : Prop :=
  (∀ call, (state.calls call).isOpening = false) ∧
    state.lastCommand + 1000 * windowSeconds ≤ state.now

/-- A call that is made now is granted, if its commands are answered. -/
def GrantsNext (state : State) : Prop :=
  ∀ call, (state.calls call).isFresh = true →
    (step (step state (.advance call .answered)) (.advance call .answered)).calls call =
      .returned true

def Recovered (windowSeconds : Nat) (state : State) : Prop :=
  IsIdle windowSeconds state → GrantsNext state

/-- A call that creates the key ends before its EXPIRE is carried out. -/
def breaks (state : State) : Action → Bool
  | .advance call fate =>
      ((state.calls call).isFresh && fate = .unanswered true && state.live?.isNone) ||
        ((state.calls call).isOpening && fate = .unanswered false)
  | .crash call => (state.calls call).isOpening
  | .wait _ => false

def Unbroken (state : State) (action : Action) : Prop := breaks state action = false

instance (state : State) (action : Action) : Decidable (Unbroken state action) :=
  inferInstanceAs (Decidable (_ = _))

/-! ## What one action can do -/

section Moves

variable {limit windowSeconds : Nat} {state next : State} {broken : Bool}

def opening (limit windowSeconds : Nat) : Call :=
  .running (.expire windowSeconds (.done (1 ≤ limit)))

inductive Call.IsOf (limit windowSeconds : Nat) : Call → Prop where
  | fresh : IsOf limit windowSeconds (.running (acquireGenericRateToken limit windowSeconds))
  | opening : IsOf limit windowSeconds (opening limit windowSeconds)
  | returned (granted : Bool) : IsOf limit windowSeconds (.returned granted)
  | failed : IsOf limit windowSeconds .failed

inductive Moved (limit windowSeconds : Nat) (state : State) : Bool → State → Prop where
  | still : Moved limit windowSeconds state false state
  | wait (milliseconds : Nat) :
      Moved limit windowSeconds state false { state with now := state.now + milliseconds }
  | fail (call : Nat) (closed : (state.calls call).isOpening = false) :
      Moved limit windowSeconds state false (state.put call .failed)
  | drop (call : Nat) (opened : (state.calls call).isOpening = true) :
      Moved limit windowSeconds state true (state.put call .failed)
  | create (call : Nat) (absent : state.live? = none) (answered : Bool) :
      Moved limit windowSeconds state (!answered)
        (State.put { state with
          counter := some ⟨1, none⟩
          granted := 0
          lastCommand := state.now } call
            (if answered then opening limit windowSeconds else .failed))
  | count (call : Nat) (counter : Counter) (live : state.live? = some counter) (next : Call)
      (granted : Nat) (placed : next.IsOf limit windowSeconds)
      (fresh : (state.calls call).isOpening = false) (closed : next.isOpening = false)
      (granting : granted = state.granted ∨
        granted = state.granted + 1 ∧ counter.count + 1 ≤ limit) :
      Moved limit windowSeconds state false
        (State.put { state with
          counter := some { counter with count := counter.count + 1 }
          granted := granted
          lastCommand := state.now } call next)
  | close (call : Nat) (opened : (state.calls call).isOpening = true) (next : Call)
      (granted : Nat) (placed : next.IsOf limit windowSeconds) (closed : next.isOpening = false)
      (granting : granted = state.granted ∨ granted = state.granted + 1 ∧ 1 ≤ limit) :
      Moved limit windowSeconds state false
        (State.put { state.expiring windowSeconds with granted := granted } call next)

/-- The calls are along their text, at most one is about to set the time to live of the key it
has created, and no more have been granted than the key has counted. -/
structure Sound (limit windowSeconds : Nat) (state : State) : Prop where
  placed : ∀ call, (state.calls call).IsOf limit windowSeconds
  single : ∀ first second, (state.calls first).isOpening = true →
    (state.calls second).isOpening = true → first = second
  owed : ∀ call, (state.calls call).isOpening = true →
    ∃ count, state.counter = some ⟨count, none⟩ ∧ state.granted + 1 ≤ count ∧
      (0 < limit → state.granted + 1 ≤ limit)
  positive : ∀ counter, state.counter = some counter → 1 ≤ counter.count
  counted : ∀ counter, state.counter = some counter → state.granted ≤ counter.count
  bounded : state.granted ≤ limit
  past : state.lastCommand ≤ state.now

theorem start_sound : Sound limit windowSeconds (start limit windowSeconds) where
  placed := fun _ => .fresh
  single := by simp [start, acquireGenericRateToken, Call.isOpening]
  owed := by simp [start, acquireGenericRateToken, Call.isOpening]
  positive := by simp [start]
  counted := by simp [start]
  bounded := Nat.zero_le _
  past := Nat.le_refl _

theorem Sound.count_ne_one (sound : Sound limit windowSeconds state) {counter : Counter}
    (live : state.live? = some counter) : 1 ≤ counter.count :=
  sound.positive counter (Option.filter_eq_some_iff.mp live).1

theorem resume_done (call : Nat) (granted : Bool) :
    state.resume call (.done granted) =
      State.put { state with granted := if granted then state.granted + 1 else state.granted }
        call (.returned granted) := rfl

theorem step_absent {call : Nat}
    (fresh : state.calls call = .running (acquireGenericRateToken limit windowSeconds))
    (absent : state.live? = none) :
    step state (.advance call .answered) =
      State.put { state with
        counter := some ⟨1, none⟩
        granted := 0
        lastCommand := state.now } call (opening limit windowSeconds) := by
  simp only [step, fresh, acquireGenericRateToken, State.nextCount, State.incremented, absent,
    Option.elim_none, if_pos]
  rfl

theorem step_live {call : Nat} {counter : Counter}
    (fresh : state.calls call = .running (acquireGenericRateToken limit windowSeconds))
    (live : state.live? = some counter) (positive : 1 ≤ counter.count) :
    step state (.advance call .answered) =
      State.put { state with
        counter := some { counter with count := counter.count + 1 }
        granted := if counter.count + 1 ≤ limit then state.granted + 1 else state.granted
        lastCommand := state.now } call (.returned (counter.count + 1 ≤ limit)) := by
  have later : ¬counter.count + 1 = 1 := by omega
  simp only [step, fresh, acquireGenericRateToken, State.nextCount, State.incremented, live,
    Option.elim_some, if_neg later, resume_done, decide_eq_true_eq]

theorem step_opening {call : Nat} (opened : state.calls call = opening limit windowSeconds) :
    step state (.advance call .answered) =
      (state.expiring windowSeconds).resume call (.done (1 ≤ limit)) := by
  simp only [step, opened, opening]

theorem moved_incr (sound : Sound limit windowSeconds state) {call : Nat}
    (fresh : state.calls call = .running (acquireGenericRateToken limit windowSeconds))
    (fate : Fate) :
    Moved limit windowSeconds state (breaks state (.advance call fate))
      (step state (.advance call fate)) := by
  have closed : (state.calls call).isOpening = false := by rw [fresh]; rfl
  rcases fate with _ | _ | _
  · have whole : breaks state (.advance call .answered) = false := by simp [breaks]
    rw [whole]
    cases live : state.live? with
    | none =>
        rw [step_absent fresh live]
        exact .create call live true
    | some counter =>
        rw [step_live fresh live (sound.count_ne_one live)]
        refine .count call counter live _ _ (.returned _) closed rfl ?_
        by_cases below : counter.count + 1 ≤ limit
        · exact .inr ⟨if_pos below, below⟩
        · exact .inl (if_neg below)
  · have run : step state (.advance call (.unanswered false)) = state.put call .failed := by
      simp only [step, fresh, acquireGenericRateToken]
    have whole : breaks state (.advance call (.unanswered false)) = false := by
      simp [breaks, closed]
    rw [run, whole]
    exact .fail call closed
  · have run : step state (.advance call (.unanswered true)) =
        state.incremented.put call .failed := by
      simp only [step, fresh, acquireGenericRateToken]
    have whole : breaks state (.advance call (.unanswered true)) = state.live?.isNone := by
      simp [breaks, fresh, Call.isFresh, acquireGenericRateToken]
    rw [run, whole]
    cases live : state.live? with
    | none =>
        simp only [State.incremented, live]
        exact .create call live false
    | some counter =>
        simp only [State.incremented, live]
        exact .count call counter live .failed state.granted .failed closed rfl (.inl rfl)

theorem moved_expire {call : Nat} (opened : state.calls call = opening limit windowSeconds)
    (fate : Fate) :
    Moved limit windowSeconds state (breaks state (.advance call fate))
      (step state (.advance call fate)) := by
  have open_ : (state.calls call).isOpening = true := by rw [opened]; rfl
  have begun : (state.calls call).isFresh = false := by rw [opened]; rfl
  rcases fate with _ | _ | _
  · have whole : breaks state (.advance call .answered) = false := by simp [breaks]
    rw [step_opening opened, whole, resume_done]
    refine .close call open_ (.returned (1 ≤ limit)) _ (.returned _) rfl ?_
    by_cases some_ : 1 ≤ limit
    · exact .inr ⟨by simp [some_, State.expiring], some_⟩
    · exact .inl (by simp [some_, State.expiring])
  · have run : step state (.advance call (.unanswered false)) = state.put call .failed := by
      simp only [step, opened, opening]
    have whole : breaks state (.advance call (.unanswered false)) = true := by
      simp [breaks, open_]
    rw [run, whole]
    exact .drop call open_
  · have run : step state (.advance call (.unanswered true)) =
        (state.expiring windowSeconds).put call .failed := by
      simp only [step, opened, opening]
    have whole : breaks state (.advance call (.unanswered true)) = false := by
      simp [breaks, begun]
    rw [run, whole]
    exact .close call open_ .failed state.granted .failed rfl (.inl rfl)

theorem moved (sound : Sound limit windowSeconds state) (action : Action) :
    Moved limit windowSeconds state (breaks state action) (step state action) := by
  cases action with
  | wait milliseconds => exact .wait milliseconds
  | crash call =>
      have placed := sound.placed call
      generalize at_ : state.calls call = here at placed
      cases placed with
      | fresh =>
          simp only [step, breaks, at_, acquireGenericRateToken]
          exact .fail call (by rw [at_]; rfl)
      | opening =>
          simp only [step, breaks, at_, opening]
          exact .drop call (by rw [at_]; rfl)
      | returned granted =>
          simp only [step, breaks, at_]
          exact .still
      | failed =>
          simp only [step, breaks, at_]
          exact .still
  | advance call fate =>
      have placed := sound.placed call
      generalize at_ : state.calls call = here at placed
      cases placed with
      | fresh => exact moved_incr sound at_ fate
      | opening => exact moved_expire at_ fate
      | returned granted =>
          simp only [step, breaks, at_, Call.isFresh, Call.isOpening, Bool.false_and,
            Bool.or_false]
          exact .still
      | failed =>
          simp only [step, breaks, at_, Call.isFresh, Call.isOpening, Bool.false_and,
            Bool.or_false]
          exact .still

/-! ## What every action keeps -/

theorem isOpening_put {call other : Nat} {answer : Call} (closed : answer.isOpening = false)
    (opened : ((state.put call answer).calls other).isOpening = true) :
    other ≠ call ∧ (state.calls other).isOpening = true := by
  by_cases same : other = call
  · subst same
    simp [State.put, closed] at opened
  · simp only [State.put, Function.update_of_ne same] at opened
    exact ⟨same, opened⟩

theorem placed_put (each : ∀ call, (state.calls call).IsOf limit windowSeconds) (call : Nat)
    {answer : Call} (placed : answer.IsOf limit windowSeconds) (other : Nat) :
    ((state.put call answer).calls other).IsOf limit windowSeconds := by
  by_cases same : other = call
  · subst same
    simpa [State.put] using placed
  · simpa [State.put, Function.update_of_ne same] using each other

/-- While the key has expired no call is about to set its time to live. -/
theorem Sound.closed_of_absent (sound : Sound limit windowSeconds state)
    (absent : state.live? = none) (call : Nat) : (state.calls call).isOpening = false := by
  by_contra opened
  obtain ⟨count, there, _⟩ := sound.owed call (by simpa using opened)
  simp [State.live?, there, Counter.isLive] at absent

theorem Sound.ended (sound : Sound limit windowSeconds state) (call : Nat) {answer : Call}
    (placed : answer.IsOf limit windowSeconds) (closed : answer.isOpening = false) :
    Sound limit windowSeconds (state.put call answer) where
  placed := placed_put sound.placed call placed
  single := fun first second one other =>
    sound.single first second (isOpening_put closed one).2 (isOpening_put closed other).2
  owed := fun other opened => sound.owed other (isOpening_put closed opened).2
  positive := sound.positive
  counted := sound.counted
  bounded := sound.bounded
  past := sound.past

theorem Sound.counts (sound : Sound limit windowSeconds state) {counter : Counter}
    (live : state.live? = some counter) {granted : Nat}
    (granting : granted = state.granted ∨
      granted = state.granted + 1 ∧ counter.count + 1 ≤ limit) :
    Sound limit windowSeconds { state with
      counter := some { counter with count := counter.count + 1 }
      granted := granted
      lastCommand := state.now } := by
  have there : state.counter = some counter := (Option.filter_eq_some_iff.mp live).1
  have counted := sound.counted counter there
  have bounded := sound.bounded
  exact {
    placed := sound.placed
    single := sound.single
    owed := by
      intro call opened
      obtain ⟨count, same, below, within⟩ := sound.owed call opened
      rw [there] at same
      obtain rfl := Option.some.inj same
      refine ⟨count + 1, rfl, ?_, ?_⟩
      · change granted + 1 ≤ count + 1
        omega
      · intro some_
        have room := within some_
        change granted + 1 ≤ limit
        dsimp only at granting
        omega
    positive := by
      intro other same
      obtain rfl := Option.some.inj same
      exact Nat.le_add_left 1 counter.count
    counted := by
      intro other same
      obtain rfl := Option.some.inj same
      change granted ≤ counter.count + 1
      omega
    bounded := by
      change granted ≤ limit
      omega
    past := Nat.le_refl _ }

theorem Sound.creates (sound : Sound limit windowSeconds state) (absent : state.live? = none)
    (call : Nat) (answered : Bool) :
    Sound limit windowSeconds
      (State.put { state with
        counter := some ⟨1, none⟩
        granted := 0
        lastCommand := state.now } call
          (if answered then opening limit windowSeconds else .failed)) := by
  have closed := sound.closed_of_absent absent
  have alone : ∀ other, ((State.put { state with
      counter := some ⟨1, none⟩
      granted := 0
      lastCommand := state.now } call
        (if answered then opening limit windowSeconds else .failed)).calls other).isOpening =
          true → other = call := by
    intro other opened
    by_contra different
    simp [State.put, Function.update_of_ne different, closed other] at opened
  exact {
    placed := by
      refine placed_put sound.placed call ?_
      cases answered with
      | true => exact .opening
      | false => exact .failed
    single := fun first second one other => (alone first one).trans (alone second other).symm
    owed := fun other opened => ⟨1, rfl, Nat.le_refl _, fun some_ => some_⟩
    positive := by
      intro other same
      obtain rfl := Option.some.inj same
      exact Nat.le_refl _
    counted := fun _ _ => Nat.zero_le _
    bounded := Nat.zero_le _
    past := Nat.le_refl _ }

theorem Sound.closes (sound : Sound limit windowSeconds state) {call : Nat}
    (opened : (state.calls call).isOpening = true) {answer : Call} {granted : Nat}
    (placed : answer.IsOf limit windowSeconds) (closed : answer.isOpening = false)
    (granting : granted = state.granted ∨ granted = state.granted + 1 ∧ 1 ≤ limit) :
    Sound limit windowSeconds
      (State.put { state.expiring windowSeconds with granted := granted } call answer) := by
  obtain ⟨count, there, below, within⟩ := sound.owed call opened
  have none_ : ∀ other, ((State.put { state.expiring windowSeconds with
      granted := granted } call answer).calls other).isOpening = true → False := by
    intro other still
    obtain ⟨different, before⟩ := isOpening_put closed still
    exact different (sound.single other call before opened)
  have live : state.live? = some ⟨count, none⟩ := by
    simp [State.live?, there, Counter.isLive]
  have bounded := sound.bounded
  exact {
    placed := placed_put sound.placed call placed
    single := fun first _ one => (none_ first one).elim
    owed := fun other still => (none_ other still).elim
    positive := by
      intro other same
      simp only [State.put, State.expiring, live, Option.map_some, Option.some.injEq] at same
      subst same
      exact Nat.le_of_add_left_le below
    counted := by
      intro other same
      simp only [State.put, State.expiring, live, Option.map_some, Option.some.injEq] at same
      subst same
      change granted ≤ count
      omega
    bounded := by
      change granted ≤ limit
      omega
    past := Nat.le_refl _ }

theorem Sound.moved (sound : Sound limit windowSeconds state)
    (moved : Moved limit windowSeconds state broken next) : Sound limit windowSeconds next := by
  cases moved with
  | still => exact sound
  | wait milliseconds =>
      exact { sound with past := Nat.le_add_right_of_le sound.past }
  | fail call closed => exact sound.ended call .failed rfl
  | drop call opened => exact sound.ended call .failed rfl
  | create call absent answered => exact sound.creates absent call answered
  | count call counter live answer granted placed fresh closed granting =>
      exact (sound.counts live granting).ended call placed closed
  | close call opened answer granted placed closed granting =>
      exact sound.closes opened placed closed granting

/-! ## The key of a run that breaks nothing off -/

structure Closing (windowSeconds : Nat) (state : State) : Prop where
  owed : ∀ counter, state.counter = some counter → counter.expiresAt = none →
    ∃ call, (state.calls call).isOpening = true
  timed : ∀ counter expiresAt, state.counter = some counter →
    counter.expiresAt = some expiresAt → expiresAt ≤ state.lastCommand + 1000 * windowSeconds

theorem start_closing : Closing windowSeconds (start limit windowSeconds) where
  owed := by simp [start]
  timed := by simp [start]

theorem opening_kept {call other : Nat} {answer : Call}
    (closed : (state.calls call).isOpening = false)
    (opened : (state.calls other).isOpening = true) :
    ((state.put call answer).calls other).isOpening = true := by
  have different : other ≠ call := by
    intro same
    rw [same, closed] at opened
    cases opened
  simpa [State.put, Function.update_of_ne different] using opened

theorem Closing.moved (closing : Closing windowSeconds state)
    (sound : Sound limit windowSeconds state)
    (moved : Moved limit windowSeconds state broken next) (whole : broken = false) :
    Closing windowSeconds next := by
  cases moved with
  | still => exact closing
  | wait milliseconds => exact ⟨closing.owed, closing.timed⟩
  | fail call closed =>
      refine ⟨fun counter there unset => ?_, closing.timed⟩
      obtain ⟨other, opened⟩ := closing.owed counter there unset
      exact ⟨other, opening_kept closed opened⟩
  | drop call opened => cases whole
  | create call absent answered =>
      obtain rfl : answered = true := by simpa using whole
      constructor
      · intro _ _ _
        exact ⟨call, by simp [State.put]; rfl⟩
      · intro counter expiresAt there set
        obtain rfl := Option.some.inj there
        cases set
  | count call counter live answer granted placed fresh closed granting =>
      have before : state.counter = some counter := (Option.filter_eq_some_iff.mp live).1
      refine ⟨fun other there unset => ?_, fun other expiresAt there set => ?_⟩
      · obtain rfl := Option.some.inj there
        obtain ⟨first, opened⟩ := closing.owed counter before unset
        exact ⟨first, opening_kept fresh opened⟩
      · obtain rfl := Option.some.inj there
        exact Nat.le_trans (closing.timed counter expiresAt before set)
          (Nat.add_le_add_right sound.past _)
  | close call opened answer granted placed closed granting =>
      refine ⟨fun other there unset => ?_, fun other expiresAt there set => ?_⟩
      · obtain ⟨counter, _, rfl⟩ := Option.map_eq_some_iff.mp there
        cases unset
      · obtain ⟨counter, _, rfl⟩ := Option.map_eq_some_iff.mp there
        obtain rfl := Option.some.inj set
        exact Nat.le_refl _

/-- An idle key has expired. -/
theorem Closing.absent (closing : Closing windowSeconds state)
    (idle : IsIdle windowSeconds state) : state.live? = none := by
  obtain ⟨closed, late⟩ := idle
  cases there : state.counter with
  | none => simp [State.live?, there]
  | some counter =>
      cases set : counter.expiresAt with
      | none =>
          obtain ⟨call, opened⟩ := closing.owed counter there set
          rw [closed call] at opened
          cases opened
      | some expiresAt =>
          have due := closing.timed counter expiresAt there set
          have gone : ¬state.now < expiresAt := by omega
          simp [State.live?, there, Counter.isLive, set, gone]

theorem Sound.grantsNext (sound : Sound limit windowSeconds state) (positive : 0 < limit)
    (absent : state.live? = none) : GrantsNext state := by
  intro call fresh
  have placed := sound.placed call
  generalize at_ : state.calls call = here at placed fresh
  cases placed with
  | fresh =>
      rw [step_absent at_ absent]
      have opened : (State.put { state with
          counter := some ⟨1, none⟩
          granted := 0
          lastCommand := state.now } call (opening limit windowSeconds)).calls call =
            opening limit windowSeconds := by simp [State.put]
      have some_ : 1 ≤ limit := positive
      rw [step_opening opened, resume_done]
      simp [State.put, some_]
  | opening => cases fresh
  | returned granted => cases fresh
  | failed => cases fresh

/-! ## The key of a run that breaks a creating call off -/

/-- The key has no time to live, and no call is going to set one. -/
def Stuck (count : Nat) (state : State) : Prop :=
  state.counter = some ⟨count, none⟩ ∧ ∀ call, (state.calls call).isOpening = false

theorem Stuck.live {count : Nat} (stuck : Stuck count state) :
    state.live? = some ⟨count, none⟩ := by
  simp [State.live?, stuck.1, Counter.isLive]

theorem closed_put {call : Nat} {answer : Call} (closed : answer.isOpening = false)
    (others : ∀ other, (state.calls other).isOpening = true → other = call) (other : Nat) :
    ((state.put call answer).calls other).isOpening = false := by
  by_contra opened
  obtain ⟨different, before⟩ := isOpening_put closed (by simpa using opened)
  exact different (others other before)

theorem Stuck.moved {count : Nat} (stuck : Stuck count state)
    (moved : Moved limit windowSeconds state broken next) : ∃ more, Stuck more next := by
  obtain ⟨there, closed⟩ := stuck
  have nobody : ∀ call other, (state.calls other).isOpening = true → other = call := by
    intro call other opened
    rw [closed other] at opened
    cases opened
  cases moved with
  | still => exact ⟨count, there, closed⟩
  | wait milliseconds => exact ⟨count, there, closed⟩
  | fail call shut => exact ⟨count, there, closed_put rfl (nobody call)⟩
  | drop call opened =>
      rw [closed call] at opened
      cases opened
  | create call absent answered => simp [State.live?, there, Counter.isLive] at absent
  | count call counter live answer granted placed fresh shut granting =>
      have same : state.counter = some counter := (Option.filter_eq_some_iff.mp live).1
      rw [there] at same
      obtain rfl := Option.some.inj same
      exact ⟨count + 1, rfl, closed_put shut (nobody call)⟩
  | close call opened answer granted placed shut granting =>
      rw [closed call] at opened
      cases opened

theorem Sound.stuck (sound : Sound limit windowSeconds state)
    (moved : Moved limit windowSeconds state broken next) (breaks : broken = true) :
    ∃ count, Stuck count next := by
  cases moved with
  | still => cases breaks
  | wait milliseconds => cases breaks
  | fail call closed => cases breaks
  | drop call opened =>
      obtain ⟨count, there, _⟩ := sound.owed call opened
      exact ⟨count, there, closed_put rfl fun other before =>
        sound.single other call before opened⟩
  | create call absent answered =>
      obtain rfl : answered = false := by simpa using breaks
      refine ⟨1, rfl, closed_put rfl fun other before => ?_⟩
      rw [sound.closed_of_absent absent other] at before
      cases before
  | count call counter live answer granted placed fresh closed granting => cases breaks
  | close call opened answer granted placed closed granting => cases breaks

def FreshFrom (limit windowSeconds first : Nat) (state : State) : Prop :=
  ∀ call, first ≤ call →
    state.calls call = .running (acquireGenericRateToken limit windowSeconds)

theorem FreshFrom.moved {first : Nat} (fresh : FreshFrom limit windowSeconds first state)
    (moved : Moved limit windowSeconds state broken next) :
    ∃ later, FreshFrom limit windowSeconds later next := by
  have put : ∀ (state : State) (call : Nat) (answer : Call),
      FreshFrom limit windowSeconds first state →
        ∃ later, FreshFrom limit windowSeconds later (state.put call answer) := by
    intro state call answer fresh
    refine ⟨max first (call + 1), fun other above => ?_⟩
    have different : other ≠ call := by omega
    simpa [State.put, Function.update_of_ne different] using fresh other (by omega)
  cases moved with
  | still => exact ⟨first, fresh⟩
  | wait milliseconds => exact ⟨first, fresh⟩
  | fail call closed => exact put state call .failed fresh
  | drop call opened => exact put state call .failed fresh
  | create call absent answered => exact put _ call _ fresh
  | count call counter live answer granted placed shut closed granting => exact put _ call _ fresh
  | close call opened answer granted placed closed granting => exact put _ call _ fresh

/-- As many calls as asked for, one after another. -/
def inTurn (first : Nat) : Nat → List Action
  | 0 => []
  | calls + 1 => .advance first .answered :: inTurn (first + 1) calls

theorem Stuck.rises {count first : Nat} (stuck : Stuck count state) (positive : 1 ≤ count)
    (fresh : FreshFrom limit windowSeconds first state) (calls : Nat) :
    Runs.Throughout step Unbroken (inTurn first calls) state ∧
      Stuck (count + calls) ((inTurn first calls).foldl step state) ∧
      FreshFrom limit windowSeconds (first + calls)
        ((inTurn first calls).foldl step state) := by
  induction calls generalizing count first state with
  | zero => exact ⟨trivial, stuck, fresh⟩
  | succ calls ih =>
      have run := step_live (fresh first (Nat.le_refl _)) stuck.live positive
      have stuckNext : Stuck (count + 1) (step state (.advance first .answered)) := by
        rw [run]
        refine ⟨rfl, closed_put rfl fun other opened => ?_⟩
        rw [show _ = _ from stuck.2 other] at opened
        cases opened
      have freshNext : FreshFrom limit windowSeconds (first + 1)
          (step state (.advance first .answered)) := by
        intro other above
        have different : other ≠ first := by omega
        rw [run]
        simpa [State.put, Function.update_of_ne different] using fresh other (by omega)
      obtain ⟨whole, stuckLast, freshLast⟩ := ih stuckNext (by omega) freshNext
      rw [show count + (calls + 1) = count + 1 + calls by omega,
        show first + (calls + 1) = first + 1 + calls by omega]
      exact ⟨⟨by simp [Unbroken, breaks], whole⟩, stuckLast, freshLast⟩

end Moves

/-! ## Runs -/

section Runs

variable {limit windowSeconds : Nat}

theorem sound_always (run : List Action) :
    Runs.Always step (Sound limit windowSeconds) run (start limit windowSeconds) :=
  Runs.always_of_keeps (fun _ action sound => sound.moved (moved sound action)) start_sound

theorem closing_always {run : List Action}
    (whole : Runs.Throughout step Unbroken run (start limit windowSeconds)) :
    Runs.Always step
      (fun state => Sound limit windowSeconds state ∧ Closing windowSeconds state) run
      (start limit windowSeconds) := by
  refine Runs.always_of_throughout ?_ ⟨start_sound, start_closing⟩ whole
  intro state action ⟨sound, closing⟩ unbroken
  have moves := moved sound action
  exact ⟨sound.moved moves, closing.moved sound moves unbroken⟩

theorem fresh_after (run : List Action) {state : State} {first : Nat}
    (sound : Sound limit windowSeconds state)
    (fresh : FreshFrom limit windowSeconds first state) :
    ∃ later, FreshFrom limit windowSeconds later (run.foldl step state) := by
  induction run generalizing state first with
  | nil => exact ⟨first, fresh⟩
  | cons action rest ih =>
      obtain ⟨later, freshNext⟩ := fresh.moved (moved sound action)
      exact ih (sound.moved (moved sound action)) freshNext

theorem stuck_after (run : List Action) {state : State} (sound : Sound limit windowSeconds state)
    (broken : (∃ count, Stuck count state) ∨ ¬Runs.Throughout step Unbroken run state) :
    ∃ count, Stuck count (run.foldl step state) := by
  induction run generalizing state with
  | nil => exact broken.resolve_right fun never => never trivial
  | cons action rest ih =>
      have moves := moved sound action
      refine ih (sound.moved moves) ?_
      rcases broken with ⟨count, stuck⟩ | broken
      · exact .inl (stuck.moved moves)
      · by_cases here : breaks state action = true
        · exact .inl (sound.stuck moves here)
        · exact .inr fun whole => broken ⟨by simpa [Unbroken] using here, whole⟩

/-- From a stuck key, calls that fail in nothing lead to one that is refused for ever. -/
theorem Stuck.refuses {state : State} {count first : Nat} (stuck : Stuck count state)
    (sound : Sound limit windowSeconds state)
    (fresh : FreshFrom limit windowSeconds first state) :
    ∃ later, Runs.Throughout step Unbroken later state ∧
      ¬Recovered windowSeconds (later.foldl step state) := by
  have positive : 1 ≤ count := sound.positive ⟨count, none⟩ stuck.1
  obtain ⟨whole, stuckLast, freshLast⟩ := stuck.rises positive fresh limit
  have past : Sound limit windowSeconds ((inTurn first limit).foldl step state) :=
    (Runs.always_of_keeps (fun _ action sound => sound.moved (RateTokens.moved sound action))
      sound).last
  generalize reached : (inTurn first limit).foldl step state = last at *
  refine ⟨inTurn first limit ++ [.wait (1000 * windowSeconds)],
    Runs.throughout_append.mpr ⟨whole, by simp [Runs.Throughout, Unbroken, breaks]⟩, ?_⟩
  rw [List.foldl_append, reached]
  intro recovered
  have idle : IsIdle windowSeconds (step last (.wait (1000 * windowSeconds))) :=
    ⟨stuckLast.2, Nat.add_le_add_right past.past _⟩
  have stuckThen : Stuck (count + limit) (step last (.wait (1000 * windowSeconds))) := stuckLast
  have freshThen : (step last (.wait (1000 * windowSeconds))).calls (first + limit) =
      .running (acquireGenericRateToken limit windowSeconds) := freshLast _ (Nat.le_refl _)
  have granted := recovered idle (first + limit) (by
    change ((step last (.wait (1000 * windowSeconds))).calls (first + limit)).isFresh = true
    rw [freshThen]
    rfl)
  have beyond : ¬count + limit + 1 ≤ limit := by omega
  change (step (step (step last (.wait (1000 * windowSeconds))) _) _).calls _ = _ at granted
  rw [step_live freshThen stuckThen.live (by simp only; omega)] at granted
  simp [step, State.put, beyond] at granted

/-- Never are more calls granted than the limit while a key lasts; and the limiter always
recovers, now and after whatever unbroken run may follow, exactly if no call that created the
key was broken off before its EXPIRE was carried out. -/
theorem limiter_recovers_iff (positive : 0 < limit) (run : List Action) :
    Runs.Always step (fun state => state.granted ≤ limit) run (start limit windowSeconds) ∧
      (Runs.Throughout step Unbroken run (start limit windowSeconds) ↔
        ∀ later, Runs.Throughout step Unbroken later
            (run.foldl step (start limit windowSeconds)) →
          Runs.Always step (Recovered windowSeconds) (run ++ later)
            (start limit windowSeconds)) := by
  have sound : Runs.Always step (Sound limit windowSeconds) run (start limit windowSeconds) :=
    sound_always run
  refine ⟨sound.mono fun state sound => sound.bounded, ?_, ?_⟩
  · intro whole later after
    refine (closing_always (Runs.throughout_append.mpr ⟨whole, after⟩)).mono ?_
    intro state ⟨sound, closing⟩ idle
    exact sound.grantsNext positive (closing.absent idle)
  · intro recovers
    by_contra broken
    obtain ⟨count, stuck⟩ := stuck_after run start_sound (.inr broken)
    obtain ⟨first, fresh⟩ := fresh_after run start_sound
      (fun call _ => rfl : FreshFrom limit windowSeconds 0 (start limit windowSeconds))
    obtain ⟨later, whole, refused⟩ := stuck.refuses sound.last fresh
    have last := (recovers later whole).last
    rw [List.foldl_append] at last
    exact refused last

def sampleCrash : List Action :=
  [.advance 0 .answered, .crash 0, .advance 1 .answered, .advance 2 .answered, .wait 3600000]

theorem crash_refuses_for_ever :
    ¬Runs.Always step (Recovered 3600) sampleCrash (start 3 3600) := by
  intro always
  have idle : IsIdle 3600 (sampleCrash.foldl step (start 3 3600)) := by
    refine ⟨fun call => ?_, by decide⟩
    rcases call with _ | _ | _ | call <;> rfl
  have granted := always.last idle 3 (by decide)
  have refused : (step (step (sampleCrash.foldl step (start 3 3600)) (.advance 3 .answered))
      (.advance 3 .answered)).calls 3 = .returned false := rfl
  rw [refused] at granted
  cases granted

theorem limiter_recovers_iff_sample :
    Runs.Always step (Recovered 3600) ([.advance 0 .answered, .advance 0 .answered] ++ [])
      (start 3 3600) :=
  (limiter_recovers_iff (by decide) [.advance 0 .answered, .advance 0 .answered]).2.mp
    (by decide) [] trivial

end Runs

end RateTokens

end MultiBrandInvoicing
