import Mathlib.Tactic.Common

/-!
# Work that may fail at every call

A piece of work makes one call after another.  A call is answered, or it fails, or the worker is
cut off at it; in the last two cases it may have been carried out all the same.  What befalls the
calls is a list that the work runs through, and calls beyond its end are answered.  `Meets` states
what holds when the work has returned and what holds when it has not.
-/

set_option autoImplicit false

namespace Faults

inductive Fate (ε : Type) where
  | answered
  | failed (performed : Bool) (error : ε)
  | cut (performed : Bool)
  deriving DecidableEq, Repr

inductive Ending (ε α : Type) where
  | returned (value : α)
  | threw (error : ε)
  | cut
  deriving DecidableEq, Repr

/-- The end of the work, the state it leaves and the fates of what is called after it. -/
structure Ran (σ ε α : Type) where
  ending : Ending ε α
  state : σ
  fates : List (Fate ε)
  deriving DecidableEq, Repr

def Work (σ ε α : Type) : Type := σ → List (Fate ε) → Ran σ ε α

namespace Work

variable {σ ε α β : Type}

protected def pure (value : α) : Work σ ε α := fun state fates => ⟨.returned value, state, fates⟩

def throw (error : ε) : Work σ ε α := fun state fates => ⟨.threw error, state, fates⟩

protected def bind (work : Work σ ε α) (next : α → Work σ ε β) : Work σ ε β := fun state fates =>
  match work state fates with
  | ⟨.returned value, state, fates⟩ => next value state fates
  | ⟨.threw error, state, fates⟩ => ⟨.threw error, state, fates⟩
  | ⟨.cut, state, fates⟩ => ⟨.cut, state, fates⟩

instance : Monad (Work σ ε) where
  pure := Work.pure
  bind := Work.bind

/-- The state after a call that may have been carried out; one that is refused changes nothing. -/
def effect (act : σ → Except ε (α × σ)) (performed : Bool) (state : σ) : σ :=
  match performed, act state with
  | true, .ok (_, next) => next
  | _, _ => state

def answer (act : σ → Except ε (α × σ)) (state : σ) (fates : List (Fate ε)) : Ran σ ε α :=
  match act state with
  | .ok (value, next) => ⟨.returned value, next, fates⟩
  | .error error => ⟨.threw error, state, fates⟩

def call (act : σ → Except ε (α × σ)) : Work σ ε α := fun state fates =>
  match fates with
  | [] => answer act state []
  | .answered :: later => answer act state later
  | .failed performed error :: later => ⟨.threw error, effect act performed state, later⟩
  | .cut performed :: later => ⟨.cut, effect act performed state, later⟩

def ask (view : σ → Except ε α) : Work σ ε α := call fun state => (view state).map (·, state)

def touch : Work σ ε Unit := call fun state => .ok ((), state)

/-- `try { … } catch (error) { … }`. -/
def attempt (work : Work σ ε α) (handler : ε → Work σ ε α) : Work σ ε α := fun state fates =>
  match work state fates with
  | ⟨.threw error, state, fates⟩ => handler error state fates
  | ended => ended

/-- `try { … } catch { }`. -/
def guarded (work : Work σ ε Unit) : Work σ ε Unit := attempt work fun _ => pure ()

/-! ## One run -/

section Runs

variable {work : Work σ ε α} {state left : σ} {fates later : List (Fate ε)}

theorem bind_of_returned {value : α} (ran : work state fates = ⟨.returned value, left, later⟩)
    (next : α → Work σ ε β) : (work >>= next) state fates = next value left later := by
  change Work.bind work next state fates = _
  simp only [Work.bind, ran]

theorem bind_of_threw {error : ε} (ran : work state fates = ⟨.threw error, left, later⟩)
    (next : α → Work σ ε β) : (work >>= next) state fates = ⟨.threw error, left, later⟩ := by
  change Work.bind work next state fates = _
  simp only [Work.bind, ran]

theorem bind_of_cut (ran : work state fates = ⟨.cut, left, later⟩) (next : α → Work σ ε β) :
    (work >>= next) state fates = ⟨.cut, left, later⟩ := by
  change Work.bind work next state fates = _
  simp only [Work.bind, ran]

theorem attempt_of_threw {error : ε} (ran : work state fates = ⟨.threw error, left, later⟩)
    (handler : ε → Work σ ε α) : attempt work handler state fates = handler error left later := by
  simp only [attempt, ran]

theorem attempt_of_quiet (quiet : ∀ error, (work state fates).ending ≠ .threw error)
    (handler : ε → Work σ ε α) : attempt work handler state fates = work state fates := by
  unfold attempt
  split
  next error left later ran => exact absurd (congrArg Ran.ending ran) (quiet error)
  next => rfl

def carriedOut : List (Fate ε) → Bool
  | .failed performed _ :: _ => performed
  | .cut performed :: _ => performed
  | _ => true

/-- None of the next `count` calls is the last. -/
def Uncut (count : Nat) (fates : List (Fate ε)) : Prop :=
  ∀ performed, .cut performed ∉ fates.take count

theorem Uncut.tail {count : Nat} (uncut : Uncut (count + 1) fates) : Uncut count fates.tail := by
  intro performed member
  cases fates with
  | nil => simp at member
  | cons fate rest =>
      exact uncut performed (by rw [List.take_succ_cons]; exact List.mem_cons_of_mem _ member)

theorem guarded_call_state (act : σ → Except ε (Unit × σ)) (state : σ) {next : σ}
    (acts : act state = .ok ((), next)) (fates : List (Fate ε)) :
    (guarded (call act) state fates).state = if carriedOut fates then next else state := by
  rcases fates with _ | ⟨_ | ⟨performed, error⟩ | performed, later⟩
  · simp [guarded, attempt, call, answer, acts, carriedOut]
  · simp [guarded, attempt, call, answer, acts, carriedOut]
  · cases performed <;> simp [guarded, attempt, call, effect, acts, carriedOut, pure, Work.pure]
  · cases performed <;> simp [guarded, attempt, call, effect, acts, carriedOut]

theorem guarded_call_returned (act : σ → Except ε (Unit × σ)) (state : σ) {next : σ}
    (acts : act state = .ok ((), next)) {count : Nat} (uncut : Uncut (count + 1) fates) :
    ∃ left, guarded (call act) state fates = ⟨.returned (), left, fates.tail⟩ := by
  rcases fates with _ | ⟨_ | ⟨performed, error⟩ | performed, later⟩
  · exact ⟨next, by simp [guarded, attempt, call, answer, acts]⟩
  · exact ⟨next, by simp [guarded, attempt, call, answer, acts]⟩
  · exact ⟨_, rfl⟩
  · exact absurd (by simp) (uncut performed)

end Runs

/-- From a state with `before`, the work leaves `returns` when it returns and `fails` when it
throws or is cut off. -/
def Meets (before : σ → Prop) (work : Work σ ε α) (returns : α → σ → Prop) (fails : σ → Prop) :
    Prop :=
  ∀ state fates, before state →
    match work state fates with
    | ⟨.returned value, state, _⟩ => returns value state
    | ⟨.threw _, state, _⟩ => fails state
    | ⟨.cut, state, _⟩ => fails state

section Rules

variable {before fails : σ → Prop} {returns : α → σ → Prop} {work : Work σ ε α}

theorem Meets.of_returned (meets : Meets before work returns fails) {state : σ}
    {fates : List (Fate ε)} (start : before state) {value : α}
    (ended : (work state fates).ending = .returned value) :
    returns value (work state fates).state := by
  have met := meets state fates start
  revert met ended
  rcases work state fates with ⟨_ | _ | _, left, later⟩
  · rintro ⟨⟩ met
    exact met
  · exact nofun
  · exact nofun

theorem Meets.at_end {after : σ → Prop} (meets : Meets before work (fun _ => after) after)
    {state : σ} (fates : List (Fate ε)) (start : before state) :
    after (work state fates).state := by
  have met := meets state fates start
  revert met
  rcases work state fates with ⟨_ | _ | _, left, later⟩
  · exact id
  · exact id
  · exact id

theorem Meets.mono {wanted : α → σ → Prop} {excused : σ → Prop}
    (meets : Meets before work returns fails)
    (returned : ∀ value state, returns value state → wanted value state)
    (failed : ∀ state, fails state → excused state) : Meets before work wanted excused := by
  intro state fates start
  have met := meets state fates start
  revert met
  rcases work state fates with ⟨_ | _ | _, left, later⟩
  · exact returned _ _
  · exact failed _
  · exact failed _

theorem Meets.weaken {wanted : σ → Prop} (meets : Meets before work returns fails)
    (stronger : ∀ state, wanted state → before state) : Meets wanted work returns fails :=
  fun state fates start => meets state fates (stronger state start)

theorem Meets.of_known {fact : Prop} (meets : fact → Meets before work returns fails) :
    Meets (fun state => before state ∧ fact) work returns fails :=
  fun state fates ⟨start, known⟩ => meets known state fates start

theorem Meets.and {first second excused : σ → Prop} {wanted : α → σ → Prop}
    (meets : Meets first work returns fails) (others : Meets second work wanted excused) :
    Meets (fun state => first state ∧ second state) work
      (fun value state => returns value state ∧ wanted value state)
      (fun state => fails state ∧ excused state) := by
  intro state fates start
  have met := meets state fates start.1
  have other := others state fates start.2
  revert met other
  rcases work state fates with ⟨_ | _ | _, left, later⟩
  · exact And.intro
  · exact And.intro
  · exact And.intro

theorem Meets.pure_ {value : α} (holds : ∀ state, before state → returns value state) :
    Meets before (pure value : Work σ ε α) returns fails :=
  fun state _ start => holds state start

theorem Meets.throw_ {error : ε} (failed : ∀ state, before state → fails state) :
    Meets before (throw error : Work σ ε α) returns fails :=
  fun state _ start => failed state start

theorem Meets.bind_ {next : α → Work σ ε β} {wanted : β → σ → Prop}
    (meets : Meets before work returns fails)
    (rest : ∀ value, Meets (returns value) (next value) wanted fails) :
    Meets before (work >>= next) wanted fails := by
  intro state fates start
  have met := meets state fates start
  change match Work.bind work next state fates with
    | ⟨.returned value, state, _⟩ => wanted value state
    | ⟨.threw _, state, _⟩ => fails state
    | ⟨.cut, state, _⟩ => fails state
  unfold Work.bind
  revert met
  rcases work state fates with ⟨value | _ | _, left, later⟩
  · exact fun met => rest value left later met
  · exact id
  · exact id

theorem Meets.call_ {act : σ → Except ε (α × σ)} (spared : ∀ state, before state → fails state)
    (performed : ∀ state value next, before state → act state = .ok (value, next) →
      returns value next ∧ fails next) : Meets before (call act) returns fails := by
  have answered : ∀ state later, before state →
      match answer act state later with
      | ⟨.returned value, state, _⟩ => returns value state
      | ⟨.threw _, state, _⟩ => fails state
      | ⟨.cut, state, _⟩ => fails state := by
    intro state later start
    cases came : act state with
    | error error =>
        simp only [answer, came]
        exact spared state start
    | ok result =>
        simp only [answer, came]
        exact (performed state result.1 result.2 start came).1
  have effected : ∀ state done, before state → fails (effect act done state) := by
    intro state done start
    unfold effect
    split
    next value next came => exact (performed state value next start came).2
    next => exact spared state start
  intro state fates start
  rcases fates with _ | ⟨_ | ⟨done, error⟩ | done, later⟩
  · exact answered state [] start
  · exact answered state later start
  · exact effected state done start
  · exact effected state done start

theorem Meets.ask_ {view : σ → Except ε α} (spared : ∀ state, before state → fails state) :
    Meets before (ask view) (fun value state => before state ∧ view state = .ok value) fails := by
  refine Meets.call_ spared fun state value next start answered => ?_
  cases seen : view state with
  | error error =>
      rw [seen] at answered
      cases answered
  | ok found =>
      rw [seen] at answered
      cases answered
      exact ⟨⟨start, seen⟩, spared _ start⟩

theorem Meets.touch_ (spared : ∀ state, before state → fails state) :
    Meets before (touch : Work σ ε Unit) (fun _ => before) fails :=
  Meets.call_ spared fun state _ _ start answered => by
    cases answered
    exact ⟨start, spared state start⟩

theorem Meets.attempt_ {handler : ε → Work σ ε α} {thrown : σ → Prop}
    (meets : Meets before work returns thrown)
    (handled : ∀ error, Meets thrown (handler error) returns fails)
    (left_off : ∀ state, thrown state → fails state) :
    Meets before (attempt work handler) returns fails := by
  intro state fates start
  have met := meets state fates start
  unfold attempt
  revert met
  rcases work state fates with ⟨value | error | _, left, later⟩
  · exact id
  · exact fun met => handled error left later met
  · exact fun met => left_off left met

theorem Meets.guarded_ {task : Work σ ε Unit} (meets : Meets before task (fun _ => before) before)
    (spared : ∀ state, before state → fails state) :
    Meets before (guarded task) (fun _ => before) fails :=
  Meets.attempt_ meets (fun _ => Meets.pure_ fun _ => id) spared

end Rules

/-- What holds of the state goes on holding, however the work ends. -/
def Keeps (holds : σ → Prop) (work : Work σ ε α) : Prop := Meets holds work (fun _ => holds) holds

section Keeping

variable {holds : σ → Prop} {work : Work σ ε α}

theorem Keeps.pure_ (value : α) : Keeps holds (pure value : Work σ ε α) := Meets.pure_ fun _ => id

theorem Keeps.throw_ (error : ε) : Keeps holds (throw error : Work σ ε α) :=
  Meets.throw_ fun _ => id

theorem Keeps.bind_ {next : α → Work σ ε β} (keeps : Keeps holds work)
    (rest : ∀ value, Keeps holds (next value)) : Keeps holds (work >>= next) :=
  Meets.bind_ keeps rest

theorem Keeps.call_ {act : σ → Except ε (α × σ)}
    (performed : ∀ state value next, holds state → act state = .ok (value, next) → holds next) :
    Keeps holds (call act) :=
  Meets.call_ (fun _ => id) fun state value next start answered =>
    ⟨performed state value next start answered, performed state value next start answered⟩

theorem Keeps.ask_ (view : σ → Except ε α) : Keeps holds (ask view) :=
  Meets.mono (Meets.ask_ fun _ => id) (fun _ _ seen => seen.1) fun _ => id

theorem Keeps.touch_ : Keeps holds (touch : Work σ ε Unit) := Meets.touch_ fun _ => id

theorem Keeps.attempt_ {handler : ε → Work σ ε α} (keeps : Keeps holds work)
    (handled : ∀ error, Keeps holds (handler error)) : Keeps holds (attempt work handler) :=
  Meets.attempt_ keeps handled fun _ => id

theorem Keeps.guarded_ {task : Work σ ε Unit} (keeps : Keeps holds task) :
    Keeps holds (guarded task) :=
  Keeps.attempt_ keeps fun _ => Keeps.pure_ ()

end Keeping

end Work

end Faults
