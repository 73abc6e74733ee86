import MultiBrandInvoicing.Faults.Work

/-!
# One piece of work for each item of a list

A batch works on its items one after another and records what came of each.  Every item has fates
of its own.  An item whose work does not return ends the batch, and with it what was recorded.
-/

set_option autoImplicit false

namespace Faults

namespace Work

variable {σ ε α β : Type}

/-! ## Work that is not cut off -/

def Whole (fates : List (Fate ε)) : Prop := ∀ performed, .cut performed ∉ fates

theorem Whole.tail {fate : Fate ε} {fates : List (Fate ε)} (whole : Whole (fate :: fates)) :
    Whole fates :=
  fun performed member => whole performed (List.mem_cons_of_mem _ member)

/-- The work is cut off only where a call of it is. -/
def Survives (work : Work σ ε α) : Prop :=
  ∀ state fates, Whole fates →
    (work state fates).ending ≠ .cut ∧ Whole (work state fates).fates

theorem Survives.pure_ (value : α) : Survives (pure value : Work σ ε α) :=
  fun _ _ whole => ⟨by simp [pure, Work.pure], whole⟩

theorem Survives.throw_ (error : ε) : Survives (throw error : Work σ ε α) :=
  fun _ _ whole => ⟨by simp [throw], whole⟩

theorem Survives.bind_ {work : Work σ ε α} {next : α → Work σ ε β} (survives : Survives work)
    (rest : ∀ value, Survives (next value)) : Survives (work >>= next) := by
  intro state fates whole
  have first := survives state fates whole
  change (Work.bind work next state fates).ending ≠ .cut ∧
    Whole (Work.bind work next state fates).fates
  unfold Work.bind
  revert first
  rcases work state fates with ⟨value | error | _, left, later⟩
  · exact fun first => rest value left later first.2
  · exact fun first => ⟨by simp, first.2⟩
  · exact fun first => absurd rfl first.1

theorem Survives.call_ (act : σ → Except ε (α × σ)) : Survives (call act) := by
  have answered : ∀ state later, Whole later →
      (answer act state later).ending ≠ .cut ∧ Whole (answer act state later).fates := by
    intro state later whole
    unfold answer
    cases act state with
    | error error => exact ⟨by simp, whole⟩
    | ok result => exact ⟨by simp, whole⟩
  intro state fates whole
  cases fates with
  | nil => exact answered state [] whole
  | cons fate later =>
      cases fate with
      | answered => exact answered state later whole.tail
      | failed performed error => exact ⟨by simp [call], whole.tail⟩
      | cut performed => exact absurd (List.mem_cons_self) (whole performed)

theorem Survives.attempt_ {work : Work σ ε α} {handler : ε → Work σ ε α}
    (survives : Survives work) (handled : ∀ error, Survives (handler error)) :
    Survives (attempt work handler) := by
  intro state fates whole
  have first := survives state fates whole
  unfold attempt
  revert first
  rcases work state fates with ⟨value | error | _, left, later⟩
  · exact id
  · exact fun first => handled error left later first.2
  · exact id

theorem Survives.attempt_returned {work : Work σ ε α} (survives : Survives work)
    (handler : ε → α) (state : σ) {fates : List (Fate ε)} (whole : Whole fates) :
    ∃ value left later, attempt work (fun error => pure (handler error)) state fates =
      ⟨.returned value, left, later⟩ := by
  have first := survives state fates whole
  unfold attempt
  revert first
  rcases work state fates with ⟨value | error | _, left, later⟩
  · exact fun _ => ⟨value, left, later, rfl⟩
  · exact fun _ => ⟨handler error, left, later, rfl⟩
  · exact fun first => absurd rfl first.1

/-! ## What holds of composed work -/

/-- What holds of the parts holds of the whole. -/
structure Composes (holds : ∀ {α : Type}, Work σ ε α → Prop) : Prop where
  pure_ : ∀ {α : Type} (value : α), holds (pure value : Work σ ε α)
  throw_ : ∀ {α : Type} (error : ε), holds (throw error : Work σ ε α)
  bind_ : ∀ {α β : Type} {work : Work σ ε α} {next : α → Work σ ε β}, holds work →
    (∀ value, holds (next value)) → holds (work >>= next)
  attempt_ : ∀ {α : Type} {work : Work σ ε α} {handler : ε → Work σ ε α}, holds work →
    (∀ error, holds (handler error)) → holds (attempt work handler)

theorem Survives.composes : Composes fun {α} (work : Work σ ε α) => Survives work where
  pure_ := Survives.pure_
  throw_ := Survives.throw_
  bind_ := Survives.bind_
  attempt_ := Survives.attempt_

theorem Keeps.composes (keeps : σ → Prop) :
    Composes fun {α} (work : Work σ ε α) => Keeps keeps work where
  pure_ := Keeps.pure_
  throw_ := Keeps.throw_
  bind_ := Keeps.bind_
  attempt_ := Keeps.attempt_

end Work

/-! ## Batches -/

section Batches

variable {σ ε ι β ρ : Type}

def batchFrom (work : Nat → ι → Work σ ε β) (record : ρ → ι → β → ρ)
    (fates : Nat → List (Fate ε)) : Nat → List ι → ρ → σ → Ending ε ρ × σ
  | _, [], result, state => (.returned result, state)
  | position, item :: items, result, state =>
      match work position item state (fates position) with
      | ⟨.returned value, state, _⟩ =>
          batchFrom work record fates (position + 1) items (record result item value) state
      | ⟨.threw error, state, _⟩ => (.threw error, state)
      | ⟨.cut, state, _⟩ => (.cut, state)

/-- Every item has been worked on in its turn, with these values. -/
inductive Processed (work : Nat → ι → Work σ ε β) (fates : Nat → List (Fate ε)) :
    Nat → List ι → σ → List β → σ → Prop
  | nil (position : Nat) (state : σ) : Processed work fates position [] state [] state
  | cons {position : Nat} {item : ι} {items : List ι} {state next left : σ} {value : β}
      {values : List β} (later : List (Fate ε))
      (ran : work position item state (fates position) = ⟨.returned value, next, later⟩)
      (rest : Processed work fates (position + 1) items next values left) :
      Processed work fates position (item :: items) state (value :: values) left

variable {work : Nat → ι → Work σ ε β} {record : ρ → ι → β → ρ} {fates : Nat → List (Fate ε)}
  {position : Nat} {items : List ι} {state left : σ} {values : List β}

theorem Processed.length_eq (processed : Processed work fates position items state values left) :
    values.length = items.length := by
  induction processed with
  | nil => rfl
  | cons _ _ _ ih => rw [List.length_cons, List.length_cons, ih]

/-- What every piece of work keeps is kept by the batch. -/
theorem Processed.keeps {holds : σ → Prop}
    (each : ∀ position item, Work.Keeps holds (work position item))
    (processed : Processed work fates position items state values left) (start : holds state) :
    holds left := by
  induction processed with
  | nil => exact start
  | @cons position item items state next left value values later ran rest ih =>
      have kept := (each position item).at_end (fates position) start
      rw [ran] at kept
      exact ih kept

/-- Each value is what the work on its item returned, and the later items come after it. -/
theorem Processed.at_position
    (processed : Processed work fates position items state values left) {ahead : Nat} {item : ι}
    {value : β} (here : items[ahead]? = some item) (came : values[ahead]? = some value) :
    ∃ before next later, work (position + ahead) item before (fates (position + ahead)) =
        ⟨.returned value, next, later⟩ ∧
      ∃ others rest, Processed work fates (position + ahead + 1) others next rest left := by
  induction processed generalizing ahead with
  | nil => simp at here
  | @cons position first items state next left value_ values later ran rest ih =>
      cases ahead with
      | zero =>
          simp only [List.getElem?_cons_zero, Option.some.injEq] at here came
          subst here came
          exact ⟨state, next, later, ran, items, values, rest⟩
      | succ ahead =>
          rw [List.getElem?_cons_succ] at here came
          have found := ih here came
          rwa [Nat.add_assoc, Nat.add_comm 1 ahead] at found

/-- A batch that has processed its items returns what it recorded, nothing lost. -/
theorem batchFrom_of_processed (processed : Processed work fates position items state values left)
    (result : ρ) :
    batchFrom work record fates position items result state =
      (.returned ((items.zip values).foldl (fun result entry =>
        record result entry.1 entry.2) result), left) := by
  induction processed generalizing result with
  | nil => rfl
  | cons later ran rest ih =>
      rw [batchFrom, ran]
      exact ih _

/-- Where each item returns from every state, all are processed. -/
theorem processed_of_returning
    (returning : ∀ ahead < items.length, ∀ item state, ∃ value next later,
      work (position + ahead) item state (fates (position + ahead)) =
        ⟨.returned value, next, later⟩) (state : σ) :
    ∃ values left, Processed work fates position items state values left := by
  induction items generalizing position state with
  | nil => exact ⟨[], state, .nil position state⟩
  | cons item items ih =>
      obtain ⟨value, next, later, ran⟩ := returning 0 (by simp) item state
      have others : ∀ ahead < items.length, ∀ item state, ∃ value next later,
          work (position + 1 + ahead) item state (fates (position + 1 + ahead)) =
            ⟨.returned value, next, later⟩ := by
        intro ahead within item state
        have found := returning (ahead + 1) (by simpa using within) item state
        rwa [Nat.add_comm ahead 1, ← Nat.add_assoc] at found
      obtain ⟨values, left, rest⟩ := ih others next
      exact ⟨value :: values, left, .cons later ran rest⟩

/-- An item that throws from every state loses the whole batch. -/
theorem batchFrom_of_throwing {ahead : Nat} (within : ahead < items.length)
    (throwing : ∀ item state, ∃ error next later,
      work (position + ahead) item state (fates (position + ahead)) = ⟨.threw error, next, later⟩)
    (result : ρ) (state : σ) (recorded : ρ) :
    (batchFrom work record fates position items result state).1 ≠ .returned recorded := by
  induction items generalizing position ahead result state with
  | nil => exact absurd within (Nat.not_lt_zero _)
  | cons item items ih =>
      rw [batchFrom]
      cases ahead with
      | zero =>
          obtain ⟨error, next, later, ran⟩ := throwing item state
          rw [Nat.add_zero] at ran
          rw [ran]
          simp
      | succ ahead =>
          have later : ahead < items.length := by simpa using within
          have others := throwing
          rw [Nat.add_comm ahead 1, ← Nat.add_assoc] at others
          rcases work position item state (fates position) with ⟨value | error | _, next, _⟩
          · exact ih later others _ next
          · simp
          · simp

end Batches

end Faults
