/-!
# Runs of a deterministic machine

A machine takes one action after another.  `Always` speaks of every state a run passes
through, its first and its last included; `Throughout` speaks of every action together
with the state it is taken in.  The rules carry a fact about one step to whole runs.
-/

set_option autoImplicit false

namespace Runs

variable {σ α : Type} (step : σ → α → σ)

def Always (P : σ → Prop) : List α → σ → Prop
  | [], state => P state
  | action :: rest, state => P state ∧ Always P rest (step state action)

def Throughout (C : σ → α → Prop) : List α → σ → Prop
  | [], _ => True
  | action :: rest, state => C state action ∧ Throughout C rest (step state action)

def visited : List α → σ → List σ
  | [], state => [state]
  | action :: rest, state => state :: visited rest (step state action)

instance decidableThroughout (C : σ → α → Prop) [∀ state action, Decidable (C state action)] :
    ∀ actions state, Decidable (Throughout step C actions state)
  | [], _ => .isTrue trivial
  | action :: rest, state =>
      have := decidableThroughout C rest (step state action)
      inferInstanceAs (Decidable (C state action ∧ Throughout step C rest (step state action)))

variable {step} {P Q : σ → Prop} {C D : σ → α → Prop}

theorem Always.first {actions : List α} {state : σ} (always : Always step P actions state) :
    P state := by
  cases actions with
  | nil => exact always
  | cons action rest => exact always.1

theorem always_iff_visited {actions : List α} {state : σ} :
    Always step P actions state ↔ ∀ seen ∈ visited step actions state, P seen := by
  induction actions generalizing state with
  | nil => simp [Always, visited]
  | cons action rest ih => simp [Always, visited, ih]

theorem Always.last {actions : List α} {state : σ} (always : Always step P actions state) :
    P (actions.foldl step state) := by
  induction actions generalizing state with
  | nil => exact always
  | cons action rest ih => exact ih always.2

theorem Always.mono (implied : ∀ state, P state → Q state) {actions : List α} {state : σ}
    (always : Always step P actions state) : Always step Q actions state := by
  induction actions generalizing state with
  | nil => exact implied state always
  | cons action rest ih => exact ⟨implied state always.1, ih always.2⟩

theorem Always.and {actions : List α} {state : σ} (first : Always step P actions state)
    (second : Always step Q actions state) :
    Always step (fun state => P state ∧ Q state) actions state := by
  induction actions generalizing state with
  | nil => exact ⟨first, second⟩
  | cons action rest ih => exact ⟨⟨first.1, second.1⟩, ih first.2 second.2⟩

theorem Throughout.mono (implied : ∀ state action, C state action → D state action)
    {actions : List α} {state : σ} (throughout : Throughout step C actions state) :
    Throughout step D actions state := by
  induction actions generalizing state with
  | nil => trivial
  | cons action rest ih => exact ⟨implied state action throughout.1, ih throughout.2⟩

theorem Throughout.and {actions : List α} {state : σ} (first : Throughout step C actions state)
    (second : Throughout step D actions state) :
    Throughout step (fun state action => C state action ∧ D state action) actions state := by
  induction actions generalizing state with
  | nil => trivial
  | cons action rest ih => exact ⟨⟨first.1, second.1⟩, ih first.2 second.2⟩

theorem Throughout.at_end {actions : List α} {last : α} {state : σ}
    (throughout : Throughout step C (actions ++ [last]) state) :
    C (actions.foldl step state) last := by
  induction actions generalizing state with
  | nil => exact throughout.1
  | cons action rest ih => exact ih throughout.2

theorem throughout_append {earlier later : List α} {state : σ} :
    Throughout step C (earlier ++ later) state ↔
      Throughout step C earlier state ∧ Throughout step C later (earlier.foldl step state) := by
  induction earlier generalizing state with
  | nil => simp [Throughout]
  | cons action rest ih => simp [Throughout, ih, and_assoc]

theorem Always.throughout {actions : List α} {state : σ} (always : Always step P actions state) :
    Throughout step (fun state _ => P state) actions state := by
  induction actions generalizing state with
  | nil => trivial
  | cons action rest ih => exact ⟨always.1, ih always.2⟩

theorem always_of_keeps (keeps : ∀ state action, P state → P (step state action))
    {actions : List α} {state : σ} (holds : P state) : Always step P actions state := by
  induction actions generalizing state with
  | nil => exact holds
  | cons action rest ih => exact ⟨holds, ih (keeps state action holds)⟩

/-- What every step that meets the condition keeps, holds all along a run that meets it. -/
theorem always_of_throughout
    (keeps : ∀ state action, P state → C state action → P (step state action))
    {actions : List α} {state : σ} (holds : P state)
    (meets : Throughout step C actions state) : Always step P actions state := by
  induction actions generalizing state with
  | nil => exact holds
  | cons action rest ih => exact ⟨holds, ih (keeps state action holds meets.1) meets.2⟩

/-- Where one step keeps the property exactly if it meets the condition, so does a run. -/
theorem always_iff_throughout (Inv : σ → Prop)
    (keeps : ∀ state action, Inv state → Inv (step state action))
    (decides : ∀ state action, Inv state → P state → (P (step state action) ↔ C state action))
    {actions : List α} {state : σ} (invariant : Inv state) (holds : P state) :
    Always step P actions state ↔ Throughout step C actions state := by
  induction actions generalizing state with
  | nil => exact ⟨fun _ => trivial, fun _ => holds⟩
  | cons action rest ih =>
      have one := decides state action invariant holds
      constructor
      · rintro ⟨_, later⟩
        have meets := one.mp later.first
        exact ⟨meets, (ih (keeps state action invariant) (one.mpr meets)).mp later⟩
      · rintro ⟨meets, later⟩
        exact ⟨holds, (ih (keeps state action invariant) (one.mpr meets)).mpr later⟩

end Runs
