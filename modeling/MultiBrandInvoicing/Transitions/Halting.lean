import Mathlib.Computability.StateTransition

/-!
# Machines that come to rest

A machine that answers its next state, or none where it rests.  It comes to rest from a state if
every step leads to one it comes to rest from, and it never does if it can be kept among states
that have a next one.
-/

set_option autoImplicit false

namespace Halting

open StateTransition

variable {σ : Type} {step : σ → Option σ} {state next last : σ}

def RestsAt (step : σ → Option σ) (state last : σ) : Prop :=
  Reaches step state last ∧ step last = none

def Rests (step : σ → Option σ) (state : σ) : Prop := ∃ last, RestsAt step state last

theorem restsAt_self (rests : step state = none) : RestsAt step state state :=
  ⟨.refl, rests⟩

theorem restsAt_of_step (moves : step state = some next) :
    RestsAt step state last ↔ RestsAt step next last := by
  have same := reaches_eval (Relation.ReflTransGen.single (r := fun a b => b ∈ step a) moves)
  rw [RestsAt, RestsAt, ← mem_eval, ← mem_eval, same]

theorem RestsAt.eq {other : σ} (one : RestsAt step state last) (two : RestsAt step state other) :
    last = other :=
  Part.mem_unique (mem_eval.mpr one) (mem_eval.mpr two)

theorem rests_of_step (moves : step state = some next) : Rests step state ↔ Rests step next :=
  exists_congr fun _ => restsAt_of_step moves

theorem rests_of_steps (onward : ∀ next, step state = some next → Rests step next) :
    Rests step state := by
  cases moves : step state with
  | none => exact ⟨state, restsAt_self moves⟩
  | some next => exact (rests_of_step moves).mpr (onward next moves)

theorem not_rests_of_kept {Kept : σ → Prop}
    (kept : ∀ state, Kept state → ∃ next, step state = some next ∧ Kept next)
    (starts : Kept state) : ¬Rests step state := by
  intro ⟨last, reaches, rests⟩
  have stays : Kept last := by
    clear rests
    induction reaches with
    | refl => exact starts
    | tail _ moves ih =>
      obtain ⟨next, same, keeps⟩ := kept _ ih
      have is : next = _ := Option.some.inj (same.symm.trans moves)
      rwa [← is]
  obtain ⟨next, moves, -⟩ := kept last stays
  rw [rests] at moves
  cases moves

end Halting
