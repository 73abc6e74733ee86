import Mathlib.Data.List.Basic

/-!
# The differences of two records

What a comparison records of two records with the same columns: the columns whose values it does
not take for the same, with both values.  It is exact at a column as far as it takes for the same
what has the same content.
-/

set_option autoImplicit false

namespace Records

variable {κ ν γ : Type} (same : κ → ν → ν → Bool)

def differences (columns : List κ) (before after : κ → ν) : List (κ × ν × ν) :=
  (columns.filter fun column => !same column (before column) (after column)).map fun column =>
    (column, before column, after column)

theorem mem_differences {columns : List κ} {before after : κ → ν} {column : κ} :
    column ∈ (differences same columns before after).map Prod.fst ↔
      column ∈ columns ∧ same column (before column) (after column) = false := by
  rw [differences, List.map_map, List.mem_map]
  constructor
  · intro ⟨other, member, equal⟩
    cases equal
    simpa using member
  · intro ⟨listed, other⟩
    exact ⟨column, by simp [listed, other], rfl⟩

def ExactAt (content : ν → γ) (before after : κ → ν) (keys : List κ) (column : κ) : Prop :=
  column ∈ keys ↔ content (before column) ≠ content (after column)

end Records
