import Mathlib.Data.Int.Notation
import MultiBrandInvoicing.Encodings.CodeUnits

/-!
# JSON values

The values of a JSON text, over any kind of number.  An object keeps its members in order; of two
members of one name the later one counts.
-/

set_option autoImplicit false

namespace Json

open Encodings

variable {ν μ : Type}

inductive Value (ν : Type) where
  | null
  | bool (value : Bool)
  | number (value : ν)
  | string (text : CodeUnits)
  | array (items : List (Value ν))
  | object (members : List (CodeUnits × Value ν))

mutual

def Value.map (f : ν → μ) : Value ν → Value μ
  | .null => .null
  | .bool value => .bool value
  | .number value => .number (f value)
  | .string text => .string text
  | .array items => .array (mapItems f items)
  | .object members => .object (mapMembers f members)

def mapItems (f : ν → μ) : List (Value ν) → List (Value μ)
  | [] => []
  | item :: rest => item.map f :: mapItems f rest

def mapMembers (f : ν → μ) : List (CodeUnits × Value ν) → List (CodeUnits × Value μ)
  | [] => []
  | (key, value) :: rest => (key, value.map f) :: mapMembers f rest

end

def Value.get (key : CodeUnits) : Value ν → Option (Value ν)
  | .object members => (members.reverse.find? fun member => member.1 = key).map Prod.snd
  | _ => none

theorem mapMembers_eq (f : ν → μ) (members : List (CodeUnits × Value ν)) :
    mapMembers f members = members.map fun member => (member.1, member.2.map f) := by
  induction members with
  | nil => rfl
  | cons member rest ih => rw [mapMembers, ih, List.map_cons]

@[simp] theorem Value.get_map (f : ν → μ) (key : CodeUnits) (value : Value ν) :
    (value.map f).get key = (value.get key).map (Value.map f) := by
  cases value with
  | object members =>
    simp only [Value.map, Value.get, mapMembers_eq, ← List.map_reverse, List.find?_map,
      Option.map_map]
    rfl
  | _ => rfl

/-- Induction over a value with what holds of all its parts. -/
@[elab_as_elim]
theorem Value.induction {motive : Value ν → Prop} (null : motive .null)
    (bool : ∀ value, motive (.bool value)) (number : ∀ value, motive (.number value))
    (string : ∀ text, motive (.string text))
    (array : ∀ items, (∀ item ∈ items, motive item) → motive (.array items))
    (object : ∀ members, (∀ member ∈ members, motive member.2) → motive (.object members))
    (value : Value ν) : motive value := by
  refine @Value.rec ν motive (fun items => ∀ item ∈ items, motive item)
    (fun members => ∀ member ∈ members, motive member.2) (fun member => motive member.2)
    null bool number string array object ?_ ?_ ?_ ?_ ?_ value
  · simp
  · intro item rest first others
    exact List.forall_mem_cons.mpr ⟨first, others⟩
  · simp
  · intro member rest first others
    exact List.forall_mem_cons.mpr ⟨first, others⟩
  · intro _ value holds
    exact holds

/-- A number as it is written: its digits without the point, and the power of ten they stand
for. -/
structure Numeral where
  negative : Bool
  mantissa : ℕ
  exponent : ℤ
deriving DecidableEq

end Json
