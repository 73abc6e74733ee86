import Mathlib.Tactic.Common

/-!
# Updates of single columns

An update leaves a column as it is or gives it a value.  Written twice it does what it does once.
It can be read back in every row only if it gives a value; else it depends on what was there.
-/

set_option autoImplicit false

namespace Records

inductive Update (α : Type) where
  | undefined
  | value (value : α)
  deriving DecidableEq, Repr

namespace Update

variable {α β : Type}

def write : Update α → α → α
  | undefined, stored => stored
  | value given, _ => given

@[simp] theorem write_undefined (stored : α) : write undefined stored = stored := rfl

@[simp] theorem write_value (given stored : α) : write (value given) stored = given := rfl

/-- `given ?? undefined`. -/
def orUndefined : Option α → Update α
  | none => undefined
  | some given => value given

@[simp] theorem write_write (update : Update α) (stored : α) :
    update.write (update.write stored) = update.write stored := by
  cases update with
  | undefined => rfl
  | value given => rfl

/-- What is given or left undefined reads back as given, or as nothing where nothing was there. -/
theorem read_write_iff (read : Option α → β) (given stored : Option α) :
    read ((orUndefined (given.map some)).write stored) = read given ↔
      given.isSome = true ∨ read stored = read none := by
  cases given with
  | none => simp [orUndefined]
  | some given => simp [orUndefined]

end Update

end Records
