import Mathlib.Algebra.Order.Round
import MultiBrandInvoicing.Arithmetic.Doubles
import MultiBrandInvoicing.Money.Minor

/-!
# Adding and subtracting amounts as the language does

An amount the services work with is a number of the language, a double; a `BigInt` column is made
one by `Number`.  Its `+` and `-` round the exact result and refuse nothing.  On safe integers all
three are exact.
-/

set_option autoImplicit false

namespace MultiBrandInvoicing

def toNumber (value : Int) : Int := Doubles.round value

def addNumbers (first second : Int) : Int := Doubles.round (first + second)

def subtractNumbers (first second : Int) : Int := Doubles.round (first - second)

/-- The whole numbers of the language. -/
def IsDouble (value : Int) : Prop := toNumber value = value

instance (value : Int) : Decidable (IsDouble value) :=
  inferInstanceAs (Decidable (toNumber value = value))

/-! ## Safe integers are exact -/

theorem isSafeInteger_iff {value : Int} : isSafeInteger value = true ↔ value.natAbs < 2 ^ 53 := by
  have bounds : isSafeInteger value = true ↔ -maxSafeInteger ≤ value ∧ value ≤ maxSafeInteger := by
    simp [isSafeInteger]
  rw [bounds, maxSafeInteger]
  omega

/-- Rounding to a double neither changes a safe integer nor makes one. -/
theorem isSafeInteger_round (value : Int) :
    isSafeInteger (Doubles.round value) = isSafeInteger value := by
  rw [Bool.eq_iff_iff, isSafeInteger_iff, isSafeInteger_iff]
  rcases lt_or_ge value.natAbs (2 ^ 53) with small | large
  · rw [Doubles.round_of_natAbs_le small.le]
  · have kept := Doubles.le_natAbs_round large
    omega

theorem round_of_isSafeInteger {value : Int} (safe : isSafeInteger value = true) :
    Doubles.round value = value :=
  Doubles.round_of_natAbs_le (isSafeInteger_iff.mp safe).le

@[simp] theorem isSafeInteger_toNumber (value : Int) :
    isSafeInteger (toNumber value) = isSafeInteger value :=
  isSafeInteger_round value

theorem toNumber_of_safe {value : Int} (safe : isSafeInteger value = true) :
    toNumber value = value :=
  round_of_isSafeInteger safe

theorem isDouble_of_safe {value : Int} (safe : isSafeInteger value = true) : IsDouble value :=
  round_of_isSafeInteger safe

theorem isDouble_toNumber (value : Int) : IsDouble (toNumber value) := Doubles.round_round value

theorem isDouble_addNumbers (first second : Int) : IsDouble (addNumbers first second) :=
  Doubles.round_round _

theorem isDouble_subtractNumbers (first second : Int) : IsDouble (subtractNumbers first second) :=
  Doubles.round_round _

theorem isDouble_round_nearest (x : ℚ) : IsDouble (round (Doubles.nearest x)) := by
  rcases le_or_gt (2 ^ 52) |x| with large | small
  · obtain ⟨n, whole⟩ := Doubles.exists_intCast_nearest large
    have kept : Doubles.nearest n = n := by rw [← whole, Doubles.nearest_nearest]
    rw [← Doubles.round_cast] at kept
    rw [whole, round_intCast]
    exact_mod_cast kept
  · obtain ⟨low, high⟩ := abs_le.mp (Doubles.abs_nearest_sub_le_div x)
    obtain ⟨least, most⟩ := abs_lt.mp small
    have share : |x| / 2 ^ 53 ≤ 1 := by
      rw [div_le_iff₀ (by norm_num)]
      linarith
    obtain ⟨nearBelow, nearAbove⟩ := abs_le.mp (abs_sub_round (Doubles.nearest x))
    have above : (round (Doubles.nearest x) : ℚ) ≤ ((2 ^ 53 : ℤ) : ℚ) := by
      push_cast
      linarith
    have below : ((-2 ^ 53 : ℤ) : ℚ) ≤ round (Doubles.nearest x) := by
      push_cast
      linarith
    have upper : round (Doubles.nearest x) ≤ 2 ^ 53 := by exact_mod_cast above
    have lower : -2 ^ 53 ≤ round (Doubles.nearest x) := by exact_mod_cast below
    exact Doubles.round_of_natAbs_le (by omega)

/-- A sum is exact where it is a number of the language. -/
theorem addNumbers_eq_iff {first second : Int} :
    addNumbers first second = first + second ↔ IsDouble (first + second) := Iff.rfl

theorem subtractNumbers_eq_iff {first second : Int} :
    subtractNumbers first second = first - second ↔ IsDouble (first - second) := Iff.rfl

theorem addNumbers_of_safe {first second : Int} (safe : isSafeInteger (first + second) = true) :
    addNumbers first second = first + second :=
  round_of_isSafeInteger safe

theorem subtractNumbers_of_safe {first second : Int}
    (safe : isSafeInteger (first - second) = true) :
    subtractNumbers first second = first - second :=
  round_of_isSafeInteger safe

theorem isSafeInteger_of_between {low value high : Int} (safeLow : isSafeInteger low = true)
    (safeHigh : isSafeInteger high = true) (above : low ≤ value) (below : value ≤ high) :
    isSafeInteger value = true := by
  rw [isSafeInteger_iff] at *
  omega

theorem isSafeInteger_of_le {value limit : Int} (safe : isSafeInteger limit = true)
    (nonneg : 0 ≤ value) (le : value ≤ limit) : isSafeInteger value = true :=
  isSafeInteger_of_between (show isSafeInteger 0 = true by decide) safe nonneg le

theorem natAbs_sum_le (values : List Int) : values.sum.natAbs ≤ (values.map Int.natAbs).sum := by
  induction values with
  | nil => exact le_rfl
  | cons value rest ih =>
      rw [List.sum_cons, List.map_cons, List.sum_cons]
      omega

theorem foldl_addNumbers {values : List Int} {start : Int}
    (small : start.natAbs + (values.map Int.natAbs).sum ≤ 2 ^ 53) :
    values.foldl addNumbers start = start + values.sum := by
  induction values generalizing start with
  | nil => exact (Int.add_zero start).symm
  | cons value rest ih =>
      rw [List.map_cons, List.sum_cons] at small
      have exact_ : addNumbers start value = start + value :=
        Doubles.round_of_natAbs_le (by omega)
      rw [List.foldl_cons, exact_, ih (by omega), List.sum_cons, Int.add_assoc]

/-! ## Signs and order -/

@[simp] theorem toNumber_zero : toNumber 0 = 0 := rfl

theorem addNumbers_zero {value : Int} (double : IsDouble value) : addNumbers value 0 = value := by
  rw [addNumbers, Int.add_zero]
  exact double

theorem toNumber_mono {small large : Int} (le : small ≤ large) :
    toNumber small ≤ toNumber large :=
  Doubles.round_mono le

@[simp] theorem toNumber_pos {value : Int} : 0 < toNumber value ↔ 0 < value :=
  Doubles.lt_round_iff le_rfl (by decide)

@[simp] theorem toNumber_nonpos {value : Int} : toNumber value ≤ 0 ↔ value ≤ 0 := by
  rw [← not_lt, toNumber_pos, not_lt]

/-- A sum that comes to more than one of its numbers has added something to it. -/
theorem pos_of_lt_addNumbers {first second : Int} (double : IsDouble first)
    (more : first < addNumbers first second) : 0 < second := by
  rw [← double] at more
  have before := Doubles.lt_of_round_lt more
  rw [double] at before
  omega

end MultiBrandInvoicing
