import Mathlib.Algebra.Order.Round
import Mathlib.Data.Rat.Floor
import MultiBrandInvoicing.Arithmetic.HalfAway

/-!
# The nearest integer to a rational

Two rules for exact halves.  Mathlib's `round` sends them up, `HalfAway.nearest` away from
zero; what is within less than a half of an integer is rounded to it by both.
-/

set_option autoImplicit false

namespace HalfAway

/-- The integer nearest to `x`; an exact half goes away from zero. -/
def nearest (x : ℚ) : ℤ := if 0 ≤ x then round x else -round (-x)

theorem nearest_neg (x : ℚ) : nearest (-x) = -nearest x := by
  rcases lt_trichotomy x 0 with negative | zero | positive
  · have flipped : 0 ≤ -x := by linarith
    simp [nearest, flipped, not_le.mpr negative]
  · simp [nearest, zero]
  · have flipped : ¬0 ≤ -x := by linarith
    simp [nearest, flipped, positive.le]

theorem nearest_intCast (n : ℤ) : nearest n = n := by
  unfold nearest
  split
  · exact round_intCast n
  · rw [← Int.cast_neg, round_intCast, neg_neg]

theorem round_of_near {x : ℚ} {n : ℤ} (near : |x - n| < 1 / 2) : round x = n := by
  obtain ⟨low, high⟩ := abs_lt.mp near
  exact round_eq_iff.mpr ⟨by linarith, by linarith⟩

theorem nearest_of_near {x : ℚ} {n : ℤ} (near : |x - n| < 1 / 2) : nearest x = n := by
  unfold nearest
  split
  · exact round_of_near near
  · have flipped : |-x - ((-n : ℤ) : ℚ)| < 1 / 2 := by
      rw [Int.cast_neg, ← neg_sub', abs_neg, sub_eq_add_neg]
      simpa [sub_eq_add_neg] using near
    rw [round_of_near flipped, neg_neg]

/-- Dividing integers and rounding is rounding their ratio. -/
theorem nearest_div (n : ℤ) {d : ℤ} (positive : 0 < d) : nearest (n / d) = quotient n d := by
  have nonneg : ∀ m : ℤ, 0 ≤ m → nearest (m / d) = quotient m d := by
    intro m above
    have ratio : (0 : ℚ) ≤ m / d := by positivity
    have halves : (m : ℚ) / d + 1 / 2 = ((m * 2 + d : ℤ) : ℚ) / ((d * 2).toNat : ℚ) := by
      have nonzero : (d : ℚ) ≠ 0 := by positivity
      have size : (((d * 2).toNat : ℤ) : ℚ) = d * 2 := by
        rw [Int.toNat_of_nonneg (by omega)]
        push_cast
        rfl
      rw [← Int.cast_natCast, size]
      push_cast
      field_simp
    rw [nearest, if_pos ratio, quotient_of_nonneg positive above, round_eq, halves,
      Rat.floor_intCast_div_natCast, Int.toNat_of_nonneg (by omega)]
  rcases le_total 0 n with above | below
  · exact nonneg n above
  · have flipped := nonneg (-n) (by omega)
    rw [quotient_neg, Int.cast_neg, neg_div, nearest_neg] at flipped
    omega

end HalfAway
