import Mathlib.Algebra.Order.Ring.Int
import Mathlib.Data.Int.Order.Basic
import Mathlib.Tactic.Linarith

/-!
# Integer division rounded half away from zero

`quotient n d` is the integer nearest to `n / d`; an exact half goes away from
zero, so a credit and a charge of the same size round to the same magnitude.  Only
the order facts that money arithmetic needs are developed.
-/

set_option autoImplicit false

namespace HalfAway

/-- The magnitude `|n| / d` is rounded half up and takes the sign of `n`. -/
def quotient (n d : Int) : Int := n.sign * ((|n| * 2 + d) / (d * 2))

theorem quotient_of_nonneg {n d : Int} (positive : 0 < d) (nonneg : 0 ≤ n) :
    quotient n d = (n * 2 + d) / (d * 2) := by
  rcases nonneg.eq_or_lt with zero | positiveNumerator
  · subst zero
    have below : (0 * 2 + d) / (d * 2) = 0 := Int.ediv_eq_zero_of_lt (by omega) (by omega)
    simp only [quotient, Int.sign_zero, Int.zero_mul]
    exact below.symm
  · rw [quotient, abs_of_nonneg nonneg, Int.sign_eq_one_of_pos positiveNumerator, Int.one_mul]

theorem quotient_neg (n d : Int) : quotient (-n) d = -quotient n d := by
  simp [quotient, Int.sign_neg]

/-- A quotient is at most half the divisor away, and further from zero where it is exactly so. -/
theorem quotient_near {n d : Int} (positive : 0 < d) :
    2 * |n - quotient n d * d| ≤ d ∧
      (2 * |n - quotient n d * d| = d → |n| < |quotient n d * d|) := by
  have above : ∀ m : Int, 0 ≤ m → 2 * |m - quotient m d * d| ≤ d ∧
      (2 * |m - quotient m d * d| = d → |m| < |quotient m d * d|) := by
    intro m nonneg
    have parts := Int.mul_ediv_add_emod (m * 2 + d) (d * 2)
    have least := Int.emod_nonneg (m * 2 + d) (by omega : d * 2 ≠ 0)
    have most := Int.emod_lt_of_pos (m * 2 + d) (by omega : 0 < d * 2)
    rw [← quotient_of_nonneg positive nonneg] at parts
    have whole : d * 2 * quotient m d = 2 * (quotient m d * d) := by
      rw [Int.mul_comm, ← Int.mul_assoc, Int.mul_comm]
    rw [whole] at parts
    generalize quotient m d * d = reached at parts
    have sides := abs_cases (m - reached)
    constructor
    · omega
    · intro half
      have past : m < reached := by omega
      rwa [abs_of_nonneg nonneg, abs_of_pos (nonneg.trans_lt past)]
  rcases le_total 0 n with nonneg | nonpos
  · exact above n nonneg
  · have flipped := above (-n) (by omega)
    rw [quotient_neg, Int.neg_mul, abs_neg, abs_neg, neg_sub_neg, abs_sub_comm] at flipped
    exact flipped

theorem quotient_nonneg {n d : Int} (positive : 0 < d) (nonneg : 0 ≤ n) :
    0 ≤ quotient n d := by
  rw [quotient_of_nonneg positive nonneg]
  exact Int.ediv_nonneg (by omega) (by omega)

theorem quotient_nonpos {n d : Int} (positive : 0 < d) (nonpos : n ≤ 0) :
    quotient n d ≤ 0 := by
  have flipped := quotient_nonneg positive (neg_nonneg.mpr nonpos)
  rw [quotient_neg] at flipped
  omega

/-- A numerator below zero is rounded to zero if it is less than half the divisor away. -/
theorem quotient_nonneg_iff {n d : Int} (positive : 0 < d) :
    0 ≤ quotient n d ↔ -d < n * 2 := by
  rcases le_or_gt 0 n with nonneg | negative
  · have above := quotient_nonneg positive nonneg
    omega
  · have flipped := quotient_of_nonneg positive (neg_nonneg.mpr negative.le)
    rw [quotient_neg] at flipped
    have small : (-n * 2 + d) / (d * 2) < 1 ↔ -n * 2 + d < 1 * (d * 2) :=
      Int.ediv_lt_iff_lt_mul (by omega)
    omega

/-- Rounding keeps the order of the numerators, across zero as well. -/
theorem quotient_mono {n m d : Int} (positive : 0 < d) (le : n ≤ m) :
    quotient n d ≤ quotient m d := by
  rcases le_total 0 n with nonneg | nonpos
  · rw [quotient_of_nonneg positive nonneg, quotient_of_nonneg positive (nonneg.trans le)]
    exact Int.ediv_le_ediv (by omega) (by omega)
  · rcases le_total 0 m with above | below
    · exact (quotient_nonpos positive nonpos).trans (quotient_nonneg positive above)
    · have flipped : quotient (-m) d ≤ quotient (-n) d := by
        rw [quotient_of_nonneg positive (by omega), quotient_of_nonneg positive (by omega)]
        exact Int.ediv_le_ediv (by omega) (by omega)
      rw [quotient_neg, quotient_neg] at flipped
      omega

end HalfAway
