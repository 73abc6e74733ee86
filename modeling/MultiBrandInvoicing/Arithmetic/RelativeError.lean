import MultiBrandInvoicing.Arithmetic.Doubles

/-!
# Relative errors

How far a value that was computed in doubles may be from the exact one, as a share of it.  A
rounding adds `2 ^ (-53)` to the share, a product adds the shares of its factors.
-/

set_option autoImplicit false

namespace Doubles

/-- The computed value is off by at most a share of the exact one. -/
def Within (share computed exact_ : ℚ) : Prop := |computed - exact_| ≤ share * |exact_|

namespace Within

variable {share other x y a b : ℚ}

theorem refl (x : ℚ) : Within 0 x x := by simp [Within]

theorem mono (le : share ≤ other) (within : Within share x a) : Within other x a :=
  within.trans (mul_le_mul_of_nonneg_right le (abs_nonneg a))

theorem mul (first : Within share x a) (second : Within other y b) :
    Within (share + other + share * other) (x * y) (a * b) := by
  unfold Within at *
  have split_ : x * y - a * b = (x - a) * b + a * (y - b) + (x - a) * (y - b) := by ring
  have cross := mul_le_mul first second (abs_nonneg _)
    ((abs_nonneg _).trans first)
  calc |x * y - a * b| ≤ |x - a| * |b| + |a| * |y - b| + |x - a| * |y - b| := by
        rw [split_, ← abs_mul, ← abs_mul, ← abs_mul]
        exact (abs_add_le _ _).trans (by gcongr; exact abs_add_le _ _)
    _ ≤ share * |a| * |b| + |a| * (other * |b|) + share * |a| * (other * |b|) := by gcongr
    _ = (share + other + share * other) * |a * b| := by
        rw [abs_mul]
        ring

theorem nearest (within : Within share x a) :
    Within (share + 1 / 2 ^ 53 + share * (1 / 2 ^ 53)) (Doubles.nearest x) a := by
  have rounded := abs_nearest_sub_le_div x
  unfold Within at *
  have size : |x| ≤ |a| + share * |a| := by
    have apart := abs_sub_abs_le_abs_sub x a
    linarith
  calc |Doubles.nearest x - a| ≤ |Doubles.nearest x - x| + |x - a| := abs_sub_le _ _ _
    _ ≤ (|a| + share * |a|) / 2 ^ 53 + share * |a| := by gcongr; exact rounded.trans (by gcongr)
    _ = (share + 1 / 2 ^ 53 + share * (1 / 2 ^ 53)) * |a| := by ring

/-- A value that is nearer to an integer than a half by more than the error is nearest to it. -/
theorem near (within : Within share x a) {n : ℤ} (clear : |a - n| + share * |a| < 1 / 2) :
    |x - n| < 1 / 2 := by
  refine (abs_sub_le x a n).trans_lt ?_
  unfold Within at within
  linarith

end Within

end Doubles
