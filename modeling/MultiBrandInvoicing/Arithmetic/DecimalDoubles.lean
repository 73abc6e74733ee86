import MultiBrandInvoicing.Arithmetic.Doubles

/-!
# Decimals as doubles

A decimal of a fixed number of places is a whole number of units of the last one.  Below `2 ^ 52`
units no two of them become the same double; up to `2 ^ 50` units the double that is scaled up
again is nearest to them.
-/

set_option autoImplicit false

namespace Doubles

theorem roundEven_of_near {x : ℚ} {n : ℤ} (near : |x - n| < 1 / 2) : roundEven x = n := by
  have rounded := abs_roundEven_sub_le x
  have apart : |(roundEven x : ℚ) - n| < 1 := by
    refine (abs_sub_le _ x _).trans_lt ?_
    linarith
  have whole : |roundEven x - n| < 1 := by exact_mod_cast apart
  exact sub_eq_zero.mp (Int.abs_lt_one_iff.mp whole)

section Places

variable {places : ℕ}

theorem eq_of_nearest_eq {first second : ℤ} (small : first.natAbs < 2 ^ 52)
    (same : nearest (first / 10 ^ places) = nearest (second / 10 ^ places)) : first = second := by
  have scale : (0 : ℚ) < 10 ^ places := by positivity
  have one := abs_nearest_sub_le_div ((first : ℚ) / 10 ^ places)
  have other := abs_nearest_sub_le_div ((second : ℚ) / 10 ^ places)
  rw [← same] at other
  have apart : |(first : ℚ) / 10 ^ places - second / 10 ^ places| ≤
      |(first : ℚ) / 10 ^ places| / 2 ^ 53 + |(second : ℚ) / 10 ^ places| / 2 ^ 53 := by
    rw [abs_sub_comm] at one
    exact (abs_sub_le _ _ _).trans (add_le_add one other)
  rw [← sub_div, abs_div, abs_div, abs_div, abs_of_pos scale, div_right_comm,
    div_right_comm |(second : ℚ)|, ← add_div, div_le_div_iff_of_pos_right scale, ← add_div,
    le_div_iff₀ (by norm_num), ← Int.cast_sub, ← Int.cast_abs, ← Int.cast_abs,
    ← Int.cast_abs] at apart
  have bound : |first - second| * 2 ^ 53 ≤ |first| + |second| := by exact_mod_cast apart
  simp only [Int.abs_eq_natAbs] at bound
  omega

theorem abs_scaled_sub_le {minor : ℤ} (small : minor.natAbs ≤ 2 ^ 50) (places : ℕ) :
    |nearest (minor / 10 ^ places) * 10 ^ places - minor| ≤ 1 / 8 := by
  have scale : (0 : ℚ) < 10 ^ places := by positivity
  have error := abs_nearest_sub_le_div ((minor : ℚ) / 10 ^ places)
  have scaled := mul_le_mul_of_nonneg_right error scale.le
  rw [abs_div, abs_of_pos scale, div_right_comm, div_mul_cancel₀ _ scale.ne'] at scaled
  have apart : nearest (minor / 10 ^ places) * 10 ^ places - minor =
      (nearest (minor / 10 ^ places) - minor / 10 ^ places) * 10 ^ places := by
    rw [sub_mul, div_mul_cancel₀ _ scale.ne']
  have size : |(minor : ℚ)| ≤ 2 ^ 50 := by
    rw [← Int.cast_abs, Int.abs_eq_natAbs]
    exact_mod_cast small
  rw [apart, abs_mul, abs_of_pos scale]
  have share : |(minor : ℚ)| / 2 ^ 53 ≤ 1 / 8 := by
    rw [div_le_iff₀ (by norm_num)]
    linarith
  exact scaled.trans share

/-- Scaled up again, the double is nearest to its units. -/
theorem abs_nearest_scaled_sub_lt {minor : ℤ} (small : minor.natAbs ≤ 2 ^ 50) (places : ℕ) :
    |nearest (nearest (minor / 10 ^ places) * 10 ^ places) - minor| < 1 / 2 := by
  have near := abs_scaled_sub_le small places
  have error := abs_nearest_sub_le_div (nearest (minor / 10 ^ places) * 10 ^ places)
  have size : |(minor : ℚ)| ≤ 2 ^ 50 := by
    rw [← Int.cast_abs, Int.abs_eq_natAbs]
    exact_mod_cast small
  have bound := abs_sub_abs_le_abs_sub (nearest (minor / 10 ^ places) * 10 ^ places) minor
  have share : |nearest (minor / 10 ^ places) * 10 ^ places| / 2 ^ 53 ≤ 1 / 4 := by
    rw [div_le_iff₀ (by norm_num)]
    linarith
  refine (abs_sub_le _ (nearest (minor / 10 ^ places) * 10 ^ places) _).trans_lt ?_
  linarith

end Places

end Doubles
