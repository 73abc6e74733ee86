import Mathlib.Tactic.IntervalCases
import MultiBrandInvoicing.Arithmetic.DecimalDoubles
import MultiBrandInvoicing.Json.Numbers

/-!
# Short decimals

The decimal that stands in the text of a double, and when it is the one the double was read from:
a decimal of few places is written as it was, as long as it is below `2 ^ 52` units of its last
place.  No other decimal of as few places is read as the same double.
-/

set_option autoImplicit false

namespace Json

open Doubles

def decimal (value : ℚ) : ℚ :=
  let magnitude : ℚ :=
    if value.den = 1 then NumberText.shortest value.num.natAbs
    else (fractionDigits |value|).1 * 10 ^ (fractionDigits |value|).2
  if value < 0 then -magnitude else magnitude

example : decimal (nearest (1615 / 100)) = 1615 / 100 := by decide +kernel

/-! ## Reading without overflow -/

theorem spacing_of_le {x : ℚ} {k : ℤ} (large : (2 : ℚ) ^ k ≤ |x|) :
    (2 : ℚ) ^ (k - 52) ≤ spacing x := by
  have positive : 0 < |x| := lt_of_lt_of_le (zpow_pos (by norm_num) k) large
  have exponent := (Int.zpow_le_iff_le_log (b := 2) (by norm_num) positive).mp
    (by exact_mod_cast large)
  exact zpow_le_zpow_right₀ (by norm_num) (by omega)

theorem unit_of_le {x : ℚ} (normal : (2 : ℚ) ^ (-1022 : ℤ) ≤ |x|) : unit x = spacing x :=
  max_eq_left (spacing_of_le normal)

theorem nearest_of_double {x value : ℚ} (normal : (2 : ℚ) ^ (-1022 : ℤ) ≤ |x|)
    (read : double x = .finite value) : nearest x = value := by
  simp only [double, unit_of_le normal] at read
  split at read
  · cases read
  · exact JsNumber.finite.inj read

theorem double_of_normal {x : ℚ} (normal : (2 : ℚ) ^ (-1022 : ℤ) ≤ |x|)
    (small : Int.log 2 |nearest x| < 1024) : double x = .finite (nearest x) := by
  have rounded : (roundEven (x / spacing x) : ℚ) * spacing x = nearest x := rfl
  simp only [double, unit_of_le normal, rounded]
  exact if_neg (not_le.mpr small)

theorem double_zero : double 0 = .finite 0 := by decide +kernel

/-! ## Decimals of few places -/

section Places

variable {places : ℕ}

/-- Candidates with falling exponents: none of more places is found before one of fewer. -/
theorem exponent_le_of_find? {candidates : List (ℤ × ℤ)}
    (sorted : candidates.Pairwise fun first second => second.2 ≤ first.2)
    {accepts : ℤ × ℤ → Bool} {found other : ℤ × ℤ} (first : candidates.find? accepts = some found)
    (member : other ∈ candidates) (accepted : accepts other = true) : other.2 ≤ found.2 := by
  obtain ⟨_, before, after, rfl, refused⟩ := List.find?_eq_some_iff_append.mp first
  rcases List.mem_append.mp member with earlier | later
  · simpa [accepted] using refused other earlier
  · rcases List.mem_cons.mp later with rfl | later
    · exact le_rfl
    · exact (List.pairwise_cons.mp (List.pairwise_append.mp sorted).2.1).1 other later

theorem fractionDigits_eq (magnitude : ℚ) : ∃ candidates : List (ℤ × ℤ),
    (candidates.Pairwise fun first second => second.2 ≤ first.2) ∧
    (∀ exponent : ℤ, exponent ≤ Int.log 10 magnitude → Int.log 10 magnitude < exponent + 17 →
      (roundEven (magnitude / 10 ^ exponent), exponent) ∈ candidates) ∧
    fractionDigits magnitude =
      let chosen := (candidates.find? fun candidate =>
        double (candidate.1 * 10 ^ candidate.2) = .finite magnitude).getD (0, 0)
      (chosen.1.toNat, chosen.2) := by
  refine ⟨((List.range 17).map fun count : ℕ => Int.log 10 magnitude - count).flatMap
    fun exponent : ℤ => [(roundEven (magnitude / 10 ^ exponent), exponent),
      (⌊magnitude / 10 ^ exponent⌋, exponent), (⌊magnitude / 10 ^ exponent⌋ + 1, exponent)],
    ?_, ?_, rfl⟩
  · rw [List.pairwise_flatMap, List.pairwise_map]
    refine ⟨fun exponent _ => by simp, List.pairwise_lt_range.imp ?_⟩
    intro first second less
    simp only [List.mem_cons, List.not_mem_nil, or_false]
    rintro one (rfl | rfl | rfl) other (rfl | rfl | rfl) <;> dsimp only <;> omega
  · intro exponent low high
    refine List.mem_flatMap.mpr ⟨exponent, List.mem_map.mpr
      ⟨(Int.log 10 magnitude - exponent).toNat, ?_, ?_⟩, List.mem_cons_self⟩
    · rw [List.mem_range]
      omega
    · rw [Int.toNat_of_nonneg (by omega)]
      omega

theorem place_le_nearest {places : ℕ} (few : places ≤ 4) :
    (10 : ℚ) ^ (-(places : ℤ)) ≤ nearest (1 / 10 ^ places) := by
  rw [zpow_neg, zpow_natCast, ← one_div]
  interval_cases places <;> decide +kernel

theorem normal_of_place_le {x : ℚ} (few : places ≤ 4) (large : (10 : ℚ) ^ (-(places : ℤ)) ≤ |x|) :
    (2 : ℚ) ^ (-1022 : ℤ) ≤ |x| := by
  refine le_trans ?_ large
  have least : (10 : ℚ) ^ (-4 : ℤ) ≤ 10 ^ (-(places : ℤ)) :=
    zpow_le_zpow_right₀ (by norm_num) (by omega)
  have normal : (2 : ℚ) ^ (-1022 : ℤ) ≤ 2 ^ (-14 : ℤ) :=
    zpow_le_zpow_right₀ (by norm_num) (by norm_num)
  exact normal.trans (le_trans (by norm_num) least)

section Few

variable {minor : ℤ} (few : places ≤ 4) (positive : 0 < minor) (small : minor.natAbs ≤ 2 ^ 50)

include few positive in
theorem place_le_nearest_div : (10 : ℚ) ^ (-(places : ℤ)) ≤ nearest (minor / 10 ^ places) := by
  have whole : (1 : ℚ) ≤ minor := by exact_mod_cast positive
  exact (place_le_nearest few).trans
    (monotone_nearest (div_le_div_of_nonneg_right whole (by positivity)))

include few positive in
theorem nearest_div_pos : 0 < nearest (minor / 10 ^ places) :=
  lt_of_lt_of_le (zpow_pos (by norm_num) _) (place_le_nearest_div few positive)

include small in
theorem nearest_div_lt : nearest (minor / 10 ^ places) < 2 ^ 51 / 10 ^ places := by
  have near := abs_scaled_sub_le small places
  have size : (minor : ℚ) ≤ 2 ^ 50 := by exact_mod_cast (show minor ≤ 2 ^ 50 by omega)
  rw [lt_div_iff₀ (by positivity)]
  have high := (abs_le.mp near).2
  linarith

include few positive small in
theorem double_div : double (minor / 10 ^ places) = .finite (nearest (minor / 10 ^ places)) := by
  have larger := nearest_div_pos few positive
  have whole : (1 : ℚ) ≤ minor := by exact_mod_cast positive
  refine double_of_normal (normal_of_place_le few ?_) ?_
  · rw [abs_of_pos (by positivity), zpow_neg, zpow_natCast, ← one_div]
    exact div_le_div_of_nonneg_right whole (by positivity)
  · rw [abs_of_pos larger]
    refine (Int.lt_zpow_iff_log_lt (b := 2) (by norm_num) larger).mp
      ((nearest_div_lt small).trans ?_)
    refine (div_le_self (by norm_num) (one_le_pow₀ (by norm_num))).trans_lt ?_
    have power : (2 : ℚ) ^ (51 : ℤ) < 2 ^ (1024 : ℤ) :=
      zpow_lt_zpow_right₀ (by norm_num) (by norm_num)
    exact_mod_cast power

include few positive small in
theorem last_place_mem : -(places : ℤ) ≤ Int.log 10 (nearest (minor / 10 ^ places)) ∧
    Int.log 10 (nearest (minor / 10 ^ places)) < -(places : ℤ) + 17 ∧
    roundEven (nearest (minor / 10 ^ places) / 10 ^ (-(places : ℤ))) = minor := by
  have larger := nearest_div_pos few positive
  have lowest := place_le_nearest_div few positive
  refine ⟨(Int.zpow_le_iff_le_log (b := 10) (by norm_num) larger).mp (by exact_mod_cast lowest),
    ?_, ?_⟩
  · refine (Int.lt_zpow_iff_log_lt (b := 10) (by norm_num) larger).mp
      ((nearest_div_lt small).trans ?_)
    push_cast
    rw [zpow_add₀ (by norm_num), zpow_neg, zpow_natCast, div_eq_inv_mul]
    exact mul_lt_mul_of_pos_left (by norm_num) (by positivity)
  · rw [zpow_neg, zpow_natCast, div_inv_eq_mul]
    exact roundEven_of_near ((abs_scaled_sub_le small places).trans_lt (by norm_num))

include few positive small in
/-- A decimal of no more places that is read as the same double is the same one. -/
theorem eq_of_double {digits exponent : ℤ} (place : -(places : ℤ) ≤ exponent)
    (read : double (digits * 10 ^ exponent) = .finite (nearest (minor / 10 ^ places))) :
    (digits : ℚ) * 10 ^ exponent = minor / 10 ^ places := by
  have larger := nearest_div_pos few positive
  obtain ⟨shift, shifted⟩ := Int.eq_ofNat_of_zero_le (show 0 ≤ exponent + places by omega)
  have units : (digits : ℚ) * 10 ^ exponent =
      ((digits * 10 ^ shift : ℤ) : ℚ) / 10 ^ places := by
    have split_ : exponent = shift - places := by omega
    rw [split_, zpow_sub₀ (by norm_num), zpow_natCast, zpow_natCast]
    push_cast
    ring
  have nonzero : digits ≠ 0 := by
    intro zero
    rw [zero, Int.cast_zero, zero_mul, double_zero] at read
    exact larger.ne (JsNumber.finite.inj read)
  have large : (10 : ℚ) ^ (-(places : ℤ)) ≤ |(digits : ℚ) * 10 ^ exponent| := by
    rw [abs_mul, abs_of_pos (zpow_pos (show (0 : ℚ) < 10 by norm_num) exponent)]
    have one : (1 : ℚ) ≤ |(digits : ℚ)| := by exact_mod_cast Int.one_le_abs nonzero
    exact (zpow_le_zpow_right₀ (by norm_num) place).trans
      (le_mul_of_one_le_left (zpow_nonneg (by norm_num) _) one)
  have same := nearest_of_double (normal_of_place_le few large) read
  rw [units] at same ⊢
  rw [eq_of_nearest_eq (by omega) same.symm]

include few positive small in
/-- The first candidate that is read as the double is the decimal it was read from. -/
theorem fraction_nearest : ((fractionDigits (nearest (minor / 10 ^ places))).1 : ℚ) *
    10 ^ (fractionDigits (nearest (minor / 10 ^ places))).2 = minor / 10 ^ places := by
  obtain ⟨candidates, sorted, members, digits⟩ :=
    fractionDigits_eq (nearest (minor / 10 ^ places))
  obtain ⟨low, high, digit⟩ := last_place_mem few positive small
  have member := members (-(places : ℤ)) low high
  rw [digit] at member
  have accepted : decide (double (((minor, -(places : ℤ)).1 : ℚ) * 10 ^ (minor, -(places : ℤ)).2) =
      .finite (nearest (minor / 10 ^ places))) = true := by
    rw [decide_eq_true_eq, zpow_neg, zpow_natCast, ← div_eq_mul_inv]
    exact double_div few positive small
  have some_ : (candidates.find? fun candidate => double (candidate.1 * 10 ^ candidate.2) =
      .finite (nearest (minor / 10 ^ places))).isSome = true :=
    List.find?_isSome.mpr ⟨_, member, accepted⟩
  obtain ⟨found, first⟩ := Option.isSome_iff_exists.mp some_
  have read := List.find?_some first
  have value := eq_of_double few positive small
    (exponent_le_of_find? sorted first member accepted) (of_decide_eq_true read)
  have nonneg : 0 ≤ found.1 := by
    by_contra negative
    have below : (found.1 : ℚ) < 0 := by exact_mod_cast not_le.mp negative
    have product := mul_neg_of_neg_of_pos below (zpow_pos (show (0 : ℚ) < 10 by norm_num) found.2)
    have ratio : (0 : ℚ) < minor / 10 ^ places := by positivity
    linarith
  have cast : ((found.1.toNat : ℕ) : ℚ) = found.1 := by
    rw [← Int.cast_natCast, Int.toNat_of_nonneg nonneg]
  rw [digits, first]
  simp only [Option.getD_some]
  rw [cast, value]

include few positive small in
theorem decimal_nearest_of_pos : decimal (nearest (minor / 10 ^ places)) = minor / 10 ^ places := by
  have larger := nearest_div_pos few positive
  unfold decimal
  rw [if_neg (not_lt.mpr larger.le), abs_of_pos larger]
  split
  case isTrue whole =>
    -- A whole double is itself a decimal of these places.
    obtain ⟨n, same⟩ : ∃ n : ℤ, nearest (minor / 10 ^ places) = n :=
      ⟨_, (Rat.coe_int_num_of_den_eq_one whole).symm⟩
    have scale : (10 : ℚ) ^ places ≠ 0 := by positivity
    have again : nearest (((n * 10 ^ places : ℤ) : ℚ) / 10 ^ places) =
        nearest (minor / 10 ^ places) := by
      rw [Int.cast_mul, Int.cast_pow, Int.cast_ofNat, mul_div_cancel_right₀ _ scale, ← same,
        nearest_nearest]
    have minor_eq := eq_of_nearest_eq (by omega) again.symm
    have bound : n.natAbs < 2 ^ 53 := by
      have less : nearest (minor / 10 ^ places) < 2 ^ 51 / 10 ^ places := nearest_div_lt small
      rw [same] at less
      have high := less.trans_le (div_le_self (by norm_num) (one_le_pow₀ (by norm_num)))
      rw [same] at larger
      have above : 0 < n := by exact_mod_cast larger
      have below : n < 2 ^ 51 := by exact_mod_cast high
      omega
    rw [same] at larger ⊢
    have above : 0 < n := by exact_mod_cast larger
    rw [Rat.num_intCast, NumberText.shortest_of_lt bound, minor_eq, Int.cast_mul, Int.cast_pow,
      Int.cast_ofNat, mul_div_cancel_right₀ _ scale, Nat.cast_natAbs, abs_of_pos above]
  case isFalse fraction => exact fraction_nearest few positive small

end Few

theorem decimal_neg (value : ℚ) : decimal (-value) = -decimal value := by
  have magnitude : (if (-value).den = 1 then (NumberText.shortest (-value).num.natAbs : ℚ)
      else (fractionDigits |-value|).1 * 10 ^ (fractionDigits |-value|).2) =
      if value.den = 1 then (NumberText.shortest value.num.natAbs : ℚ)
      else (fractionDigits |value|).1 * 10 ^ (fractionDigits |value|).2 := by
    rw [abs_neg, Rat.neg_den, Rat.neg_num, Int.natAbs_neg]
  unfold decimal
  simp only [magnitude, neg_lt_zero]
  rcases lt_trichotomy value 0 with below | rfl | above
  · rw [if_pos below, if_neg (not_lt.mpr below.le), neg_neg]
  · decide +kernel
  · rw [if_neg (not_lt.mpr above.le), if_pos above]

/-- A decimal of few places is written as it was. -/
theorem decimal_nearest {minor : ℤ} (few : places ≤ 4) (small : minor.natAbs ≤ 2 ^ 50) :
    decimal (nearest (minor / 10 ^ places)) = minor / 10 ^ places := by
  rcases lt_trichotomy minor 0 with below | rfl | above
  · have flipped := decimal_nearest_of_pos few (show 0 < -minor by omega) (by omega)
    rw [Int.cast_neg, neg_div, nearest_neg, decimal_neg] at flipped
    exact neg_inj.mp flipped
  · rw [Int.cast_zero, zero_div, nearest_zero]
    decide +kernel
  · exact decimal_nearest_of_pos few above small

end Places

end Json
