import Mathlib.Data.Int.Log
import Mathlib.Data.Nat.Cast.Order.Field
import Mathlib.Data.Rat.Floor
import Mathlib.Tactic.FieldSimp
import Mathlib.Tactic.Linarith
import Mathlib.Tactic.NormNum
import Mathlib.Tactic.Positivity

/-!
# Rounding to double precision

An operation on doubles returns the double nearest to its exact result, and of two that are
equally near the one whose last bit is zero.  Exponents are not bounded here.  Integers up to
`2 ^ 53` are doubles; a quotient of two of them is never rounded up to a whole number.
-/

set_option autoImplicit false

namespace Doubles

/-- The nearest integer, an exact half going to the even one. -/
def roundEven (x : ℚ) : ℤ :=
  if Int.fract x < 1 / 2 then ⌊x⌋
  else if 1 / 2 < Int.fract x then ⌊x⌋ + 1
  else if ⌊x⌋ % 2 = 0 then ⌊x⌋ else ⌊x⌋ + 1

/-- The distance of the doubles between the powers of two around `x`: 53 bits are kept. -/
def spacing (x : ℚ) : ℚ := 2 ^ (Int.log 2 |x| - 52)

def nearest (x : ℚ) : ℚ := roundEven (x / spacing x) * spacing x

example : nearest 9007199254740995 = 9007199254740996 := by decide +kernel

/-! ## Rounding to an integer -/

theorem roundEven_intCast (n : ℤ) : roundEven n = n := by
  simp [roundEven]

theorem roundEven_cases (x : ℚ) :
    roundEven x = ⌊x⌋ ∧ Int.fract x ≤ 1 / 2 ∨ roundEven x = ⌊x⌋ + 1 ∧ 1 / 2 ≤ Int.fract x := by
  unfold roundEven
  split
  case isTrue low => exact .inl ⟨rfl, low.le⟩
  case isFalse notLow =>
    split
    case isTrue high => exact .inr ⟨rfl, high.le⟩
    case isFalse notHigh =>
      split
      · exact .inl ⟨rfl, not_lt.mp notHigh⟩
      · exact .inr ⟨rfl, not_lt.mp notLow⟩

theorem abs_roundEven_sub_le (x : ℚ) : |(roundEven x : ℚ) - x| ≤ 1 / 2 := by
  have apart := Int.floor_add_fract x
  rw [abs_le]
  rcases roundEven_cases x with ⟨down, low⟩ | ⟨up, high⟩
  · rw [down]
    have least := Int.fract_nonneg x
    constructor <;> linarith
  · rw [up]
    push_cast
    have most := Int.fract_lt_one x
    constructor <;> linarith

theorem le_roundEven {x : ℚ} {n : ℤ} (le : (n : ℚ) ≤ x) : n ≤ roundEven x := by
  have below := Int.le_floor.mpr le
  rcases roundEven_cases x with ⟨down, _⟩ | ⟨up, _⟩ <;> omega

theorem roundEven_mono {x y : ℚ} (le : x ≤ y) : roundEven x ≤ roundEven y := by
  have floors : ⌊x⌋ ≤ ⌊y⌋ := Int.floor_le_floor le
  rcases floors.eq_or_lt with same | less
  · have first := Int.floor_add_fract x
    have second := Int.floor_add_fract y
    rw [same] at first
    unfold roundEven
    rw [same]
    split_ifs <;> first | omega | linarith
  · have below := roundEven_cases x
    have above := roundEven_cases y
    omega

theorem even_roundEven {x : ℚ} (half : |(roundEven x : ℚ) - x| = 1 / 2) : roundEven x % 2 = 0 := by
  have apart := Int.floor_add_fract x
  have fract : Int.fract x = 1 / 2 := by
    rcases roundEven_cases x with ⟨down, low⟩ | ⟨up, high⟩
    · have least := Int.fract_nonneg x
      rw [down, abs_of_nonpos (by linarith)] at half
      linarith
    · have most := Int.fract_lt_one x
      rw [up, Int.cast_add, Int.cast_one, abs_of_nonneg (by linarith)] at half
      linarith
  have notLow : ¬Int.fract x < 1 / 2 := by linarith
  have notHigh : ¬1 / 2 < Int.fract x := by linarith
  rw [roundEven, if_neg notLow, if_neg notHigh]
  split_ifs <;> omega

theorem roundEven_neg (x : ℚ) : roundEven (-x) = -roundEven x := by
  by_cases whole : Int.fract x = 0
  · obtain ⟨n, rfl⟩ : ∃ n : ℤ, x = n := ⟨⌊x⌋, by linarith [Int.floor_add_fract x]⟩
    rw [← Int.cast_neg, roundEven_intCast, roundEven_intCast]
  · have flipped := Int.fract_neg whole
    have floor : ⌊-x⌋ = -⌊x⌋ - 1 := by
      have sum := Int.floor_add_fract (-x)
      have sum' := Int.floor_add_fract x
      have cast : (⌊-x⌋ : ℚ) = ((-⌊x⌋ - 1 : ℤ) : ℚ) := by
        push_cast
        linarith
      exact_mod_cast cast
    have least := Int.fract_nonneg x
    unfold roundEven
    rw [floor, flipped]
    split_ifs <;> first | omega | linarith

/-! ## Rounding to a double -/

theorem spacing_pos (x : ℚ) : 0 < spacing x := zpow_pos (by norm_num) _

theorem spacing_neg (x : ℚ) : spacing (-x) = spacing x := by
  rw [spacing, spacing, abs_neg]

theorem nearest_neg (x : ℚ) : nearest (-x) = -nearest x := by
  rw [nearest, nearest, spacing_neg, neg_div, roundEven_neg, Int.cast_neg, neg_mul]

theorem nearest_of_multiple {x : ℚ} (n : ℤ) (multiple : x = n * spacing x) : nearest x = x := by
  have ratio : x / spacing x = n := by
    rw [div_eq_iff (spacing_pos x).ne']
    exact multiple
  rw [nearest, ratio, roundEven_intCast, ← multiple]

theorem le_nearest {x : ℚ} (n : ℤ) (le : n * spacing x ≤ x) : n * spacing x ≤ nearest x := by
  have ratio : (n : ℚ) ≤ x / spacing x := (le_div_iff₀ (spacing_pos x)).mpr le
  have rounded : (n : ℚ) ≤ roundEven (x / spacing x) := by exact_mod_cast le_roundEven ratio
  exact mul_le_mul_of_nonneg_right rounded (spacing_pos x).le

theorem abs_nearest_sub_le (x : ℚ) : |nearest x - x| ≤ spacing x / 2 := by
  have apart : nearest x - x = (roundEven (x / spacing x) - x / spacing x) * spacing x := by
    rw [nearest, sub_mul, div_mul_cancel₀ _ (spacing_pos x).ne']
  rw [apart, abs_mul, abs_of_pos (spacing_pos x)]
  have half := abs_roundEven_sub_le (x / spacing x)
  have scaled := mul_le_mul_of_nonneg_right half (spacing_pos x).le
  linarith

theorem pow_log_eq (x : ℚ) : (2 : ℚ) ^ Int.log 2 |x| = ((2 ^ 52 : ℤ) : ℚ) * spacing x := by
  rw [spacing, zpow_sub₀ (by norm_num)]
  push_cast
  field_simp

theorem spacing_le {x : ℚ} (nonzero : x ≠ 0) : spacing x ≤ |x| / 2 ^ 52 := by
  have below := Int.zpow_log_le_self (b := 2) (by norm_num) (abs_pos.mpr nonzero)
  have steps := pow_log_eq x
  push_cast at below steps
  rw [steps] at below
  rw [le_div_iff₀ (by norm_num)]
  linarith

theorem abs_nearest_sub_le_div (x : ℚ) : |nearest x - x| ≤ |x| / 2 ^ 53 := by
  by_cases zero : x = 0
  · simp [zero, nearest, roundEven]
  · have error := abs_nearest_sub_le x
    have step := spacing_le zero
    have half : |x| / 2 ^ 52 / 2 = |x| / 2 ^ 53 := by ring
    linarith

theorem pow_le_nearest {x : ℚ} {k : ℤ} (le : (2 : ℚ) ^ k ≤ x) : (2 : ℚ) ^ k ≤ nearest x := by
  have positive : 0 < x := lt_of_lt_of_le (zpow_pos (by norm_num) k) le
  have size : |x| = x := abs_of_pos positive
  have exponent : k ≤ Int.log 2 |x| := by
    rw [size]
    exact (Int.zpow_le_iff_le_log (by norm_num) positive).mp (by exact_mod_cast le)
  have below : (2 : ℚ) ^ Int.log 2 |x| ≤ x := by
    have := Int.zpow_log_le_self (b := 2) (by norm_num) (abs_pos.mpr positive.ne')
    rw [size] at this ⊢
    exact_mod_cast this
  have kept := le_nearest (2 ^ 52) (pow_log_eq x ▸ below)
  rw [← pow_log_eq x] at kept
  exact (zpow_le_zpow_right₀ (by norm_num) exponent).trans kept

theorem nearest_le_pow {x : ℚ} (positive : 0 < x) :
    nearest x ≤ (2 : ℚ) ^ (Int.log 2 |x| + 1) := by
  have below := Int.lt_zpow_succ_log_self (b := 2) (by norm_num) |x|
  have steps : (2 : ℚ) ^ (Int.log 2 |x| + 1) = ((2 ^ 53 : ℤ) : ℚ) * spacing x := by
    rw [zpow_add_one₀ (by norm_num), pow_log_eq]
    push_cast
    ring
  rw [abs_of_pos positive] at below
  have ratio : x / spacing x ≤ ((2 ^ 53 : ℤ) : ℚ) := by
    rw [div_le_iff₀ (spacing_pos x), ← steps, abs_of_pos positive]
    exact_mod_cast below.le
  have rounded := roundEven_mono ratio
  rw [roundEven_intCast] at rounded
  rw [steps, nearest]
  exact mul_le_mul_of_nonneg_right (by exact_mod_cast rounded) (spacing_pos x).le

theorem nearest_zero : nearest 0 = 0 := by simp [nearest, roundEven]

theorem nearest_mono {x y : ℚ} (nonneg : 0 ≤ x) (le : x ≤ y) : nearest x ≤ nearest y := by
  rcases nonneg.eq_or_lt with rfl | positive
  · have kept := le_nearest (x := y) 0 (by simpa using le)
    rw [nearest_zero]
    simpa using kept
  · have larger : 0 < y := positive.trans_le le
    have logs : Int.log 2 |x| ≤ Int.log 2 |y| := by
      rw [abs_of_pos positive, abs_of_pos larger]
      exact Int.log_mono_right positive le
    rcases logs.eq_or_lt with same | less
    · have spaced : spacing x = spacing y := by rw [spacing, spacing, same]
      have rounded := roundEven_mono (div_le_div_of_nonneg_right le (spacing_pos x).le)
      rw [nearest, nearest, ← spaced]
      exact mul_le_mul_of_nonneg_right (by exact_mod_cast rounded) (spacing_pos x).le
    · have power : (2 : ℚ) ^ Int.log 2 |y| ≤ y := by
        have kept := Int.zpow_log_le_self (b := 2) (by norm_num) (abs_pos.mpr larger.ne')
        rw [abs_of_pos larger] at kept ⊢
        exact_mod_cast kept
      calc nearest x ≤ (2 : ℚ) ^ (Int.log 2 |x| + 1) := nearest_le_pow positive
        _ ≤ (2 : ℚ) ^ Int.log 2 |y| := zpow_le_zpow_right₀ (by norm_num) (by omega)
        _ ≤ nearest y := pow_le_nearest power

theorem nearest_nonneg {x : ℚ} (nonneg : 0 ≤ x) : 0 ≤ nearest x := by
  have kept := nearest_mono le_rfl nonneg
  rwa [nearest_zero] at kept

/-- Rounding keeps the order, on both sides of zero. -/
theorem monotone_nearest : Monotone nearest := by
  intro x y le
  rcases le_total 0 x with nonneg | nonpos
  · exact nearest_mono nonneg le
  · have flipped : nearest x = -nearest (-x) := by rw [nearest_neg, neg_neg]
    have low := nearest_nonneg (neg_nonneg.mpr nonpos)
    rcases le_total 0 y with nonneg | nonpos'
    · have high := nearest_nonneg nonneg
      linarith
    · have kept := nearest_mono (neg_nonneg.mpr nonpos') (neg_le_neg le)
      rw [nearest_neg y] at kept
      linarith

theorem nearest_zpow (k : ℤ) : nearest (2 ^ k) = 2 ^ k := by
  have positive : (0 : ℚ) < 2 ^ k := zpow_pos (by norm_num) k
  have log : Int.log 2 |(2 : ℚ) ^ k| = k := by
    rw [abs_of_pos positive]
    exact_mod_cast Int.log_zpow (R := ℚ) (b := 2) (by norm_num) k
  have steps := pow_log_eq (2 ^ k)
  rw [log] at steps
  exact nearest_of_multiple _ steps

/-- What was rounded already is a double. -/
theorem nearest_nearest_of_pos {x : ℚ} (positive : 0 < x) : nearest (nearest x) = nearest x := by
  have below : (2 : ℚ) ^ Int.log 2 |x| ≤ x := by
    have kept := Int.zpow_log_le_self (b := 2) (by norm_num) (abs_pos.mpr positive.ne')
    rw [abs_of_pos positive] at kept ⊢
    exact_mod_cast kept
  have least := pow_le_nearest below
  have larger : 0 < nearest x := lt_of_lt_of_le (zpow_pos (by norm_num) _) least
  rcases (nearest_le_pow positive).eq_or_lt with power | less
  · rw [power]
    exact nearest_zpow _
  · have logs : Int.log 2 |nearest x| = Int.log 2 |x| := by
      rw [abs_of_pos larger]
      have low := (Int.zpow_le_iff_le_log (b := 2) (by norm_num) larger).mp
        (by exact_mod_cast least)
      have high := (Int.lt_zpow_iff_log_lt (b := 2) (by norm_num) larger).mp
        (by exact_mod_cast less)
      omega
    have spaced : spacing (nearest x) = spacing x := by rw [spacing, spacing, logs]
    refine nearest_of_multiple (roundEven (x / spacing x)) ?_
    rw [spaced]
    rfl

theorem nearest_nearest (x : ℚ) : nearest (nearest x) = nearest x := by
  rcases lt_trichotomy x 0 with negative | rfl | positive
  · have flipped := nearest_nearest_of_pos (neg_pos.mpr negative)
    rw [nearest_neg, nearest_neg] at flipped
    exact neg_inj.mp flipped
  · rw [nearest_zero, nearest_zero]
  · exact nearest_nearest_of_pos positive

/-! ## Whole numbers -/

theorem log_abs_intCast (n : ℤ) : Int.log 2 |(n : ℚ)| = Nat.log 2 n.natAbs := by
  have size : |(n : ℚ)| = ((n.natAbs : ℕ) : ℚ) := by
    rw [Nat.cast_natAbs]
    push_cast
    rfl
  rw [size, Int.log_natCast]

theorem exists_mul_spacing {x : ℚ} (small : Int.log 2 |x| ≤ 52) :
    ∃ count : ℕ, (count : ℚ) * spacing x = 1 := by
  refine ⟨2 ^ (52 - Int.log 2 |x|).toNat, ?_⟩
  have exponent : (((52 - Int.log 2 |x|).toNat : ℕ) : ℤ) = 52 - Int.log 2 |x| :=
    Int.toNat_of_nonneg (by omega)
  rw [Nat.cast_pow, Nat.cast_ofNat, ← zpow_natCast, exponent, spacing,
    ← zpow_add₀ (by norm_num)]
  norm_num

/-- Integers up to `2 ^ 53` are doubles. -/
theorem nearest_intCast {n : ℤ} (small : n.natAbs ≤ 2 ^ 53) : nearest n = n := by
  rcases small.eq_or_lt with limit | below
  · have log : Int.log 2 |(n : ℚ)| = 53 := by
      rw [log_abs_intCast, limit, Nat.log_pow (by decide)]
      rfl
    have spaced : spacing n = 2 := by
      rw [spacing, log]
      norm_num
    refine nearest_of_multiple (n / 2) ?_
    have even : n / 2 * 2 = n := by omega
    rw [spaced]
    exact_mod_cast even.symm
  · have log : Int.log 2 |(n : ℚ)| ≤ 52 := by
      rw [log_abs_intCast]
      have := Nat.log_lt_of_lt_pow' (by decide) below
      omega
    obtain ⟨count, whole⟩ := exists_mul_spacing log
    refine nearest_of_multiple (n * count) ?_
    rw [Int.cast_mul, Int.cast_natCast, mul_assoc, whole, mul_one]

/-- The integer that the double nearest to an integer is.  The first branch answers what the
second would, without its quotients. -/
def round (n : ℤ) : ℤ := if n.natAbs ≤ 2 ^ 53 then n else ⌊nearest n⌋

theorem round_eq (n : ℤ) : round n = ⌊nearest n⌋ := by
  unfold round
  split
  case isTrue small => rw [nearest_intCast small, Int.floor_intCast]
  case isFalse => rfl

theorem round_of_natAbs_le {n : ℤ} (small : n.natAbs ≤ 2 ^ 53) : round n = n := if_pos small

theorem exists_intCast_nearest {x : ℚ} (large : 2 ^ 52 ≤ |x|) : ∃ n : ℤ, nearest x = n := by
  have positive : 0 < |x| := lt_of_lt_of_le (by norm_num) large
  have log : 52 ≤ Int.log 2 |x| :=
    (Int.zpow_le_iff_le_log (b := 2) (by norm_num) positive).mp (by exact_mod_cast large)
  obtain ⟨k, exponent⟩ : ∃ k : ℕ, Int.log 2 |x| - 52 = k := Int.eq_ofNat_of_zero_le (by omega)
  refine ⟨roundEven (x / spacing x) * 2 ^ k, ?_⟩
  have spaced : spacing x = 2 ^ k := by rw [spacing, exponent, zpow_natCast]
  rw [Int.cast_mul, Int.cast_pow, Int.cast_ofNat, ← spaced]
  rfl

theorem round_cast (n : ℤ) : (round n : ℚ) = nearest n := by
  rcases le_or_gt n.natAbs (2 ^ 53) with small | large
  · rw [round_of_natAbs_le small, nearest_intCast small]
  · have size : (2 : ℚ) ^ 52 ≤ |(n : ℚ)| := by
      rw [← Int.cast_abs, Int.abs_eq_natAbs]
      exact_mod_cast (show 2 ^ 52 ≤ n.natAbs by omega)
    obtain ⟨whole, same⟩ := exists_intCast_nearest size
    rw [round_eq, same, Int.floor_intCast]

theorem round_round (n : ℤ) : round (round n) = round n := by
  have twice := nearest_nearest (n : ℚ)
  rw [← round_cast, ← round_cast] at twice
  exact_mod_cast twice

theorem round_neg (n : ℤ) : round (-n) = -round n := by
  have flipped := nearest_neg (n : ℚ)
  rw [← Int.cast_neg, ← round_cast, ← round_cast] at flipped
  exact_mod_cast flipped

theorem le_round {n : ℤ} (large : 2 ^ 53 ≤ n) : 2 ^ 53 ≤ round n := by
  have kept := pow_le_nearest (x := n) (k := 53) (by exact_mod_cast large)
  rw [← round_cast] at kept
  exact_mod_cast kept

theorem round_pos {n : ℤ} (positive : 0 < n) : 0 < round n := by
  rcases le_or_gt n (2 ^ 53) with small | large
  · rw [round_of_natAbs_le (by omega)]
    exact positive
  · have kept := le_round large.le
    omega

/-- No integer is rounded across `2 ^ 53`. -/
theorem le_natAbs_round {n : ℤ} (large : 2 ^ 53 ≤ n.natAbs) : 2 ^ 53 ≤ (round n).natAbs := by
  rcases Int.natAbs_eq n with same | flipped
  · have kept := le_round (n := n) (by omega)
    omega
  · have kept := le_round (n := -n) (by omega)
    rw [round_neg] at kept
    omega

theorem abs_nearest_le (x : ℚ) : |nearest x| ≤ 2 * |x| := by
  by_cases zero : x = 0
  · have exact_ : nearest ((0 : ℤ) : ℚ) = ((0 : ℤ) : ℚ) := nearest_intCast (by decide)
    rw [Int.cast_zero] at exact_
    rw [zero, exact_, abs_zero, mul_zero]
  · have error := abs_nearest_sub_le x
    have step := spacing_le zero
    have apart := abs_sub_abs_le_abs_sub (nearest x) x
    have size := abs_pos.mpr zero
    have shrunk : |x| / 2 ^ 52 ≤ |x| := div_le_self size.le (by norm_num)
    linarith

theorem natAbs_round_le (n : ℤ) : (round n).natAbs ≤ 2 * n.natAbs := by
  have bound := abs_nearest_le (n : ℚ)
  rw [← round_cast, ← Int.cast_abs, ← Int.cast_abs, Int.abs_eq_natAbs, Int.abs_eq_natAbs] at bound
  exact_mod_cast bound

theorem round_mono {n m : ℤ} (le : n ≤ m) : round n ≤ round m := by
  have rounded := monotone_nearest (show (n : ℚ) ≤ m by exact_mod_cast le)
  rw [← round_cast, ← round_cast] at rounded
  exact_mod_cast rounded

/-- Numbers that rounding brings into another order were in it before. -/
theorem lt_of_round_lt {n m : ℤ} (less : round n < round m) : n < m :=
  not_le.mp fun le => absurd less (not_lt.mpr (round_mono le))

/-- Rounding does not as much as halve a number. -/
theorem le_two_mul_round {n : ℤ} (nonneg : 0 ≤ n) : n ≤ 2 * round n := by
  rcases nonneg.eq_or_lt with rfl | positive
  · rw [round_of_natAbs_le (by decide)]
    rfl
  · have whole : (0 : ℚ) < n := by exact_mod_cast positive
    have error := (abs_le.mp (abs_nearest_sub_le (n : ℚ))).1
    have step := spacing_le whole.ne'
    rw [abs_of_pos whole] at step
    have shrunk : (n : ℚ) / 2 ^ 52 ≤ n := div_le_self whole.le (by norm_num)
    have bound : (n : ℚ) ≤ 2 * round n := by
      rw [round_cast]
      linarith
    exact_mod_cast bound

/-- Rounding does not take an integer across another one that is a double. -/
theorem lt_round_iff {n m : ℤ} (nonneg : 0 ≤ m) (small : m < 2 ^ 53) : m < round n ↔ m < n := by
  constructor
  · intro more
    rw [← round_of_natAbs_le (n := m) (by omega)] at more
    exact lt_of_round_lt more
  · intro more
    have kept := round_mono (n := m + 1) (m := n) (by omega)
    rw [round_of_natAbs_le (by omega)] at kept
    omega

/-- The quotient of two whole doubles, cut off behind the point, is their integer quotient. -/
theorem floor_nearest_div {n d : ℕ} (small : n < 2 ^ 53) (positive : 0 < d) :
    ⌊nearest ((n : ℚ) / d)⌋ = n / d := by
  rcases n.eq_zero_or_pos with rfl | nonzero
  · have exact_ : nearest ((0 : ℤ) : ℚ) = ((0 : ℤ) : ℚ) := nearest_intCast (by decide)
    simpa using congrArg Int.floor exact_
  have divisor : (0 : ℚ) < d := by exact_mod_cast positive
  have ratio : (0 : ℚ) < n / d := div_pos (by exact_mod_cast nonzero) divisor
  have size : |(n : ℚ) / d| = n / d := abs_of_pos ratio
  rw [Int.floor_eq_iff]
  constructor
  · -- The integer quotient is a double itself, so it is not passed on the way down.
    have log : Int.log 2 |(n : ℚ) / d| ≤ 52 := by
      have below : (n : ℚ) / d < ((2 : ℕ) : ℚ) ^ (53 : ℤ) := by
        rw [div_lt_iff₀ divisor]
        have least : (1 : ℚ) ≤ d := by exact_mod_cast positive
        have bound : (n : ℚ) < 9007199254740992 := by exact_mod_cast small
        norm_num
        linarith
      rw [size]
      exact Int.lt_add_one_iff.mp ((Int.lt_zpow_iff_log_lt (by decide) ratio).mp below)
    obtain ⟨count, whole⟩ := exists_mul_spacing log
    have steps (k : ℕ) : (((k * count : ℕ) : ℤ) : ℚ) * spacing ((n : ℚ) / d) = k := by
      rw [Int.cast_natCast, Nat.cast_mul, mul_assoc, whole, mul_one]
    have kept := le_nearest _ ((steps (n / d)).trans_le Nat.cast_div_le)
    rw [steps] at kept
    exact_mod_cast kept
  · -- The next integer is at least `1 / d` away, the rounding moves by less.
    have next : (n : ℚ) + 1 ≤ d * ((n / d : ℕ) + 1) := by
      exact_mod_cast Nat.lt_mul_div_succ n positive
    have error := (abs_le.mp (abs_nearest_sub_le ((n : ℚ) / d))).2
    have step := spacing_le ratio.ne'
    rw [size] at step
    have bound : (n : ℚ) < 2 ^ 53 := by exact_mod_cast small
    have moved : (n : ℚ) / d / 2 ^ 53 < 1 / d := by
      rw [div_div, mul_comm, ← div_div, div_lt_div_iff_of_pos_right divisor]
      rw [div_lt_one (by norm_num)]
      exact bound
    have apart : (n : ℚ) / d + 1 / d ≤ (n / d : ℕ) + 1 := by
      rw [← add_div, div_le_iff₀ divisor]
      linarith
    have total : nearest ((n : ℚ) / d) < (n / d : ℕ) + 1 := by
      have half : (n : ℚ) / d / 2 ^ 52 / 2 = n / d / 2 ^ 53 := by ring
      linarith
    exact_mod_cast total

end Doubles
