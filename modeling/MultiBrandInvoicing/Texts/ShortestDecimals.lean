import MultiBrandInvoicing.Texts.NumberText

/-!
# The shortest decimal of a double

What singles out the digits a whole double is written with.  Of the decimals that round to it
they end in the most zeros, and of those they are the nearest to it; of two equally near ones the
last digit before the zeros is even.  An integer is written with its own digits again, after it
was rounded to a double, exactly when it is such a decimal.
-/

set_option autoImplicit false

namespace NumberText

structure IsShortest (double decimal : ℕ) : Prop where
  rounds : Doubles.round decimal = double
  zeros : ∀ other count : ℕ, Doubles.round other = double → 10 ^ count ∣ other →
    10 ^ count ∣ decimal
  nearest : ∀ other : ℕ, Doubles.round other = double →
    (∀ count, 10 ^ count ∣ decimal → 10 ^ count ∣ other) → other ≠ decimal →
    ((decimal : ℤ) - double).natAbs < ((other : ℤ) - double).natAbs ∨
      ((decimal : ℤ) - double).natAbs = ((other : ℤ) - double).natAbs ∧
        ∀ count, 10 ^ count ∣ decimal → 2 * 10 ^ count ∣ decimal

/-- Two decimals on both sides of the double with even last digits have it as the middle, with
as many zeros. -/
theorem IsShortest.unique {double decimal other : ℕ} (double_ : Doubles.round double = double)
    (first : IsShortest double decimal) (second : IsShortest double other) : decimal = other := by
  by_contra apart
  have zeros (count : ℕ) : 10 ^ count ∣ decimal ↔ 10 ^ count ∣ other :=
    ⟨second.zeros decimal count first.rounds, first.zeros other count second.rounds⟩
  have nearer := first.nearest other second.rounds (fun count => (zeros count).mp) (Ne.symm apart)
  have farther := second.nearest decimal first.rounds (fun count => (zeros count).mpr) apart
  have even (count : ℕ) (divides : 10 ^ count ∣ decimal) :
      2 * 10 ^ count ∣ decimal ∧ 2 * 10 ^ count ∣ other := by
    rcases nearer with less | ⟨_, evenFirst⟩
    · rcases farther with more | ⟨same, _⟩ <;> omega
    · rcases farther with more | ⟨_, evenSecond⟩
      · omega
      · exact ⟨evenFirst count divides, evenSecond count ((zeros count).mp divides)⟩
  have middle : decimal + other = 2 * double := by omega
  have divided (count : ℕ) (divides : 10 ^ count ∣ decimal) : 10 ^ count ∣ double := by
    have both := (even count divides).1.add (even count divides).2
    rw [middle] at both
    exact Nat.dvd_of_mul_dvd_mul_left (by decide) both
  have itself := first.nearest double double_ divided (by omega)
  omega

/-! ## The multiples around a double -/

theorem round_between {low middle high double : ℕ} (below : low ≤ middle) (above : middle ≤ high)
    (first : Doubles.round low = double) (last : Doubles.round high = double) :
    Doubles.round middle = double := by
  have lower : Doubles.round low ≤ Doubles.round middle :=
    Doubles.round_mono (by omega)
  have upper : Doubles.round middle ≤ Doubles.round high :=
    Doubles.round_mono (by omega)
  omega

theorem multiples_apart {unit first second : ℕ} (one : unit ∣ first) (other : unit ∣ second)
    (apart : first ≠ second) : first + unit ≤ second ∨ second + unit ≤ first := by
  rcases Nat.lt_or_gt_of_ne apart with less | more
  · have step := Nat.le_of_dvd (by omega) (Nat.dvd_sub other one)
    omega
  · have step := Nat.le_of_dvd (by omega) (Nat.dvd_sub one other)
    omega

theorem dvd_of_mem_around {magnitude unit decimal : ℕ} (mem : decimal ∈ around magnitude unit) :
    unit ∣ decimal := by
  simp only [around, List.mem_cons, List.not_mem_nil, or_false] at mem
  rcases mem with rfl | rfl | rfl <;> exact Nat.dvd_mul_left _ _

theorem around_first {unit : ℕ} (positive : 0 < unit) (magnitude : ℕ) :
    ∃ first : ℕ, around magnitude unit =
        [first, magnitude / unit * unit, (magnitude / unit + 1) * unit] ∧ unit ∣ first ∧
      2 * ((first : ℤ) - magnitude).natAbs ≤ unit ∧
      (2 * ((first : ℤ) - magnitude).natAbs = unit → 2 * unit ∣ first) := by
  have whole : (0 : ℚ) < unit := by exact_mod_cast positive
  obtain ⟨ratio, quotient⟩ : ∃ ratio : ℚ, (magnitude : ℚ) / unit = ratio := ⟨_, rfl⟩
  have product : (magnitude : ℚ) = ratio * unit := (div_eq_iff whole.ne').mp quotient
  have nonneg : 0 ≤ Doubles.roundEven ratio := by
    refine Doubles.le_roundEven ?_
    rw [Int.cast_zero, ← quotient]
    positivity
  obtain ⟨count, rounded⟩ := Int.eq_ofNat_of_zero_le nonneg
  -- The distance is that of the rounding, in units.
  have distance : ((((count * unit : ℕ) : ℤ) - magnitude).natAbs : ℚ) =
      |(Doubles.roundEven ratio : ℚ) - ratio| * unit := by
    rw [Nat.cast_natAbs, Int.cast_abs]
    push_cast
    rw [product, rounded, Int.cast_natCast, ← sub_mul, abs_mul, abs_of_pos whole]
  refine ⟨count * unit, ?_, Nat.dvd_mul_left _ _, ?_, ?_⟩
  · rw [around, quotient, rounded, Int.toNat_natCast]
  · have half := mul_le_mul_of_nonneg_right (Doubles.abs_roundEven_sub_le ratio) whole.le
    have bound : 2 * ((((count * unit : ℕ) : ℤ) - magnitude).natAbs : ℚ) ≤ unit := by
      rw [distance]
      linarith
    exact_mod_cast bound
  · intro tie
    have cast : 2 * ((((count * unit : ℕ) : ℤ) - magnitude).natAbs : ℚ) = unit := by
      exact_mod_cast tie
    have half : |(Doubles.roundEven ratio : ℚ) - ratio| = 1 / 2 := by
      rw [distance] at cast
      have cancelled : 2 * |(Doubles.roundEven ratio : ℚ) - ratio| * unit = 1 * unit := by
        linarith
      have twice := mul_right_cancel₀ whole.ne' cancelled
      linarith
    have even := Doubles.even_roundEven half
    have divides : 2 ∣ count := by omega
    exact Nat.mul_dvd_mul_right divides unit

theorem exists_around {magnitude unit other : ℕ} (double : Doubles.round magnitude = magnitude)
    (positive : 0 < unit) (divides : unit ∣ other) (rounds : Doubles.round other = magnitude) :
    ∃ decimal ∈ around magnitude unit, Doubles.round decimal = magnitude := by
  have below := Nat.div_mul_le_self magnitude unit
  have above := Nat.lt_mul_of_div_lt (Nat.lt_succ_self (magnitude / unit)) positive
  rw [Nat.succ_eq_add_one] at above
  rcases le_or_gt other magnitude with low | high
  · have least : other ≤ magnitude / unit * unit := by
      obtain ⟨count, rfl⟩ := divides
      rw [Nat.mul_comm] at low ⊢
      exact Nat.mul_le_mul_right unit ((Nat.le_div_iff_mul_le positive).mpr low)
    exact ⟨magnitude / unit * unit, by simp [around], round_between least below rounds double⟩
  · have most : (magnitude / unit + 1) * unit ≤ other := by
      obtain ⟨count, rfl⟩ := divides
      rw [Nat.mul_comm unit] at high ⊢
      exact Nat.mul_le_mul_right unit ((Nat.div_lt_iff_lt_mul positive).mpr high)
    exact ⟨(magnitude / unit + 1) * unit, by simp [around],
      round_between above.le most double rounds⟩

theorem other_side {magnitude unit low bad other : ℕ}
    (double : Doubles.round magnitude = magnitude) (floor : unit ∣ low) (below : low ≤ magnitude)
    (above : magnitude < low + unit) (refused : Doubles.round bad ≠ magnitude)
    (divides : unit ∣ other) (rounds : Doubles.round other = magnitude) :
    (bad = low → low + unit ≤ other) ∧ (bad = low + unit → other ≤ low) := by
  constructor
  · rintro rfl
    by_contra less
    have least : other ≤ bad := by
      by_contra more
      have away := multiples_apart divides floor (by omega)
      omega
    exact refused (round_between least below rounds double)
  · rintro rfl
    by_contra more
    have most : low + unit ≤ other := by
      by_contra less
      have away := multiples_apart divides floor (by omega)
      omega
    exact refused (round_between above.le most double rounds)

/-- A first multiple that rounds to the double is the nearest one. -/
theorem first_nearest {magnitude unit first other : ℕ} (multiple : unit ∣ first)
    (near : 2 * ((first : ℤ) - magnitude).natAbs ≤ unit)
    (tie : 2 * ((first : ℤ) - magnitude).natAbs = unit → 2 * unit ∣ first)
    (divides : unit ∣ other) (apart : other ≠ first) :
    ((first : ℤ) - magnitude).natAbs < ((other : ℤ) - magnitude).natAbs ∨
      ((first : ℤ) - magnitude).natAbs = ((other : ℤ) - magnitude).natAbs ∧ 2 * unit ∣ first := by
  have away := multiples_apart multiple divides (Ne.symm apart)
  by_cases same : ((first : ℤ) - magnitude).natAbs = ((other : ℤ) - magnitude).natAbs
  · exact .inr ⟨same, tie (by omega)⟩
  · exact .inl (by omega)

/-- The multiple that is found is the nearest one that rounds to the double. -/
theorem around_nearest {magnitude unit decimal other : ℕ}
    (double : Doubles.round magnitude = magnitude) (positive : 0 < unit)
    (found : (around magnitude unit).find? (fun decimal : ℕ =>
      Doubles.round decimal = magnitude) = some decimal)
    (divides : unit ∣ other) (rounds : Doubles.round other = magnitude) (apart : other ≠ decimal) :
    ((decimal : ℤ) - magnitude).natAbs < ((other : ℤ) - magnitude).natAbs ∨
      ((decimal : ℤ) - magnitude).natAbs = ((other : ℤ) - magnitude).natAbs ∧
        2 * unit ∣ decimal := by
  obtain ⟨first, listed, multiple, near, tie⟩ := around_first positive magnitude
  have below := Nat.div_mul_le_self magnitude unit
  have above : magnitude < magnitude / unit * unit + unit := by
    have next := Nat.lt_mul_of_div_lt (Nat.lt_succ_self (magnitude / unit)) positive
    rwa [Nat.succ_eq_add_one, Nat.add_mul, Nat.one_mul] at next
  have floor : unit ∣ magnitude / unit * unit := Nat.dvd_mul_left _ _
  rw [listed, Nat.add_mul, Nat.one_mul] at found
  generalize magnitude / unit * unit = low at below above floor found
  by_cases taken : Doubles.round first = magnitude
  · rw [List.find?_cons_of_pos (by simpa using taken), Option.some.injEq] at found
    subst found
    exact first_nearest multiple near tie divides apart
  · -- The first one is one of the two neighbours, and the other one is taken.
    rw [List.find?_cons_of_neg (by simpa using taken)] at found
    have neighbour : first = low ∨ first = low + unit := by
      by_contra neither
      have away := multiples_apart multiple floor (by omega)
      have beyond := multiples_apart multiple (floor.add (Nat.dvd_refl unit)) (by omega)
      omega
    have chosen := List.find?_some found
    have member := List.mem_of_find?_eq_some found
    simp only [decide_eq_true_eq] at chosen
    simp only [List.mem_cons, List.not_mem_nil, or_false] at member
    have second : decimal ≠ first := by
      rintro rfl
      exact taken chosen
    have side := other_side double floor below above taken divides rounds
    left
    rcases neighbour with lower | upper
    · have beyond := side.1 lower
      omega
    · have within := side.2 upper
      omega

/-! ## The search from the most zeros down -/

theorem findSome?_reverse_range {α : Type} {f : ℕ → Option α} {n : ℕ} {value : α}
    (found : (List.range n).reverse.findSome? f = some value) :
    ∃ count : ℕ, f count = some value ∧ ∀ larger < n, count < larger → f larger = none := by
  obtain ⟨before, count, after, split, hit, missed⟩ := List.findSome?_eq_some_iff.mp found
  refine ⟨count, hit, ?_⟩
  intro larger bound more
  have member : larger ∈ before ++ count :: after := by
    rw [← split, List.mem_reverse, List.mem_range]
    exact bound
  have descending : (before ++ count :: after).Pairwise fun left right => right < left := by
    rw [← split, List.pairwise_reverse]
    exact List.pairwise_lt_range
  have least := (List.pairwise_cons.mp (List.pairwise_append.mp descending).2.1).1
  rcases List.mem_append.mp member with early | late
  · exact missed larger early
  · rcases List.mem_cons.mp late with same | later
    · omega
    · have less := least larger later
      omega

theorem zeros_le {magnitude other count : ℕ} (positive : 0 < magnitude)
    (rounds : Doubles.round other = magnitude) (divides : 10 ^ count ∣ other) :
    count < (toString magnitude).length + 1 := by
  have nonzero : 0 < other := by
    by_contra zero
    rw [Nat.eq_zero_of_not_pos zero, Doubles.round_of_natAbs_le (by decide)] at rounds
    omega
  have size : magnitude < 10 ^ (toString magnitude).length := by
    rw [Nat.toString_eq_ofList_toDigits, String.length_ofList]
    exact (Nat.length_toDigits_le_iff (by decide) Nat.length_toDigits_pos).mp le_rfl
  have half := Doubles.le_two_mul_round (n := other) (by omega)
  have bound : 10 ^ count < 10 ^ ((toString magnitude).length + 1) := by
    have most := Nat.le_of_dvd nonzero divides
    rw [pow_succ]
    omega
  exact (Nat.pow_lt_pow_iff_right (by decide)).mp bound

theorem shortest_found {magnitude : ℕ} (double : Doubles.round magnitude = magnitude) :
    ∃ count : ℕ, (around magnitude (10 ^ count)).find? (fun decimal : ℕ =>
        Doubles.round decimal = magnitude) = some (shortest magnitude) ∧
      ∀ larger < (toString magnitude).length + 1, count < larger →
        (around magnitude (10 ^ larger)).find? (fun decimal : ℕ =>
          Doubles.round decimal = magnitude) = none := by
  obtain ⟨decimal, found⟩ : ∃ decimal : ℕ,
      (List.range ((toString magnitude).length + 1)).reverse.findSome? (fun count =>
        (around magnitude (10 ^ count)).find? fun decimal : ℕ =>
          Doubles.round decimal = magnitude) = some decimal := by
    rw [← Option.isSome_iff_exists, List.findSome?_isSome_iff]
    have whole : 10 ^ 0 ∣ magnitude := by simp
    obtain ⟨decimal, member, rounds⟩ := exists_around double (by decide) whole double
    refine ⟨0, by simp, ?_⟩
    rw [List.find?_isSome]
    exact ⟨decimal, member, by simpa using rounds⟩
  have same : shortest magnitude = decimal := by
    rw [shortest, List.find?_flatMap, found, Option.getD_some]
  rw [same]
  exact findSome?_reverse_range found

theorem shortest_spec {magnitude : ℕ} (double : Doubles.round magnitude = magnitude) :
    IsShortest magnitude (shortest magnitude) := by
  rcases magnitude.eq_zero_or_pos with rfl | positive
  · rw [shortest_of_lt (by decide)]
    refine ⟨double, fun _ count _ _ => Nat.dvd_zero _, ?_⟩
    intro other rounds _ apart
    have least := Doubles.round_pos (n := other) (by omega)
    omega
  · obtain ⟨count, found, fewer⟩ := shortest_found double
    have unit : 10 ^ count ∣ shortest magnitude :=
      dvd_of_mem_around (List.mem_of_find?_eq_some found)
    have within (other larger : ℕ) (rounds : Doubles.round other = magnitude)
        (divides : 10 ^ larger ∣ other) : larger ≤ count := by
      by_contra more
      have missed := fewer larger (zeros_le positive rounds divides) (by omega)
      obtain ⟨decimal, member, hit⟩ := exists_around double (by positivity) divides rounds
      have refused := List.find?_eq_none.mp missed decimal member
      simp [hit] at refused
    refine ⟨round_shortest double, ?_, ?_⟩
    · intro other larger rounds divides
      exact (Nat.pow_dvd_pow 10 (within other larger rounds divides)).trans unit
    · intro other rounds zeros apart
      rcases around_nearest double (by positivity) found (zeros count unit) rounds apart with
        less | ⟨same, even⟩
      · exact .inl less
      · refine .inr ⟨same, ?_⟩
        intro fewerZeros divides
        have most := within _ fewerZeros (round_shortest double) divides
        exact (Nat.mul_dvd_mul_left 2 (Nat.pow_dvd_pow 10 most)).trans even

theorem isShortest_iff {double decimal : ℕ} (double_ : Doubles.round double = double) :
    IsShortest double decimal ↔ decimal = shortest double := by
  constructor
  · intro spec
    exact spec.unique double_ (shortest_spec double_)
  · intro same
    rw [same]
    exact shortest_spec double_

/-! ## Integers that were rounded to a double -/

theorem toString_injective {first second : ℕ}
    (same : (toString first).toList = (toString second).toList) : first = second := by
  rw [Nat.toString_eq_ofList_toDigits, Nat.toString_eq_ofList_toDigits, String.toList_ofList,
    String.toList_ofList] at same
  have value := congrArg (fun digits => Nat.ofDigitChars 10 digits 0) same
  simpa [Nat.ofDigitChars_ten_toDigits] using value

def integerText (value : ℤ) : List Char :=
  (if value < 0 then ['-'] else []) ++ (toString value.natAbs).toList

/-- An integer that a double is rounded from is written with its own digits again. -/
def Survives (value : ℤ) : Prop :=
  value.natAbs < 10 ^ 21 ∧ IsShortest (Doubles.round value).natAbs value.natAbs

theorem exponentText_ne (decimal other : ℕ) : exponentText decimal ≠ (toString other).toList := by
  intro same
  have member := exponent_mem decimal
  rw [same, Nat.toString_eq_ofList_toDigits, String.toList_ofList] at member
  have digit := Nat.isDigit_of_mem_toDigits (by decide) (by decide) member
  exact absurd digit (by decide)

theorem round_natAbs (value : ℤ) :
    Doubles.round value.natAbs = (Doubles.round value).natAbs := by
  have nonneg (n : ℤ) (least : 0 ≤ n) : 0 ≤ Doubles.round n := by
    have kept := Doubles.le_two_mul_round least
    omega
  rcases Int.natAbs_eq value with same | flipped
  · have least := nonneg value (by omega)
    rw [← same]
    omega
  · have least := nonneg value.natAbs (by omega)
    have negated := Doubles.round_neg value.natAbs
    rw [← flipped] at negated
    omega

theorem round_neg_iff (value : ℤ) : Doubles.round value < 0 ↔ value < 0 := by
  constructor
  · intro below
    by_contra nonneg
    have kept := Doubles.le_two_mul_round (n := value) (by omega)
    omega
  · intro below
    have above := Doubles.round_pos (n := -value) (by omega)
    rw [Doubles.round_neg] at above
    omega

theorem numberText_round_iff (value : ℤ) :
    (numberText (Doubles.round value)).toList = integerText value ↔ Survives value := by
  have double :
      Doubles.round ((Doubles.round value).natAbs : ℤ) = (Doubles.round value).natAbs := by
    rw [← round_natAbs, Doubles.round_round]
  have spec : IsShortest (Doubles.round value).natAbs value.natAbs ↔
      value.natAbs = shortest (Doubles.round value).natAbs := isShortest_iff double
  simp only [numberText, String.toList_ofList, integerText, round_neg_iff,
    List.append_cancel_left_eq, Survives, spec]
  rw [writtenOut]
  split
  case isTrue written =>
    constructor
    · intro same
      have digits := toString_injective same
      omega
    · intro shortened
      rw [shortened.2]
  case isFalse long =>
    constructor
    · intro same
      exact absurd same (exponentText_ne _ _)
    · intro shortened
      omega

theorem numberText_ne_nil (value : ℤ) : (numberText value).toList ≠ [] := by
  have written : writtenOut (shortest value.natAbs) ≠ [] := by
    unfold writtenOut
    split
    · rw [Nat.toString_eq_ofList_toDigits, String.toList_ofList]
      exact Nat.toDigits_ne_nil
    · exact List.ne_nil_of_mem (exponent_mem _)
  rw [numberText, String.toList_ofList]
  exact List.append_ne_nil_of_right_ne_nil _ written

theorem survives_of_lt {value : ℤ} (small : value.natAbs < 2 ^ 53) : Survives value := by
  rw [← numberText_round_iff, Doubles.round_of_natAbs_le small.le, numberText_of_lt small]
  rfl

end NumberText
