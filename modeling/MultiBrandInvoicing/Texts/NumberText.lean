import Mathlib.Data.List.DropRight
import MultiBrandInvoicing.Arithmetic.Doubles

/-!
# Whole doubles as text

`Number.prototype.toString` for whole numbers: the decimal of the fewest digits that rounds to
the number, written out below `10 ^ 21` and with an exponent from there on.  The digits are those
of the number itself as long as it is below `2 ^ 53`.
-/

set_option autoImplicit false

namespace NumberText

/-- The multiples of a unit around a magnitude, the nearest first. -/
def around (magnitude unit : ℕ) : List ℕ :=
  [(Doubles.roundEven ((magnitude : ℚ) / unit)).toNat * unit, magnitude / unit * unit,
    (magnitude / unit + 1) * unit]

/-- The decimal that rounds to a magnitude with the most zeros at its end. -/
def shortest (magnitude : ℕ) : ℕ :=
  let zeros := (List.range ((toString magnitude).length + 1)).reverse
  ((zeros.flatMap fun count => around magnitude (10 ^ count)).find? fun decimal : ℕ =>
    Doubles.round decimal = magnitude).getD magnitude

def exponentText (decimal : ℕ) : List Char :=
  let digits := (toString decimal).toList
  let significant := digits.rdropWhile fun digit => digit = '0'
  significant.take 1 ++ (if significant.length ≤ 1 then [] else '.' :: significant.drop 1) ++
    'e' :: '+' :: (toString (digits.length - 1)).toList

def writtenOut (decimal : ℕ) : List Char :=
  if decimal < 10 ^ 21 then (toString decimal).toList else exponentText decimal

def numberText (value : ℤ) : String :=
  String.ofList ((if value < 0 then ['-'] else []) ++ writtenOut (shortest value.natAbs))

theorem round_shortest {magnitude : ℕ} (double : Doubles.round magnitude = magnitude) :
    Doubles.round (shortest magnitude) = magnitude := by
  have found : ∀ decimals : List ℕ, Doubles.round ((decimals.find? fun decimal : ℕ =>
      Doubles.round decimal = magnitude).getD magnitude : ℕ) = magnitude := by
    intro decimals
    cases first : decimals.find? fun decimal : ℕ => Doubles.round decimal = magnitude with
    | none => exact double
    | some decimal => simpa using List.find?_some first
  unfold shortest
  exact found _

theorem shortest_of_lt {magnitude : ℕ} (small : magnitude < 2 ^ 53) :
    shortest magnitude = magnitude := by
  have double : Doubles.round magnitude = magnitude := by
    refine Doubles.round_of_natAbs_le ?_
    rw [Int.natAbs_natCast]
    exact small.le
  have same := round_shortest double
  rcases le_or_gt (shortest magnitude) (2 ^ 53) with within | beyond
  · rw [Doubles.round_of_natAbs_le (by rw [Int.natAbs_natCast]; exact within)] at same
    exact Int.natCast_inj.mp same
  · have kept : 2 ^ 53 ≤ (Doubles.round (shortest magnitude)).natAbs := by
      refine Doubles.le_natAbs_round ?_
      rw [Int.natAbs_natCast]
      exact beyond.le
    rw [same, Int.natAbs_natCast] at kept
    omega

theorem le_shortest {magnitude : ℕ} (double : Doubles.round magnitude = magnitude)
    (large : 2 ^ 53 ≤ magnitude) : 2 ^ 53 ≤ shortest magnitude := by
  by_contra below
  have same := round_shortest double
  rw [Doubles.round_of_natAbs_le (by rw [Int.natAbs_natCast]; omega)] at same
  omega

theorem exponent_mem (decimal : ℕ) : 'e' ∈ exponentText decimal := by
  simp [exponentText]

theorem numberText_of_lt {value : ℤ} (small : value.natAbs < 2 ^ 53) :
    (numberText value).toList =
      (if value < 0 then ['-'] else []) ++ (toString value.natAbs).toList := by
  rw [numberText, shortest_of_lt small, writtenOut, if_pos (by omega : value.natAbs < 10 ^ 21),
    String.toList_ofList]

theorem numberText_of_le {value : ℤ} (double : Doubles.round value = value)
    (large : 2 ^ 53 ≤ value.natAbs) :
    'e' ∈ (numberText value).toList ∨ ∃ decimal : ℕ, 2 ^ 53 ≤ decimal ∧
      (numberText value).toList =
        (if value < 0 then ['-'] else []) ++ (toString decimal).toList := by
  have magnitude : Doubles.round (value.natAbs : ℤ) = value.natAbs := by
    rcases Int.natAbs_eq value with same | flipped
    · rw [← same]
      exact double
    · rw [← neg_eq_iff_eq_neg.mpr flipped, Doubles.round_neg, double]
  rw [numberText, String.toList_ofList, writtenOut]
  by_cases written : shortest value.natAbs < 10 ^ 21
  · rw [if_pos written]
    exact .inr ⟨shortest value.natAbs, le_shortest magnitude large, rfl⟩
  · rw [if_neg written]
    exact .inl (List.mem_append_right _ (exponent_mem _))

end NumberText
