import MultiBrandInvoicing.Json.Writing
import MultiBrandInvoicing.Texts.ShortestDecimals

/-!
# Numbers read from a JSON text

`JSON.parse` makes the double nearest to what is written of a number, and `String` writes the
shortest decimal of a double.  Between the two an integer keeps its digits exactly when it
survives.
-/

set_option autoImplicit false

namespace Json

open Encodings NumberText

/-- A double that is a number; zero has one sign here, and the text of both is the same. -/
inductive JsNumber where
  | finite (value : ℚ)
  | infinite (negative : Bool)
deriving DecidableEq

/-- The distance of the doubles around a number; below the least exponent it stays the same. -/
def unit (x : ℚ) : ℚ := max (Doubles.spacing x) (2 ^ (-1074 : ℤ))

def double (x : ℚ) : JsNumber :=
  let rounded := Doubles.roundEven (x / unit x) * unit x
  if 1024 ≤ Int.log 2 |rounded| then .infinite (x < 0) else .finite rounded

def toNumber (numeral : Numeral) : JsNumber :=
  let magnitude := (numeral.mantissa : ℚ) * 10 ^ numeral.exponent
  double (if numeral.negative then -magnitude else magnitude)

/-- `JSON.parse`, or nothing where it throws. -/
def parseJson (text : CodeUnits) : Option (Value JsNumber) := (read text).map (Value.map toNumber)

/-- The digits of a fraction, as few as round to it, and the power of ten of the last one. -/
def fractionDigits (magnitude : ℚ) : ℕ × ℤ :=
  let exponents := (List.range 17).map fun count : ℕ => Int.log 10 magnitude - count
  let candidates := exponents.flatMap fun exponent : ℤ =>
    let digits := magnitude / 10 ^ exponent
    [(Doubles.roundEven digits, exponent), (⌊digits⌋, exponent), (⌊digits⌋ + 1, exponent)]
  let chosen := (candidates.find? fun candidate =>
    double (candidate.1 * 10 ^ candidate.2) = .finite magnitude).getD (0, 0)
  (chosen.1.toNat, chosen.2)

def fractionText (magnitude : ℚ) : List Char :=
  let written := (toString (fractionDigits magnitude).1).toList
  let digits := written.rdropWhile fun digit => digit = '0'
  let point := written.length + (fractionDigits magnitude).2
  if 0 < point then digits.take point.toNat ++ '.' :: digits.drop point.toNat
  else if -6 < point then '0' :: '.' :: (List.replicate (-point).toNat '0' ++ digits)
  else digits.take 1 ++ (if digits.length ≤ 1 then [] else '.' :: digits.drop 1) ++
    'e' :: '-' :: (toString (1 - point).toNat).toList

def numberToString : JsNumber → String
  | .finite value =>
    if value.den = 1 then numberText value.num
    else String.ofList ((if value < 0 then ['-'] else []) ++ fractionText |value|)
  | .infinite negative => if negative then "-Infinity" else "Infinity"

/-! ## Integers -/

def integerNumeral (value : ℤ) : Numeral := ⟨value < 0, value.natAbs, 0⟩

theorem unit_intCast (value : ℤ) : unit value = Doubles.spacing value := by
  have least : (2 : ℚ) ^ (-1074 : ℤ) ≤ 2 ^ (-52 : ℤ) :=
    zpow_le_zpow_right₀ (by norm_num) (by decide)
  have log : 0 ≤ Int.log 2 |(value : ℚ)| := by
    rw [Doubles.log_abs_intCast]
    omega
  have spaced : (2 : ℚ) ^ (-52 : ℤ) ≤ Doubles.spacing value :=
    zpow_le_zpow_right₀ (by norm_num) (by omega)
  exact max_eq_left (least.trans spaced)

theorem double_intCast (value : ℤ) :
    double value = if 1024 ≤ Nat.log 2 (Doubles.round value).natAbs then .infinite (value < 0)
      else .finite (Doubles.round value) := by
  have rounded : (Doubles.roundEven ((value : ℚ) / unit value) : ℚ) * unit value =
      Doubles.round value := by
    rw [Doubles.round_cast, unit_intCast]
    rfl
  have sign : (value : ℚ) < 0 ↔ value < 0 := by exact_mod_cast Iff.rfl
  have log : 1024 ≤ Int.log 2 |(Doubles.round value : ℚ)| ↔
      1024 ≤ Nat.log 2 (Doubles.round value).natAbs := by
    rw [Doubles.log_abs_intCast]
    omega
  simp only [double, rounded, log, sign]

theorem toNumber_integer (value : ℤ) : toNumber (integerNumeral value) = double value := by
  have exact_ : (if decide (value < 0) = true then -(((value.natAbs : ℕ) : ℚ) * 10 ^ (0 : ℤ))
      else ((value.natAbs : ℕ) : ℚ) * 10 ^ (0 : ℤ)) = value := by
    rw [zpow_zero, mul_one, Nat.cast_natAbs, Int.cast_abs]
    split
    case isTrue below =>
      rw [decide_eq_true_eq] at below
      have negative : (value : ℚ) < 0 := by exact_mod_cast below
      rw [abs_of_neg negative, neg_neg]
    case isFalse above =>
      rw [decide_eq_true_eq, not_lt] at above
      have nonneg : (0 : ℚ) ≤ value := by exact_mod_cast above
      rw [abs_of_nonneg nonneg]
  exact congrArg double exact_

theorem infinity_ne (negative : Bool) (value : ℤ) :
    (numberToString (.infinite negative)).toList ≠ integerText value := by
  intro same
  have member : 'y' ∈ (numberToString (.infinite negative)).toList := by
    cases negative <;> decide
  rw [same, integerText, Nat.toString_eq_ofList_toDigits, String.toList_ofList,
    List.mem_append] at member
  rcases member with sign | digit
  · split at sign <;> simp at sign
  · exact absurd (Nat.isDigit_of_mem_toDigits (by decide) (by decide) digit) (by decide)

theorem double_of_lt {value : ℤ} (small : value.natAbs < 2 ^ 53) :
    double value = .finite value := by
  have log : Nat.log 2 value.natAbs < 53 := Nat.log_lt_of_lt_pow' (by decide) small
  rw [double_intCast, Doubles.round_of_natAbs_le small.le, if_neg (by omega)]

/-- An integer is written with its own digits again exactly when it survives. -/
theorem numberToString_integer (value : ℤ) :
    (numberToString (toNumber (integerNumeral value))).toList = integerText value ↔
      Survives value := by
  rw [toNumber_integer, double_intCast]
  split
  case isTrue large =>
    constructor
    · intro same
      exact absurd same (infinity_ne _ value)
    · intro survives
      have bound := Doubles.natAbs_round_le value
      have size : value.natAbs < 10 ^ 21 := survives.1
      have small : Nat.log 2 (Doubles.round value).natAbs < 72 :=
        Nat.log_lt_of_lt_pow' (by decide) (by omega)
      omega
  case isFalse small =>
    have whole : ((Doubles.round value : ℤ) : ℚ).den = 1 := Rat.den_intCast _
    rw [numberToString, if_pos whole, Rat.num_intCast]
    exact numberText_round_iff value

theorem numberToString_integer_ne (value : ℤ) :
    ofString (numberToString (toNumber (integerNumeral value))) ≠ [] := by
  have some_ : numberToString (toNumber (integerNumeral value)) ≠ "" := by
    rw [toNumber_integer, double_intCast]
    split
    · rw [numberToString]
      split <;> decide
    · have whole : ((Doubles.round value : ℤ) : ℚ).den = 1 := Rat.den_intCast _
      rw [numberToString, if_pos whole, Rat.num_intCast]
      intro empty
      exact numberText_ne_nil _ (by rw [empty]; rfl)
  intro empty
  exact some_ (ofString_inj.mp empty)

/-! ## Integers as they are written -/

theorem head_toDigits (value : ℕ) (positive : 0 < value) :
    (Nat.toDigits 10 value).head? ≠ some '0' := by
  induction value using Nat.strong_induction_on with
  | _ value ih =>
    rw [Nat.toDigits_eq_if (by decide)]
    split
    case isTrue small =>
      simp only [List.head?_cons, ne_eq, Option.some.injEq, Nat.digitChar_eq_zero]
      omega
    case isFalse large =>
      rw [List.head?_append_of_ne_nil _ Nat.toDigits_ne_nil]
      exact ih (value / 10) (by omega) (by omega)

def digitUnit (digit : Char) : UInt16 := .ofNat digit.toNat

theorem digit_bounds {digit : Char} (digit_ : digit.isDigit = true) :
    0x30 ≤ digit.toNat ∧ digit.toNat ≤ 0x39 := Char.isDigit_iff_toNat.mp digit_

theorem digitUnit_toNat {digit : Char} (digit_ : digit.isDigit = true) :
    (digitUnit digit).toNat = digit.toNat := by
  have bounds := digit_bounds digit_
  exact toNat_ofNat (by omega)

theorem digit_units {digits : List Char} (each : ∀ digit ∈ digits, digit.isDigit = true) :
    (digits.flatMap fun char => utf16 char.toNat) = digits.map digitUnit := by
  rw [List.map_eq_flatMap]
  refine List.flatMap_congr ?_
  intro digit member
  have bounds := digit_bounds (each digit member)
  rw [utf16, if_pos (by omega)]
  rfl

theorem isDigit_digitUnit {digits : List Char} (each : ∀ digit ∈ digits, digit.isDigit = true) :
    (digits.map digitUnit).all isDigit = true := by
  rw [List.all_map, List.all_eq_true]
  intro digit member
  have bounds := digit_bounds (each digit member)
  rw [Function.comp_apply, isDigit, digitUnit_toNat (each digit member), Bool.and_eq_true]
  exact ⟨decide_eq_true bounds.1, decide_eq_true bounds.2⟩

theorem digitsValue_digitUnit {digits : List Char}
    (each : ∀ digit ∈ digits, digit.isDigit = true) :
    digitsValue (digits.map digitUnit) = Nat.ofDigitChars 10 digits 0 := by
  have fold (start : ℕ) :
      (digits.map digitUnit).foldl (fun value digit => value * 10 + (digit.toNat - 0x30)) start =
        Nat.ofDigitChars 10 digits start := by
    induction digits generalizing start with
    | nil => simp
    | cons digit rest ih =>
      have value := digitUnit_toNat (each digit List.mem_cons_self)
      rw [List.map_cons, List.foldl_cons, Nat.ofDigitChars_cons,
        ih fun other member => each other (List.mem_cons_of_mem _ member), value, Nat.mul_comm]
      rfl
  exact fold 0

/-- The digits of a number without needless zeros, as a numeral. -/
theorem readNumeral_whole {whole : CodeUnits} (digits : whole.all isDigit = true)
    (some_ : whole ≠ []) (lead : whole.head? = some 0x30 → whole.length ≤ 1) (negative : Bool) :
    readNumeral ((if negative then [minus] else []) ++ whole) =
      some ⟨negative, digitsValue whole, 0⟩ := by
  have unsigned : whole.head? ≠ some minus := by
    intro head
    have digit := List.all_eq_true.mp digits _ (List.mem_of_head? head)
    exact absurd digit (by decide)
  have taken : whole.takeWhile isDigit = whole :=
    List.takeWhile_eq_self_iff.mpr (List.all_eq_true.mp digits)
  have dropped : whole.dropWhile isDigit = [] :=
    List.dropWhile_eq_nil_iff.mpr (List.all_eq_true.mp digits)
  have accepted : ¬(whole = [] ∨ whole.head? = some 0x30 ∧ 1 < whole.length) := by
    rintro (empty | ⟨zero, long⟩)
    · exact some_ empty
    · have short := lead zero
      omega
  cases negative with
  | false => simp [readNumeral, unsigned, taken, dropped, accepted, readFraction, readExponent]
  | true => simp [readNumeral, taken, dropped, accepted, readFraction, readExponent]

theorem delimits_digit {unit : UInt16} (digit : isDigit unit = true) : delimits unit = false := by
  simp only [isDigit, Bool.and_eq_true, decide_eq_true_eq] at digit
  obtain ⟨rest, value⟩ : ∃ rest, unit.toNat = 0x30 + rest := ⟨unit.toNat - 0x30, by omega⟩
  have small : rest < 10 := by omega
  have same : unit = .ofNat (0x30 + rest) := by rw [← value, UInt16.ofNat_toNat]
  rw [same]
  clear same value digit
  revert rest
  decide

theorem natural_units (value : ℕ) : ∃ whole : CodeUnits,
    (Nat.toDigits 10 value).flatMap (fun char => utf16 char.toNat) = whole ∧
      whole.all isDigit = true ∧ whole ≠ [] ∧ (whole.head? = some 0x30 → whole.length ≤ 1) ∧
        digitsValue whole = value := by
  have digits : ∀ digit ∈ Nat.toDigits 10 value, digit.isDigit = true := fun digit member =>
    Nat.isDigit_of_mem_toDigits (by decide) (by decide) member
  refine ⟨(Nat.toDigits 10 value).map digitUnit, digit_units digits, isDigit_digitUnit digits,
    ?_, ?_, ?_⟩
  · simp
  · intro zero
    rcases value.eq_zero_or_pos with rfl | positive
    · simp
    · rw [List.head?_map, Option.map_eq_some_iff] at zero
      obtain ⟨digit, head, same⟩ := zero
      have code := congrArg UInt16.toNat same
      rw [digitUnit_toNat (digits digit (List.mem_of_head? head))] at code
      have char : digit = '0' := Char.toNat_inj.mp code
      exact absurd (char ▸ head) (head_toDigits value positive)
  · rw [digitsValue_digitUnit digits, Nat.ofDigitChars_ten_toDigits]

theorem word_ne {whole : CodeUnits} {word : String} {sign : CodeUnits} (some_ : whole ≠ [])
    (digits : whole.all isDigit = true) (letters : (ofString word).any isDigit = false) :
    sign ++ whole ≠ ofString word := by
  intro same
  obtain ⟨unit, member⟩ := List.exists_mem_of_ne_nil whole some_
  have inside : unit ∈ ofString word := same ▸ List.mem_append_right sign member
  have refused := List.any_eq_false.mp letters unit inside
  exact refused (List.all_eq_true.mp digits unit member)

theorem plain_integer (value : ℤ) :
    Plain (ofString (String.ofList (integerText value))) (.number (integerNumeral value)) := by
  obtain ⟨whole, units, digits, some_, lead, read⟩ := natural_units value.natAbs
  have text : ofString (String.ofList (integerText value)) =
      (if decide (value < 0) then [minus] else []) ++ whole := by
    rw [ofString, String.toList_ofList, integerText, List.flatMap_append,
      Nat.toString_eq_ofList_toDigits, String.toList_ofList, units]
    congr 1
    by_cases below : value < 0
    · simp only [below, if_true, decide_true]
      rfl
    · simp only [below, if_false, decide_false]
      rfl
  rw [text]
  refine ⟨by simp [some_], ?_, ?_⟩
  · rw [List.any_append, Bool.or_eq_false_iff]
    constructor
    · split <;> decide
    · rw [List.any_eq_false]
      intro unit member
      rw [delimits_digit (List.all_eq_true.mp digits unit member)]
      decide
  · rw [readPlain, if_neg (word_ne some_ digits (by decide)),
      if_neg (word_ne some_ digits (by decide)), if_neg (word_ne some_ digits (by decide)),
      readNumeral_whole digits some_ lead, read]
    rfl

end Json
