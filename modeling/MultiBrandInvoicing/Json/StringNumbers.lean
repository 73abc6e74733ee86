import MultiBrandInvoicing.Json.Numbers

/-!
# Numbers from strings

`Number` of a string: white space around it is passed over, nothing is zero, and what is neither
a decimal nor written in another base is not a number.  An integer that is written without
rounding is read as itself, and no other number is written so.
-/

set_option autoImplicit false

namespace Json

open Encodings NumberText

/-! ## The conversion -/

def isBlank (unit : UInt16) : Bool :=
  [0x9, 0xA, 0xB, 0xC, 0xD, 0x20, 0xA0, 0x1680, 0x2028, 0x2029, 0x202F, 0x205F, 0x3000,
    0xFEFF].contains unit.toNat || (0x2000 ≤ unit.toNat && unit.toNat ≤ 0x200A)

def stripped (text : CodeUnits) : CodeUnits :=
  ((text.dropWhile isBlank).reverse.dropWhile isBlank).reverse

def digitIn (base : ℕ) (unit : UInt16) : Option ℕ :=
  let value :=
    if isDigit unit then unit.toNat - 0x30
    else if 0x61 ≤ unit.toNat ∧ unit.toNat ≤ 0x66 then unit.toNat - 0x61 + 10
    else if 0x41 ≤ unit.toNat ∧ unit.toNat ≤ 0x46 then unit.toNat - 0x41 + 10
    else base
  if value < base then some value else none

def digitsIn (base : ℕ) (digits : CodeUnits) : Option ℕ :=
  if digits = [] then none
  else digits.foldlM (fun value unit => (digitIn base unit).map (value * base + ·)) 0

def baseOf (letter : UInt16) : Option ℕ :=
  if letter = 0x78 ∨ letter = 0x58 then some 16
  else if letter = 0x6F ∨ letter = 0x4F then some 8
  else if letter = 0x62 ∨ letter = 0x42 then some 2
  else none

def unsignedDecimal (negative : Bool) (text : CodeUnits) : Option Numeral := do
  let whole := text.takeWhile isDigit
  let rest := text.dropWhile isDigit
  let pointed := rest.head? = some decimalPoint
  let fraction := if pointed then rest.tail.takeWhile isDigit else []
  let behind := if pointed then rest.tail.dropWhile isDigit else rest
  if whole = [] ∧ fraction = [] then none
  let exponent ← readExponent behind
  some ⟨negative, digitsValue (whole ++ fraction), exponent - fraction.length⟩

def signedDecimal (text : CodeUnits) : Option JsNumber :=
  let negative := text.head? = some minus
  let unsigned := if negative ∨ text.head? = some plus then text.tail else text
  if unsigned = ofString "Infinity" then some (.infinite negative)
  else (unsignedDecimal negative unsigned).map toNumber

/-- `Number(text)`; nothing is `NaN`. -/
def numberOf (text : CodeUnits) : Option JsNumber :=
  match stripped text with
  | [] => some (.finite 0)
  | first :: rest =>
    match (if first = 0x30 then rest.head?.bind baseOf else none) with
    | some base => (digitsIn base rest.tail).map fun value => double value
    | none => signedDecimal (first :: rest)

example : numberOf (ofString " 0x1F ") = some (double 31) := by decide +kernel

example : numberOf (ofString "1-1") = none := by decide +kernel

/-! ## Integers -/

theorem stripped_self {text : CodeUnits} (each : ∀ unit ∈ text, isBlank unit = false) :
    stripped text = text := by
  have keeps (units : CodeUnits) (solid : ∀ unit ∈ units, isBlank unit = false) :
      units.dropWhile isBlank = units := by
    cases units with
    | nil => rfl
    | cons first rest =>
      rw [List.dropWhile_cons, solid first List.mem_cons_self]
      rfl
  rw [stripped, keeps text each, keeps text.reverse, List.reverse_reverse]
  intro unit member
  exact each unit (List.mem_reverse.mp member)

theorem isDigit_cases {unit : UInt16} (digit : isDigit unit = true) :
    ∃ value < 10, unit = .ofNat (0x30 + value) := by
  simp only [isDigit, Bool.and_eq_true, decide_eq_true_eq] at digit
  refine ⟨unit.toNat - 0x30, by omega, ?_⟩
  have same : 0x30 + (unit.toNat - 0x30) = unit.toNat := by omega
  rw [same, UInt16.ofNat_toNat]

theorem digit_apart {unit : UInt16} (digit : isDigit unit = true) :
    isBlank unit = false ∧ unit ≠ minus ∧ unit ≠ plus ∧ baseOf unit = none := by
  obtain ⟨value, small, rfl⟩ := isDigit_cases digit
  revert value
  decide

theorem ne_infinity {digits : CodeUnits} (each : digits.all isDigit = true) :
    digits ≠ ofString "Infinity" := by
  intro same
  rw [same] at each
  exact absurd each (by decide)

theorem unsignedDecimal_digits {digits : CodeUnits} (each : digits.all isDigit = true)
    (some_ : digits ≠ []) (negative : Bool) :
    unsignedDecimal negative digits = some ⟨negative, digitsValue digits, 0⟩ := by
  have taken : digits.takeWhile isDigit = digits :=
    List.takeWhile_eq_self_iff.mpr (List.all_eq_true.mp each)
  have dropped : digits.dropWhile isDigit = [] :=
    List.dropWhile_eq_nil_iff.mpr (List.all_eq_true.mp each)
  simp [unsignedDecimal, taken, dropped, some_, readExponent]

theorem ofString_numberText {value : ℤ} (small : value.natAbs < 2 ^ 53) :
    ∃ digits : CodeUnits, ofString (numberText value) =
        (if value < 0 then [minus] else []) ++ digits ∧
      digits.all isDigit = true ∧ digits ≠ [] ∧ digitsValue digits = value.natAbs := by
  obtain ⟨digits, units, each, some_, _, read⟩ := natural_units value.natAbs
  refine ⟨digits, ?_, each, some_, read⟩
  rw [ofString, numberText_of_lt small, List.flatMap_append, Nat.toString_eq_ofList_toDigits,
    String.toList_ofList, units]
  congr 1
  by_cases below : value < 0
  · simp only [below, if_true]
    rfl
  · simp only [below, if_false]
    rfl

theorem signedDecimal_integer {value : ℤ} {digits : CodeUnits}
    (each : digits.all isDigit = true) (some_ : digits ≠ [])
    (read : digitsValue digits = value.natAbs) :
    signedDecimal ((if value < 0 then [minus] else []) ++ digits) = some (double value) := by
  have number : toNumber ⟨decide (value < 0), digitsValue digits, 0⟩ = double value := by
    rw [read, ← toNumber_integer, integerNumeral]
  by_cases below : value < 0
  · rw [decide_eq_true below] at number
    simp [signedDecimal, below, ne_infinity each, unsignedDecimal_digits each some_, number]
  · rw [decide_eq_false below] at number
    obtain ⟨first, rest, rfl⟩ := List.exists_cons_of_ne_nil some_
    have digit := List.all_eq_true.mp each first List.mem_cons_self
    have apart := digit_apart digit
    simp [signedDecimal, below, apart, ne_infinity each, unsignedDecimal_digits each some_, number]

theorem numberOf_decimal {first : UInt16} {rest : CodeUnits}
    (solid : ∀ unit ∈ first :: rest, isBlank unit = false)
    (plain : first = 0x30 → rest.head?.bind baseOf = none) :
    numberOf (first :: rest) = signedDecimal (first :: rest) := by
  have base : (if first = 0x30 then rest.head?.bind baseOf else none) = none := by
    split
    case isTrue zero => exact plain zero
    case isFalse other => rfl
  simp only [numberOf, stripped_self solid, base]

theorem bind_baseOf {digits : CodeUnits} (each : digits.all isDigit = true) :
    digits.head?.bind baseOf = none := by
  cases digits with
  | nil => rfl
  | cons first rest => exact (digit_apart (List.all_eq_true.mp each first List.mem_cons_self)).2.2.2

/-- An integer is read from what is written of it. -/
theorem numberOf_numberText {value : ℤ} (small : value.natAbs < 2 ^ 53) :
    numberOf (ofString (numberText value)) = some (.finite value) := by
  obtain ⟨digits, text, each, some_, read⟩ := ofString_numberText small
  have decimal := signedDecimal_integer each some_ read
  have solid : ∀ unit ∈ digits, isBlank unit = false := fun unit member =>
    (digit_apart (List.all_eq_true.mp each unit member)).1
  rw [text, ← double_of_lt small, ← decimal]
  by_cases below : value < 0
  · rw [if_pos below, List.singleton_append]
    refine numberOf_decimal ?_ (fun zero => absurd zero (by decide))
    intro unit member
    rcases List.mem_cons.mp member with rfl | digit
    · decide
    · exact solid unit digit
  · rw [if_neg below, List.nil_append]
    obtain ⟨first, rest, rfl⟩ := List.exists_cons_of_ne_nil some_
    rw [List.all_cons, Bool.and_eq_true] at each
    exact numberOf_decimal solid (fun _ => bind_baseOf each.2)

/-! ## Texts of other numbers -/

theorem integerText_digit {value : ℤ} {char : Char} (member : char ∈ integerText value) :
    char = '-' ∨ char.isDigit = true := by
  rw [integerText, Nat.toString_eq_ofList_toDigits, String.toList_ofList,
    List.mem_append] at member
  rcases member with sign | digit
  · split at sign
    · exact .inl (List.mem_singleton.mp sign)
    · simp at sign
  · exact .inr (Nat.isDigit_of_mem_toDigits (by decide) (by decide) digit)

/-- The text of a number that is no integer has a point or an exponent. -/
theorem fractionText_mark (magnitude : ℚ) :
    '.' ∈ fractionText magnitude ∨ 'e' ∈ fractionText magnitude := by
  simp only [fractionText]
  split_ifs <;> simp

theorem shortest_eq_of_lt {magnitude decimal : ℕ} (same : shortest magnitude = decimal)
    (small : decimal < 2 ^ 53) : magnitude = decimal := by
  have found : ∀ decimals : List ℕ, (decimals.find? fun candidate : ℕ =>
      Doubles.round candidate = magnitude).getD magnitude = decimal → magnitude = decimal := by
    intro decimals chosen
    cases first : decimals.find? fun candidate : ℕ => Doubles.round candidate = magnitude with
    | none => simpa [first] using chosen
    | some candidate =>
      rw [first, Option.getD_some] at chosen
      have rounds : Doubles.round candidate = magnitude := by simpa using List.find?_some first
      rw [chosen, Doubles.round_of_natAbs_le (by rw [Int.natAbs_natCast]; exact small.le)] at rounds
      exact (Int.natCast_inj.mp rounds).symm
  unfold shortest at same
  exact found _ same

theorem digit_of_toString {decimal : ℕ} {char : Char}
    (member : char ∈ (toString decimal).toList) : char.isDigit = true := by
  rw [Nat.toString_eq_ofList_toDigits, String.toList_ofList] at member
  exact Nat.isDigit_of_mem_toDigits (by decide) (by decide) member

theorem numberText_eq {value other : ℤ} (small : other.natAbs < 2 ^ 53)
    (same : (numberText value).toList = integerText other) : value = other := by
  rw [numberText, String.toList_ofList, writtenOut] at same
  by_cases written : shortest value.natAbs < 10 ^ 21
  case neg =>
    rw [if_neg written] at same
    have member := List.mem_append_right (if value < 0 then ['-'] else [])
      (exponent_mem (shortest value.natAbs))
    rw [same] at member
    rcases integerText_digit member with sign | digit
    · exact absurd sign (by decide)
    · exact absurd digit (by decide)
  case pos =>
    rw [if_pos written] at same
    have signs (first second : ℕ) : '-' :: (toString first).toList ≠ (toString second).toList := by
      intro equal
      have digit := digit_of_toString (equal ▸ List.mem_cons_self)
      exact absurd digit (by decide)
    have magnitude (equal : (toString (shortest value.natAbs)).toList =
        (toString other.natAbs).toList) : value.natAbs = other.natAbs :=
      shortest_eq_of_lt (toString_injective equal) small
    rw [integerText] at same
    by_cases below : value < 0 <;> by_cases negative : other < 0
    · rw [if_pos below, if_pos negative, List.append_cancel_left_eq] at same
      have equal := magnitude same
      omega
    · rw [if_pos below, if_neg negative] at same
      exact absurd same (signs _ _)
    · rw [if_neg below, if_pos negative] at same
      exact absurd same.symm (signs _ _)
    · rw [if_neg below, if_neg negative, List.append_cancel_left_eq] at same
      have equal := magnitude same
      omega

/-- No other number is written as an integer below `2 ^ 53` is. -/
theorem eq_of_numberToString {number : JsNumber} {value : ℤ} (small : value.natAbs < 2 ^ 53)
    (same : numberToString number = numberText value) : number = .finite value := by
  have chars : (numberToString number).toList = integerText value := by
    rw [same, numberText_of_lt small]
    rfl
  cases number with
  | infinite negative => exact absurd chars (infinity_ne negative value)
  | finite found =>
    rw [numberToString] at chars
    split at chars
    case isTrue whole =>
      rw [← numberText_eq small chars, Rat.coe_int_num_of_den_eq_one whole]
    case isFalse fraction =>
      rw [String.toList_ofList] at chars
      rcases fractionText_mark |found| with point | exponent
      · have member := List.mem_append_right (if found < 0 then ['-'] else []) point
        rw [chars] at member
        rcases integerText_digit member with sign | digit
        · exact absurd sign (by decide)
        · exact absurd digit (by decide)
      · have member := List.mem_append_right (if found < 0 then ['-'] else []) exponent
        rw [chars] at member
        rcases integerText_digit member with sign | digit
        · exact absurd sign (by decide)
        · exact absurd digit (by decide)

/-! ## The characters of a number -/

def NumberChar (char : Char) : Prop :=
  char.isDigit = true ∨ char ∈ "+-.eInfity".toList

theorem numberChar_of_mem {char : Char} {marks : List Char} (mark : char ∈ marks)
    (known : marks.all ("+-.eInfity".toList.contains ·) = true) : NumberChar char :=
  .inr (List.contains_iff_mem.mp (List.all_eq_true.mp known char mark))

theorem numberChar_of_scientific (marks : List Char) {digits exponent : List Char} {char : Char}
    (first : ∀ digit ∈ digits, digit.isDigit = true)
    (second : ∀ digit ∈ exponent, digit.isDigit = true)
    (known : marks.all ("+-.eInfity".toList.contains ·) = true)
    (member : char ∈ digits.take 1 ++ (if digits.length ≤ 1 then [] else '.' :: digits.drop 1) ++
      (marks ++ exponent)) : NumberChar char := by
  rcases List.mem_append.mp member with front | back
  · rcases List.mem_append.mp front with lead | rest
    · exact .inl (first char (List.mem_of_mem_take lead))
    · split at rest
      · simp at rest
      · rcases List.mem_cons.mp rest with point | digit
        · rw [point]
          exact .inr (by decide)
        · exact .inl (first char (List.mem_of_mem_drop digit))
  · rcases List.mem_append.mp back with mark | digit
    · exact numberChar_of_mem mark known
    · exact .inl (second char digit)

theorem digit_of_rdropWhile {written : List Char} {keep : Char → Bool}
    (each : ∀ digit ∈ written, digit.isDigit = true) :
    ∀ digit ∈ written.rdropWhile keep, digit.isDigit = true := by
  intro digit member
  exact each digit ((List.rdropWhile_prefix keep written).subset member)

theorem writtenOut_chars {decimal : ℕ} {char : Char} (member : char ∈ writtenOut decimal) :
    NumberChar char := by
  rw [writtenOut] at member
  split at member
  · exact .inl (digit_of_toString member)
  · rw [exponentText] at member
    exact numberChar_of_scientific ['e', '+']
      (digit_of_rdropWhile fun digit found => digit_of_toString found)
      (fun digit found => digit_of_toString found) (by decide) member

theorem fractionText_chars {magnitude : ℚ} {char : Char} (member : char ∈ fractionText magnitude) :
    NumberChar char := by
  have digits : ∀ digit ∈ (toString (fractionDigits magnitude).1).toList.rdropWhile
      (fun digit => digit = '0'), digit.isDigit = true :=
    digit_of_rdropWhile fun digit found => digit_of_toString found
  simp only [fractionText] at member
  split at member
  case isTrue whole =>
    rcases List.mem_append.mp member with front | back
    · exact .inl (digits char (List.mem_of_mem_take front))
    · rcases List.mem_cons.mp back with point | digit
      · rw [point]
        exact .inr (by decide)
      · exact .inl (digits char (List.mem_of_mem_drop digit))
  case isFalse below =>
    split at member
    case isTrue near =>
      simp only [List.mem_cons, List.mem_append] at member
      rcases member with zero | point | zeros | digit
      · rw [zero]
        exact .inl (by decide)
      · rw [point]
        exact .inr (by decide)
      · rw [List.eq_of_mem_replicate zeros]
        exact .inl (by decide)
      · exact .inl (digits char digit)
    case isFalse far =>
      exact numberChar_of_scientific ['e', '-'] digits
        (fun digit found => digit_of_toString found) (by decide) member

theorem numberToString_chars {number : JsNumber} {char : Char}
    (member : char ∈ (numberToString number).toList) : NumberChar char := by
  have sign (negative : Prop) [Decidable negative] (found : char ∈ if negative then ['-'] else []) :
      NumberChar char := by
    split at found
    · rw [List.mem_singleton.mp found]
      exact .inr (by decide)
    · simp at found
  cases number with
  | infinite negative =>
    rw [numberToString] at member
    split at member
    · exact numberChar_of_mem member (by decide)
    · exact numberChar_of_mem member (by decide)
  | finite value =>
    rw [numberToString] at member
    split at member
    · rw [numberText, String.toList_ofList] at member
      rcases List.mem_append.mp member with front | back
      · exact sign _ front
      · exact writtenOut_chars back
    · rw [String.toList_ofList] at member
      rcases List.mem_append.mp member with front | back
      · exact sign _ front
      · exact fractionText_chars back

theorem numberChar_bounds {char : Char} (mark : NumberChar char) :
    char.toNat < 0x80 ∧ char.toNat ≠ 0x3A := by
  rcases mark with digit | letter
  · have bounds := digit_bounds digit
    omega
  · have known : "+-.eInfity".toList.all fun char => char.toNat < 0x80 ∧ char.toNat ≠ 0x3A := by
      decide
    exact of_decide_eq_true (List.all_eq_true.mp known char letter)

theorem mem_numberToString {number : JsNumber} {unit : UInt16}
    (member : unit ∈ ofString (numberToString number)) :
    unit.toNat < 0x80 ∧ unit.toNat ≠ 0x3A := by
  obtain ⟨char, found, units⟩ := List.mem_flatMap.mp member
  have bounds := numberChar_bounds (numberToString_chars found)
  rw [utf16, if_pos (by omega), List.mem_singleton] at units
  rw [units, toNat_ofNat (by omega)]
  exact bounds

end Json
