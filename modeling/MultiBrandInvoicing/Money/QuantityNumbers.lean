import MultiBrandInvoicing.Money.AmountText
import MultiBrandInvoicing.Texts.NumberText

/-!
# Quantities from numbers and from text

The branch of `quantityFrom` in `packages/shared/src/money/quantity.ts` for numbers beside the
one for text, and `formatQuantity` with the division of numbers it uses.  The branch for numbers
scales without the range check that the other one ends with.
-/

set_option autoImplicit false

namespace MultiBrandInvoicing

open NumberText

/-- A number as `Number.isInteger` sees it: a whole one, or another one under its text. -/
inductive Number where
  | whole (value : Int)
  | other (text : String)
  deriving DecidableEq, Repr

/-- From here on a number is infinite. -/
def numberLimit : Nat := 2 ^ 1024

structure IsNumber (value : Int) : Prop where
  double : Doubles.round value = value
  finite : value.natAbs < numberLimit

def multiplyNumbers (first second : Int) : Number :=
  let product := Doubles.round (first * second)
  if product.natAbs < numberLimit then .whole product
  else .other (if product < 0 then "-Infinity" else "Infinity")

def quantityFromNumber (input : Number) : Except MoneyError Number :=
  match input with
  | .whole value => .ok (multiplyNumbers value quantityScale)
  | .other text =>
      .error (.moneyError ("pass fractional quantities as strings — quantityFrom(\"" ++ text ++
        "\") — so no precision is lost before parsing"))

/-- `formatQuantity` as the source has it. -/
def formatQuantityInNumbers (quantity : Int) : Except MoneyError String := do
  let quantity ← assertQuantity quantity "quantity"
  let whole := truncatedQuotient quantity.natAbs quantityScale.natAbs
  let digits := padStart (toString (quantity.natAbs % quantityScale.natAbs)) quantityDecimals
  let fraction := (digits.toList.reverse.dropWhile fun digit => digit = '0').reverse
  let sign := if quantity < 0 then "-" else ""
  let decimals := if fraction.isEmpty then "" else "." ++ String.ofList fraction
  return s!"{sign}{whole}{decimals}"

theorem formatQuantityInNumbers_eq (quantity : Int) :
    formatQuantityInNumbers quantity = formatQuantity quantity := by
  unfold formatQuantityInNumbers formatQuantity
  cases checked : assertQuantity quantity "quantity" with
  | error error => rfl
  | ok asserted =>
      obtain ⟨safe, rfl⟩ := assertQuantity_eq_ok.mp checked
      have whole := truncatedQuotient_of_isSafeInteger safe
        (show 0 < quantityScale.natAbs by decide)
      simp only [bind, Except.bind, whole]
      rfl

/-! ## Decimal text as a quantity -/

theorem quantityFrom_decimalText {text : String} {negative : Bool} {whole fraction : List Char}
    (characters : text.toList = decimalText negative whole fraction) (nonempty : whole ≠ [])
    (digits : ∀ char ∈ whole, char.isDigit = true)
    (fractionDigits : ∀ char ∈ fraction, char.isDigit = true)
    (short : fraction.length ≤ quantityDecimals) {magnitude : Nat}
    (value : digitsValue whole * quantityScale +
      digitsValue (padEnd fraction quantityDecimals) = magnitude) {quantity : Int} :
    quantityFrom text = .ok quantity ↔
      isSafeInteger (if negative then -(magnitude : Int) else magnitude) = true ∧
        quantity = if negative then -(magnitude : Int) else magnitude := by
  have kept : trim text.toList = text.toList := by
    refine trim_eq_self fun char member => ?_
    rw [characters] at member
    exact (mem_plain digits fractionDigits member).1
  simp only [quantityFrom, kept]
  rw [characters, decimalGroups?_decimalText nonempty digits fractionDigits]
  simp only [value, not_lt.mpr short, if_false]
  exact ite_eq_ok

theorem scaled_magnitude (magnitude : Nat) :
    digitsValue (toString (magnitude / quantityScale.natAbs)).toList * quantityScale +
      digitsValue (padEnd (dropZeros
        (padStart (toString (magnitude % quantityScale.natAbs)) quantityDecimals).toList)
        quantityDecimals) = magnitude := by
  obtain ⟨count, zeros⟩ := dropZeros_append
    (padStart (toString (magnitude % quantityScale.natAbs)) quantityDecimals).toList
  have width := padStart_length (n := magnitude % quantityScale.natAbs)
    (show 0 < quantityDecimals by decide) (Nat.mod_lt _ (by decide))
  have lengths := congrArg List.length zeros
  rw [width, List.length_append, List.length_replicate] at lengths
  have missing : quantityDecimals - (dropZeros
      (padStart (toString (magnitude % quantityScale.natAbs)) quantityDecimals).toList).length =
      count := by omega
  rw [padEnd, missing, ← zeros, padStart_toList, digitsValue_zeros_append, digitsValue_toString,
    digitsValue_toString]
  have scale : quantityScale = 10000 := rfl
  have scaleNat : quantityScale.natAbs = 10000 := rfl
  rw [scaleNat, scale]
  omega

theorem signed_natAbs (value : Int) :
    (if decide (value < 0) = true then -(value.natAbs : Int) else value.natAbs) = value := by
  by_cases negative : value < 0
  · rw [if_pos (by simpa using negative)]
    omega
  · rw [if_neg (by simpa using negative)]
    omega

theorem quantityFrom_formatQuantity {quantity : Int} {text : String}
    (formatted : formatQuantity quantity = .ok text) : quantityFrom text = .ok quantity := by
  obtain ⟨asserted, checked, _⟩ := bind_ok formatted
  have safe := (assertQuantity_eq_ok.mp checked).1
  have short : (dropZeros (padStart (toString (quantity.natAbs % quantityScale.natAbs))
      quantityDecimals).toList).length ≤ quantityDecimals := by
    have width := padStart_length (n := quantity.natAbs % quantityScale.natAbs)
      (show 0 < quantityDecimals by decide) (Nat.mod_lt _ (by decide))
    obtain ⟨count, zeros⟩ := dropZeros_append
      (padStart (toString (quantity.natAbs % quantityScale.natAbs)) quantityDecimals).toList
    have lengths := congrArg List.length zeros
    rw [width, List.length_append] at lengths
    omega
  rw [quantityFrom_decimalText (formatQuantity_toList formatted) (toString_ne_nil _)
    (fun char member => isDigit_of_mem_toString member)
    (fun char member => isDigit_of_mem_padStart (mem_dropZeros member)) short
    (scaled_magnitude quantity.natAbs), signed_natAbs]
  exact ⟨safe, rfl⟩

theorem formatQuantity_of_isSafeInteger {quantity : Int} (safe : isSafeInteger quantity = true) :
    ∃ text, formatQuantity quantity = .ok text := by
  have checked : assertQuantity quantity "quantity" = .ok quantity :=
    assertQuantity_eq_ok.mpr ⟨safe, rfl⟩
  unfold formatQuantity
  rw [checked]
  exact ⟨_, rfl⟩

/-! ## A number beside its text -/

/-- Both give one safe quantity, or both refuse. -/
def Agree (number : Except MoneyError Number) (text : Except MoneyError Int) : Prop :=
  (∃ quantity, isSafeInteger quantity = true ∧ number = .ok (.whole quantity) ∧
    text = .ok quantity) ∨
    number.toOption = none ∧ text.toOption = none

/-- The scaled number is a safe integer, or nothing of the kind. -/
theorem multiplyNumbers_eq_whole {first second quantity : Int}
    (safe : isSafeInteger quantity = true) :
    multiplyNumbers first second = .whole quantity ↔ quantity = first * second := by
  constructor
  · intro scaled
    simp only [multiplyNumbers] at scaled
    split at scaled
    case isTrue finite =>
      obtain rfl := Number.whole.inj scaled
      rw [isSafeInteger_round] at safe
      exact round_of_isSafeInteger safe
    case isFalse => cases scaled
  · rintro rfl
    have small := isSafeInteger_iff.mp safe
    have finite : (first * second).natAbs < numberLimit :=
      small.trans_le (by decide +kernel)
    simp only [multiplyNumbers, round_of_isSafeInteger safe, if_pos finite]

theorem mem_trim {text : List Char} {char : Char} (member : char ∈ text)
    (kept : isTrimmed char = false) : char ∈ trim text := by
  have front : ∀ text : List Char, char ∈ text → char ∈ text.dropWhile isTrimmed := by
    intro text member
    rw [← List.takeWhile_append_dropWhile (p := isTrimmed) (l := text), List.mem_append] at member
    rcases member with dropped | rest
    · rw [List.mem_takeWhile_imp dropped] at kept
      cases kept
    · exact rest
  simpa [trim] using front _ (List.mem_reverse.mpr (front text member))

theorem mem_of_decimalGroups? {text : List Char} {groups : Bool × List Char × List Char}
    (decimal : decimalGroups? text = some groups) {char : Char} (member : char ∈ text) :
    char = '-' ∨ char = '.' ∨ char.isDigit = true := by
  have inBody : char = '-' ∨ char ∈ if text.head? = some '-' then text.tail else text := by
    split
    case isTrue sign =>
      cases text with
      | nil => cases member
      | cons first rest =>
          obtain rfl := Option.some.inj sign
          exact List.mem_cons.mp member
    case isFalse => exact .inr member
  refine inBody.imp_right fun inBody => ?_
  simp only [decimalGroups?] at decimal
  generalize (if text.head? = some '-' then text.tail else text) = body at inBody decimal
  rw [← List.takeWhile_append_dropWhile (p := Char.isDigit) (l := body), List.mem_append] at inBody
  rcases inBody with digit | behind
  · exact .inr (List.mem_takeWhile_imp digit)
  · split at decimal
    · cases decimal
    · split at decimal
      next empty =>
        rw [empty] at behind
        cases behind
      next fraction point =>
        rw [point] at behind
        refine (List.mem_cons.mp behind).imp_right fun inFraction => ?_
        split at decimal
        · cases decimal
        next digits =>
          simp only [Bool.or_eq_true, Bool.not_eq_true', not_or, Bool.not_eq_false] at digits
          exact List.all_eq_true.mp digits.2 _ inFraction
      next => cases decimal

theorem quantityFrom_exponent {text : String} (exponent : 'e' ∈ text.toList) {quantity : Int} :
    quantityFrom text ≠ .ok quantity := by
  have inside : 'e' ∈ trim text.toList := mem_trim exponent (by decide)
  unfold quantityFrom
  cases decimal : decimalGroups? (trim text.toList) with
  | none =>
      intro read
      cases read
  | some groups => exact absurd (mem_of_decimalGroups? decimal inside) (by decide)

/-- The text of a whole number is read as that number scaled, where that is safe. -/
theorem quantityFrom_numberText {value quantity : Int} (number : IsNumber value) :
    quantityFrom (numberText value) = .ok quantity ↔
      isSafeInteger (value * quantityScale) = true ∧ quantity = value * quantityScale := by
  -- Digits alone are scaled by four zeros.
  have digits : ∀ decimal : Nat, (numberText value).toList =
      (if value < 0 then ['-'] else []) ++ (toString decimal).toList →
      (quantityFrom (numberText value) = .ok quantity ↔
        isSafeInteger (if decide (value < 0) = true then -((decimal * 10000 : Nat) : Int)
          else (decimal * 10000 : Nat)) = true ∧
          quantity = if decide (value < 0) = true then -((decimal * 10000 : Nat) : Int)
            else (decimal * 10000 : Nat)) := by
    intro decimal written
    have characters : (numberText value).toList =
        decimalText (value < 0) (toString decimal).toList [] := by
      rw [written]
      simp [decimalText]
    refine quantityFrom_decimalText characters (toString_ne_nil _)
      (fun char member => isDigit_of_mem_toString member)
      (fun _ inside => absurd inside List.not_mem_nil) (by decide) ?_
    rw [digitsValue_toString]
    have none : digitsValue (padEnd [] quantityDecimals) = 0 := by decide
    rw [none]
    simp [quantityScale]
  have unsafe_ : ∀ decimal : Int, 2 ^ 53 ≤ decimal.natAbs →
      isSafeInteger (decimal * quantityScale) ≠ true := by
    intro decimal large
    have scale : quantityScale.natAbs = 10000 := rfl
    rw [Ne, isSafeInteger_iff, Int.natAbs_mul, scale]
    omega
  rcases lt_or_ge value.natAbs (2 ^ 53) with small | large
  · have signed : (if decide (value < 0) = true then -((value.natAbs * 10000 : Nat) : Int)
        else (value.natAbs * 10000 : Nat)) = value * quantityScale := by
      have scale : quantityScale = 10000 := rfl
      rw [scale]
      by_cases negative : value < 0
      · rw [if_pos (by simpa using negative)]
        omega
      · rw [if_neg (by simpa using negative)]
        omega
    rw [digits _ (numberText_of_lt small), signed]
  · refine iff_of_false ?_ fun both => unsafe_ value large both.1
    rcases numberText_of_le number.double large with exponent | ⟨decimal, beyond, written⟩
    · exact quantityFrom_exponent exponent
    · intro read
      have safe := ((digits decimal written).mp read).1
      rw [isSafeInteger_iff] at safe
      split at safe <;> omega

/-- A quantity and its text always lead to one another.  A number agrees with its text if and
only if ten thousand times the number is a safe integer. -/
theorem quantity_codec_iff (quantity value : Int) (number : IsNumber value) :
    (isSafeInteger quantity = true →
      ∃ text, formatQuantityInNumbers quantity = .ok text ∧ quantityFrom text = .ok quantity) ∧
      (Agree (quantityFromNumber (.whole value)) (quantityFrom (numberText value)) ↔
        isSafeInteger (value * quantityScale) = true) := by
  refine ⟨?_, ?_⟩
  · intro safe
    obtain ⟨text, formatted⟩ := formatQuantity_of_isSafeInteger safe
    exact ⟨text, (formatQuantityInNumbers_eq quantity).trans formatted,
      quantityFrom_formatQuantity formatted⟩
  · constructor
    · rintro (⟨quantity, _, _, read⟩ | ⟨refused, _⟩)
      · exact ((quantityFrom_numberText number).mp read).1
      · cases refused
    · intro safe
      refine .inl ⟨_, safe, ?_, (quantityFrom_numberText number).mpr ⟨safe, rfl⟩⟩
      exact congrArg Except.ok ((multiplyNumbers_eq_whole safe).mpr rfl)

theorem quantity_codec_iff_sample :
    (isSafeInteger 15000 = true →
      ∃ text, formatQuantityInNumbers 15000 = .ok text ∧ quantityFrom text = .ok 15000) ∧
      (Agree (quantityFromNumber (.whole 12)) (quantityFrom (numberText 12)) ↔
        isSafeInteger (12 * quantityScale) = true) :=
  quantity_codec_iff 15000 12 ⟨Doubles.round_of_natAbs_le (by decide), by decide +kernel⟩

/-- The first number whose text is refused is scaled beyond the safe integers. -/
theorem number_scaled_unsafe :
    numberText 900719925475 = "900719925475" ∧
      (∃ message, quantityFrom "900719925475" = .error (.moneyError message)) ∧
      quantityFromNumber (.whole 900719925475) = .ok (.whole 9007199254750000) ∧
      IsNumber 900719925475 ∧ ¬Agree (quantityFromNumber (.whole 900719925475))
        (quantityFrom (numberText 900719925475)) := by
  refine ⟨by decide +kernel, ⟨_, rfl⟩, by decide +kernel,
    ⟨Doubles.round_of_natAbs_le (by decide), by decide +kernel⟩, ?_⟩
  rintro (⟨quantity, safe, scaled, _⟩ | ⟨refused, _⟩)
  · have product := (multiplyNumbers_eq_whole safe).mp (Except.ok.inj scaled)
    rw [product] at safe
    exact absurd safe (by decide)
  · cases refused

end MultiBrandInvoicing
