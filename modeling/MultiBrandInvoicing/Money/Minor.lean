import MultiBrandInvoicing.Arithmetic.HalfAway

/-!
# Money in integer minor units

`packages/shared/src/money/money.ts`.  Amounts are signed counts of a currency's
minor unit and rates are counts of basis points, so both are integers here and the
integrality checks of the source hold by type; the range checks are kept.  Amounts
outside the safe range are refused wherever the source refuses them and nowhere
else.
-/

set_option autoImplicit false

namespace MultiBrandInvoicing

inductive MoneyError where
  | moneyError (message : String)
  | rangeError (message : String)
  deriving DecidableEq, Repr

inductive CurrencyCode where
  | usd | cad | eur | gbp | pkr
  deriving DecidableEq, Repr

def CurrencyCode.code : CurrencyCode → String
  | .usd => "USD"
  | .cad => "CAD"
  | .eur => "EUR"
  | .gbp => "GBP"
  | .pkr => "PKR"

def supportedCurrencies : List CurrencyCode := [.usd, .cad, .eur, .gbp, .pkr]

def minorUnitExponent : CurrencyCode → Nat
  | .usd => 2
  | .cad => 2
  | .eur => 2
  | .gbp => 2
  | .pkr => 2

def supportedCurrency? (value : String) : Option CurrencyCode :=
  supportedCurrencies.find? fun currency => currency.code = value

def toCurrencyCode (value : String) (fallback : CurrencyCode := .usd) : CurrencyCode :=
  (supportedCurrency? value).getD fallback

def maxSafeInteger : Int := 9007199254740991

def isSafeInteger (value : Int) : Bool := -maxSafeInteger ≤ value && value ≤ maxSafeInteger

def assertMinor (value : Int) (label : String) : Except MoneyError Int :=
  if isSafeInteger value then .ok value
  else .error (.moneyError s!"{label} exceeds the safe integer range: {value}")

def assertBasisPoints (value : Int) (label : String) : Except MoneyError Int :=
  if value < 0 then .error (.moneyError s!"{label} must not be negative, received {value}")
  else .ok value

def toSafeNumber (value : Int) (label : String) : Except MoneyError Int :=
  if isSafeInteger value then .ok value
  else .error (.moneyError s!"{label} overflows the safe integer range: {value}")

/-- The body of `divideRoundHalfUp` once the denominator is positive. -/
def roundedQuotient (numerator denominator : Int) : Int :=
  let magnitude := if numerator < 0 then -numerator else numerator
  let rounded := (magnitude * 2 + denominator) / (denominator * 2)
  if numerator < 0 then -rounded else rounded

def divideRoundHalfUp (numerator denominator : Int) : Except MoneyError Int :=
  if denominator = 0 then .error (.moneyError "division by zero")
  else if denominator < 0 then .ok (roundedQuotient (-numerator) (-denominator))
  else .ok (roundedQuotient numerator denominator)

def basisPointsScale : Int := 10000

def applyBasisPoints (amount rateBp : Int) : Except MoneyError Int := do
  let amount ← assertMinor amount "amount"
  let rateBp ← assertBasisPoints rateBp "rate"
  let result ← divideRoundHalfUp (amount * rateBp) basisPointsScale
  toSafeNumber result "rate application"

/-! ## Decimal text -/

def isTrimmed (char : Char) : Bool :=
  [0x9, 0xA, 0xB, 0xC, 0xD, 0x20, 0xA0, 0x1680, 0x2028, 0x2029, 0x202F, 0x205F, 0x3000,
    0xFEFF].contains char.toNat || (0x2000 ≤ char.toNat && char.toNat ≤ 0x200A)

def trim (text : List Char) : List Char :=
  ((text.dropWhile isTrimmed).reverse.dropWhile isTrimmed).reverse

/-- The groups of `/^(-)?(\d+)(?:\.(\d+))?$/`: sign, whole digits, fraction digits. -/
def decimalGroups? (text : List Char) : Option (Bool × List Char × List Char) :=
  let negative := text.head? = some '-'
  let body := if negative then text.tail else text
  let whole := body.takeWhile Char.isDigit
  if whole.isEmpty then none
  else
    match body.dropWhile Char.isDigit with
    | [] => some (negative, whole, [])
    | '.' :: fraction =>
        if fraction.isEmpty || !fraction.all Char.isDigit then none
        else some (negative, whole, fraction)
    | _ => none

def digitsValue (digits : List Char) : Int :=
  digits.foldl (fun value digit => value * 10 + (digit.toNat - '0'.toNat : Nat)) 0

def padEnd (digits : List Char) (width : Nat) : List Char :=
  digits ++ List.replicate (width - digits.length) '0'

def parseMinor (input : String) (currency : CurrencyCode) : Except MoneyError Int :=
  let exponent := minorUnitExponent currency
  let trimmed := (trim input.toList).filter fun char => char != ','
  match decimalGroups? trimmed with
  | none => .error (.moneyError s!"\"{input}\" is not a valid decimal amount")
  | some (negative, whole, fraction) =>
      if exponent < fraction.length then
        .error (.moneyError (s!"\"{input}\" carries more precision than {currency.code} " ++
          s!"supports ({exponent} decimals)"))
      else
        let value := digitsValue whole * 10 ^ exponent + digitsValue (padEnd fraction exponent)
        toSafeNumber (if negative then -value else value) "parsed amount"

def padStart (text : String) (width : Nat) : String :=
  String.ofList (List.replicate (width - text.length) '0') ++ text

def formatMinor (amount : Int) (currency : CurrencyCode) : Except MoneyError String := do
  let amount ← assertMinor amount "amount"
  let exponent := minorUnitExponent currency
  let divisor : Nat := 10 ^ exponent
  let major := amount.natAbs / divisor
  let minor := padStart (toString (amount.natAbs % divisor)) exponent
  let sign := if amount < 0 then "-" else ""
  return s!"{sign}{major}.{minor}"

example : parseMinor " 1,234.5 " .usd = .ok 123450 := by decide

/-! ## What the arithmetic guarantees -/

theorem bind_ok {ε α β : Type} {first : Except ε α} {next : α → Except ε β} {result : β}
    (success : first >>= next = .ok result) :
    ∃ value, first = .ok value ∧ next value = .ok result := by
  cases first with
  | error error => cases success
  | ok value => exact ⟨value, rfl, success⟩

theorem bind_eq_ok {ε α β : Type} {first : Except ε α} {next : α → Except ε β} {result : β} :
    first >>= next = .ok result ↔ ∃ value, first = .ok value ∧ next value = .ok result := by
  refine ⟨bind_ok, ?_⟩
  rintro ⟨value, rfl, rest⟩
  exact rest

theorem ite_eq_ok {ε α : Type} {condition : Prop} [Decidable condition] {error : ε}
    {value result : α} :
    (if condition then Except.ok value else .error error) = .ok result ↔
      condition ∧ result = value := by
  split
  case isTrue holds => simp [holds, eq_comm]
  case isFalse fails => simp [fails]

theorem roundedQuotient_eq (numerator : Int) {denominator : Int} (positive : 0 < denominator) :
    roundedQuotient numerator denominator = HalfAway.quotient numerator denominator := by
  by_cases negative : numerator < 0
  · have flipped := HalfAway.quotient_neg numerator denominator
    rw [HalfAway.quotient_of_nonneg positive (by omega)] at flipped
    simp only [roundedQuotient, negative, if_true]
    omega
  · rw [HalfAway.quotient_of_nonneg positive (by omega)]
    simp [roundedQuotient, negative]

theorem divideRoundHalfUp_pos (numerator : Int) {denominator : Int}
    (positive : 0 < denominator) :
    divideRoundHalfUp numerator denominator =
      .ok (HalfAway.quotient numerator denominator) := by
  have nonzero : denominator ≠ 0 := by omega
  have notNegative : ¬denominator < 0 := by omega
  simp [divideRoundHalfUp, nonzero, notNegative, roundedQuotient_eq numerator positive]

/-- A divisor below zero turns both signs. -/
theorem divideRoundHalfUp_neg (numerator : Int) {denominator : Int}
    (positive : 0 < denominator) :
    divideRoundHalfUp numerator (-denominator) =
      .ok (-HalfAway.quotient numerator denominator) := by
  have nonzero : -denominator ≠ 0 := by omega
  have negative : -denominator < 0 := by omega
  rw [divideRoundHalfUp, if_neg nonzero, if_pos negative, Int.neg_neg,
    roundedQuotient_eq (-numerator) positive, HalfAway.quotient_neg]

/-- The quotient is the nearest integer, an exact half goes away from zero, and the sign of
either operand is the sign of the result. -/
theorem divideRoundHalfUp_spec (numerator denominator : Int) (nonzero : denominator ≠ 0) :
    ∃ quotient, divideRoundHalfUp numerator denominator = .ok quotient ∧
      2 * |numerator - quotient * denominator| ≤ |denominator| ∧
      (2 * |numerator - quotient * denominator| = |denominator| →
        |numerator| < |quotient * denominator|) ∧
      divideRoundHalfUp (-numerator) denominator = .ok (-quotient) ∧
      divideRoundHalfUp numerator (-denominator) = .ok (-quotient) := by
  rcases lt_or_gt_of_ne nonzero with negative | positive
  · obtain ⟨size, rfl⟩ : ∃ size, denominator = -size := ⟨-denominator, by omega⟩
    have positive : 0 < size := by omega
    obtain ⟨near, half⟩ := HalfAway.quotient_near (n := numerator) positive
    have reached : -HalfAway.quotient numerator size * -size =
        HalfAway.quotient numerator size * size := Int.neg_mul_neg _ _
    refine ⟨_, divideRoundHalfUp_neg numerator positive, ?_⟩
    rw [reached, abs_neg, abs_of_pos positive, Int.neg_neg, Int.neg_neg,
      divideRoundHalfUp_neg (-numerator) positive, HalfAway.quotient_neg, Int.neg_neg]
    exact ⟨near, half, rfl, divideRoundHalfUp_pos numerator positive⟩
  · obtain ⟨near, half⟩ := HalfAway.quotient_near (n := numerator) positive
    refine ⟨_, divideRoundHalfUp_pos numerator positive, ?_⟩
    rw [abs_of_pos positive, divideRoundHalfUp_pos (-numerator) positive, HalfAway.quotient_neg]
    exact ⟨near, half, rfl, divideRoundHalfUp_neg numerator positive⟩

theorem divideRoundHalfUp_spec_sample :
    ∃ quotient, divideRoundHalfUp (-5) 2 = .ok quotient ∧
      2 * |-5 - quotient * 2| ≤ |2| ∧
      (2 * |-5 - quotient * 2| = |2| → |-5| < |quotient * 2|) ∧
      divideRoundHalfUp (- -5) 2 = .ok (-quotient) ∧
      divideRoundHalfUp (-5) (-2) = .ok (-quotient) :=
  divideRoundHalfUp_spec (-5) 2 (by decide)

theorem assertMinor_eq_ok {value result : Int} {label : String} :
    assertMinor value label = .ok result ↔ isSafeInteger value = true ∧ result = value :=
  ite_eq_ok

theorem assertBasisPoints_eq_ok {value result : Int} {label : String} :
    assertBasisPoints value label = .ok result ↔ 0 ≤ value ∧ result = value := by
  unfold assertBasisPoints
  split
  case isTrue negative => simp [negative]
  case isFalse nonneg => simp [not_lt.mp nonneg, eq_comm]

theorem toSafeNumber_eq_ok {value result : Int} {label : String} :
    toSafeNumber value label = .ok result ↔ isSafeInteger value = true ∧ result = value :=
  ite_eq_ok

theorem applyBasisPoints_eq_ok {amount rateBp result : Int} :
    applyBasisPoints amount rateBp = .ok result ↔
      isSafeInteger amount = true ∧ 0 ≤ rateBp ∧
        isSafeInteger (HalfAway.quotient (amount * rateBp) basisPointsScale) = true ∧
        result = HalfAway.quotient (amount * rateBp) basisPointsScale := by
  simp only [applyBasisPoints, bind_eq_ok, assertMinor_eq_ok, assertBasisPoints_eq_ok,
    divideRoundHalfUp_pos _ (show (0 : Int) < basisPointsScale by decide), toSafeNumber_eq_ok,
    Except.ok.injEq]
  constructor
  · rintro ⟨_, ⟨safe, rfl⟩, _, ⟨nonneg, rfl⟩, _, rfl, fits, rfl⟩
    exact ⟨safe, nonneg, fits, rfl⟩
  · rintro ⟨safe, nonneg, fits, rfl⟩
    exact ⟨_, ⟨safe, rfl⟩, _, ⟨nonneg, rfl⟩, _, rfl, fits, rfl⟩

theorem applyBasisPoints_ok {amount rateBp result : Int}
    (applied : applyBasisPoints amount rateBp = .ok result) :
    0 ≤ rateBp ∧ result = HalfAway.quotient (amount * rateBp) basisPointsScale := by
  obtain ⟨_, rate, _, exact_⟩ := applyBasisPoints_eq_ok.mp applied
  exact ⟨rate, exact_⟩

theorem applyBasisPoints_nonneg {amount rateBp result : Int} (nonneg : 0 ≤ amount)
    (applied : applyBasisPoints amount rateBp = .ok result) : 0 ≤ result := by
  obtain ⟨rate, exact_⟩ := applyBasisPoints_ok applied
  rw [exact_]
  exact HalfAway.quotient_nonneg (by decide) (Int.mul_nonneg nonneg rate)

end MultiBrandInvoicing
