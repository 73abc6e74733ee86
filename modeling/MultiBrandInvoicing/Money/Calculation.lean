import MultiBrandInvoicing.Money.Numbers

/-!
# Quantities and the invoice calculation

`packages/shared/src/money/quantity.ts` and `calculation.ts`.  Rounding happens at
the three points the source marks: once for each line, once for the tax and once
for the card fee.  The two sums the source range-checks are checked here; its last three
figures are added with the `+` and the `-` of the language, which round and refuse nothing.
-/

set_option autoImplicit false

namespace MultiBrandInvoicing

def quantityScale : Int := 10000

def quantityDecimals : Nat := 4

def assertQuantity (value : Int) (label : String) : Except MoneyError Int :=
  if isSafeInteger value then .ok value
  else .error (.moneyError s!"{label} exceeds the safe integer range: {value}")

/-- `quantityFrom` on text, the only form the API accepts. -/
def quantityFrom (input : String) : Except MoneyError Int :=
  match decimalGroups? (trim input.toList) with
  | none => .error (.moneyError s!"\"{input}\" is not a valid quantity")
  | some (negative, whole, fraction) =>
      if quantityDecimals < fraction.length then
        .error (.moneyError (s!"\"{input}\" carries more than {quantityDecimals} " ++
          "decimal places of quantity precision"))
      else
        let value := digitsValue whole * quantityScale +
          digitsValue (padEnd fraction quantityDecimals)
        let signed := if negative then -value else value
        if isSafeInteger signed then .ok signed
        else .error (.moneyError s!"quantity \"{input}\" overflows the safe integer range")

def formatQuantity (quantity : Int) : Except MoneyError String := do
  let quantity ← assertQuantity quantity "quantity"
  let whole := quantity.natAbs / quantityScale.natAbs
  let digits := padStart (toString (quantity.natAbs % quantityScale.natAbs)) quantityDecimals
  let fraction := (digits.toList.reverse.dropWhile fun digit => digit = '0').reverse
  let sign := if quantity < 0 then "-" else ""
  let decimals := if fraction.isEmpty then "" else "." ++ String.ofList fraction
  return s!"{sign}{whole}{decimals}"

example : formatQuantity (-15000) = .ok "-1.5" := by decide

inductive PaymentMethod where
  | card | wallet | ach | check | manual
  deriving DecidableEq, Repr

def PaymentMethod.code : PaymentMethod → String
  | .card => "CARD"
  | .wallet => "WALLET"
  | .ach => "ACH"
  | .check => "CHECK"
  | .manual => "MANUAL"

def incursCardFee : PaymentMethod → Bool
  | .card => true
  | .wallet => true
  | .ach => false
  | .check => false
  | .manual => false

structure CalculationLineInput where
  quantity : Int
  unitPriceMinor : Int
  taxExempt : Bool
  deriving DecidableEq, Repr

structure CalculationInput where
  lines : List CalculationLineInput
  taxRateBp : Int
  cardFeeRateBp : Int
  paymentMethod : PaymentMethod
  settledMinor : Int := 0
  deriving DecidableEq, Repr

structure CalculationLineResult where
  lineTotalMinor : Int
  taxExempt : Bool
  deriving DecidableEq, Repr

structure CalculationResult where
  lines : List CalculationLineResult
  subtotalMinor : Int
  taxableBaseMinor : Int
  taxRateBpApplied : Int
  taxMinor : Int
  preFeeTotalMinor : Int
  cardFeeRateBpApplied : Int
  cardFeeMinor : Int
  cardFeeApplied : Bool
  totalMinor : Int
  settledMinor : Int
  balanceMinor : Int
  deriving DecidableEq, Repr

def calculateLineTotal (quantity unitPriceMinor : Int) : Except MoneyError Int := do
  let quantity ← assertQuantity quantity "quantity"
  let unitPriceMinor ← assertMinor unitPriceMinor "unit price"
  let rounded ← divideRoundHalfUp (quantity * unitPriceMinor) quantityScale
  if isSafeInteger rounded then .ok rounded
  else .error (.rangeError s!"line total overflows the safe integer range: {rounded}")

def sum (values : List Int) : Except MoneyError Int := do
  let values ← values.mapM fun value => assertMinor value "amount"
  let total := values.sum
  if isSafeInteger total then .ok total
  else .error (.rangeError s!"sum overflows the safe integer range: {total}")

def calculate (input : CalculationInput) : Except MoneyError CalculationResult := do
  let taxRateBp ← assertBasisPoints input.taxRateBp "tax rate"
  let cardFeeRateBp ← assertBasisPoints input.cardFeeRateBp "card fee rate"
  let settledMinor ← assertMinor input.settledMinor "settled amount"
  let lines ← input.lines.mapM fun line => do
    let lineTotalMinor ← calculateLineTotal line.quantity line.unitPriceMinor
    return ({ lineTotalMinor, taxExempt := line.taxExempt } : CalculationLineResult)
  let subtotalMinor ← sum (lines.map CalculationLineResult.lineTotalMinor)
  let taxableBaseMinor ←
    sum ((lines.filter fun line => !line.taxExempt).map CalculationLineResult.lineTotalMinor)
  let taxMinor ← applyBasisPoints taxableBaseMinor taxRateBp
  let preFeeTotalMinor := addNumbers subtotalMinor taxMinor
  let cardFeeApplied := incursCardFee input.paymentMethod
  let cardFee :=
    if cardFeeApplied then applyBasisPoints preFeeTotalMinor cardFeeRateBp else .ok 0
  let cardFeeMinor ← cardFee
  let totalMinor := addNumbers preFeeTotalMinor cardFeeMinor
  return {
    lines, subtotalMinor, taxableBaseMinor, taxRateBpApplied := taxRateBp, taxMinor,
    preFeeTotalMinor, cardFeeRateBpApplied := cardFeeRateBp, cardFeeMinor, cardFeeApplied,
    totalMinor, settledMinor, balanceMinor := subtractNumbers totalMinor settledMinor }

/-! ## When each step succeeds -/

theorem assertQuantity_eq_ok {value result : Int} {label : String} :
    assertQuantity value label = .ok result ↔ isSafeInteger value = true ∧ result = value :=
  ite_eq_ok

theorem calculateLineTotal_eq_ok {quantity unitPriceMinor result : Int} :
    calculateLineTotal quantity unitPriceMinor = .ok result ↔
      isSafeInteger quantity = true ∧ isSafeInteger unitPriceMinor = true ∧
        isSafeInteger (HalfAway.quotient (quantity * unitPriceMinor) quantityScale) = true ∧
        result = HalfAway.quotient (quantity * unitPriceMinor) quantityScale := by
  simp only [calculateLineTotal, bind_eq_ok, assertMinor_eq_ok, assertQuantity_eq_ok,
    divideRoundHalfUp_pos _ (show (0 : Int) < quantityScale by decide), Except.ok.injEq, ite_eq_ok]
  constructor
  · rintro ⟨_, ⟨safe, rfl⟩, _, ⟨safePrice, rfl⟩, _, rfl, fits, rfl⟩
    exact ⟨safe, safePrice, fits, rfl⟩
  · rintro ⟨safe, safePrice, fits, rfl⟩
    exact ⟨_, ⟨safe, rfl⟩, _, ⟨safePrice, rfl⟩, _, rfl, fits, rfl⟩

theorem mapM_eq_ok {ε α β : Type} {step : α → Except ε β} {P : α → Prop} {exact_ : α → β}
    (steps : ∀ value result, step value = .ok result ↔ P value ∧ result = exact_ value)
    (values : List α) (results : List β) :
    values.mapM step = .ok results ↔
      (∀ value ∈ values, P value) ∧ results = values.map exact_ := by
  induction values generalizing results with
  | nil => simp [pure, Except.pure, eq_comm]
  | cons value rest ih =>
      rw [List.mapM_cons]
      simp only [bind_eq_ok, steps, ih, pure, Except.pure, Except.ok.injEq, List.forall_mem_cons,
        List.map_cons]
      constructor
      · rintro ⟨_, ⟨first, rfl⟩, _, ⟨others, rfl⟩, rfl⟩
        exact ⟨⟨first, others⟩, rfl⟩
      · rintro ⟨⟨first, others⟩, rfl⟩
        exact ⟨_, ⟨first, rfl⟩, _, ⟨others, rfl⟩, rfl⟩

theorem mapM_length {ε α β : Type} {step : α → Except ε β} {values : List α} {results : List β}
    (success : values.mapM step = .ok results) : results.length = values.length := by
  induction values generalizing results with
  | nil => cases success; rfl
  | cons value rest ih =>
      rw [List.mapM_cons] at success
      obtain ⟨head, _, success⟩ := bind_ok success
      obtain ⟨tail, others, success⟩ := bind_ok success
      cases success
      simp [ih others]

/-! ## The exact figures of an input -/

def pricedLine (line : CalculationLineInput) : CalculationLineResult where
  lineTotalMinor := HalfAway.quotient (line.quantity * line.unitPriceMinor) quantityScale
  taxExempt := line.taxExempt

def linesSubtotal (lines : List CalculationLineInput) : Int :=
  ((lines.map pricedLine).map CalculationLineResult.lineTotalMinor).sum

def linesTaxable (lines : List CalculationLineInput) : Int :=
  (((lines.map pricedLine).filter fun line => !line.taxExempt).map
    CalculationLineResult.lineTotalMinor).sum

def linesTax (lines : List CalculationLineInput) (taxRateBp : Int) : Int :=
  HalfAway.quotient (linesTaxable lines * taxRateBp) basisPointsScale

/-- What the lines come to before any card fee, as the calculation adds it. -/
def linesWorth (lines : List CalculationLineInput) (taxRateBp : Int) : Int :=
  addNumbers (linesSubtotal lines) (linesTax lines taxRateBp)

namespace CalculationInput

def subtotal (input : CalculationInput) : Int := linesSubtotal input.lines

def taxableBase (input : CalculationInput) : Int := linesTaxable input.lines

def tax (input : CalculationInput) : Int := linesTax input.lines input.taxRateBp

def preFeeTotal (input : CalculationInput) : Int := input.subtotal + input.tax

def cardFee (input : CalculationInput) : Int :=
  if incursCardFee input.paymentMethod then
    HalfAway.quotient (input.preFeeTotal * input.cardFeeRateBp) basisPointsScale
  else 0

def total (input : CalculationInput) : Int := input.preFeeTotal + input.cardFee

def balance (input : CalculationInput) : Int := input.total - input.settledMinor

structure Accepted (input : CalculationInput) : Prop where
  taxRate : 0 ≤ input.taxRateBp
  cardFeeRate : 0 ≤ input.cardFeeRateBp
  settled : isSafeInteger input.settledMinor = true
  lines : ∀ line ∈ input.lines, isSafeInteger line.quantity = true ∧
    isSafeInteger line.unitPriceMinor = true ∧
    isSafeInteger (pricedLine line).lineTotalMinor = true
  subtotal : isSafeInteger input.subtotal = true
  taxableBase : isSafeInteger input.taxableBase = true
  tax : isSafeInteger input.tax = true
  cardFee : incursCardFee input.paymentMethod = true →
    isSafeInteger input.preFeeTotal = true ∧ isSafeInteger input.cardFee = true

/-- The three figures that nothing checks are safe all the same. -/
structure Fits (input : CalculationInput) : Prop where
  preFeeTotal : isSafeInteger input.preFeeTotal = true
  total : isSafeInteger input.total = true
  balance : isSafeInteger input.balance = true

/-- What `calculate` answers when it accepts. -/
def answer (input : CalculationInput) : CalculationResult where
  lines := input.lines.map pricedLine
  subtotalMinor := input.subtotal
  taxableBaseMinor := input.taxableBase
  taxRateBpApplied := input.taxRateBp
  taxMinor := input.tax
  preFeeTotalMinor := addNumbers input.subtotal input.tax
  cardFeeRateBpApplied := input.cardFeeRateBp
  cardFeeMinor := input.cardFee
  cardFeeApplied := incursCardFee input.paymentMethod
  totalMinor := addNumbers (addNumbers input.subtotal input.tax) input.cardFee
  settledMinor := input.settledMinor
  balanceMinor :=
    subtractNumbers (addNumbers (addNumbers input.subtotal input.tax) input.cardFee)
      input.settledMinor

end CalculationInput

open CalculationInput

theorem sum_eq_ok {values : List Int} {total : Int} :
    sum values = .ok total ↔ (∀ value ∈ values, isSafeInteger value = true) ∧
      isSafeInteger values.sum = true ∧ total = values.sum := by
  simp only [sum, bind_eq_ok, mapM_eq_ok (fun _ _ => assertMinor_eq_ok), ite_eq_ok, List.map_id']
  constructor
  · rintro ⟨_, ⟨safe, rfl⟩, fits, rfl⟩
    exact ⟨safe, fits, rfl⟩
  · rintro ⟨safe, fits, rfl⟩
    exact ⟨_, ⟨safe, rfl⟩, fits, rfl⟩

/-- Each line is priced where its quantity, its price and its total are safe. -/
theorem priceLines_eq_ok {lines : List CalculationLineInput}
    {results : List CalculationLineResult} :
    (lines.mapM fun line => do
        let lineTotalMinor ← calculateLineTotal line.quantity line.unitPriceMinor
        return ({ lineTotalMinor, taxExempt := line.taxExempt } : CalculationLineResult)) =
      .ok results ↔
      (∀ line ∈ lines, isSafeInteger line.quantity = true ∧
        isSafeInteger line.unitPriceMinor = true ∧
        isSafeInteger (pricedLine line).lineTotalMinor = true) ∧
      results = lines.map pricedLine := by
  refine mapM_eq_ok ?_ lines results
  intro line result
  simp only [bind_eq_ok, calculateLineTotal_eq_ok, pure, Except.pure, Except.ok.injEq]
  constructor
  · rintro ⟨_, ⟨quantity, price, fits, rfl⟩, rfl⟩
    exact ⟨⟨quantity, price, fits⟩, rfl⟩
  · rintro ⟨⟨quantity, price, fits⟩, rfl⟩
    exact ⟨_, ⟨quantity, price, fits, rfl⟩, rfl⟩

theorem cardFee_eq_ok {input : CalculationInput} {fee : Int} (rate : 0 ≤ input.cardFeeRateBp) :
    (if incursCardFee input.paymentMethod then
        applyBasisPoints (addNumbers input.subtotal input.tax) input.cardFeeRateBp
      else .ok 0) = .ok fee ↔
      (incursCardFee input.paymentMethod = true →
        isSafeInteger input.preFeeTotal = true ∧ isSafeInteger input.cardFee = true) ∧
      fee = input.cardFee := by
  by_cases fees : incursCardFee input.paymentMethod = true
  · have taken : input.cardFee =
        HalfAway.quotient (input.preFeeTotal * input.cardFeeRateBp) basisPointsScale := if_pos fees
    have asked : isSafeInteger (addNumbers input.subtotal input.tax) =
        isSafeInteger input.preFeeTotal := isSafeInteger_round _
    rw [if_pos fees, applyBasisPoints_eq_ok, asked, taken, forall_prop_of_true fees, and_assoc]
    refine and_congr_right fun safe => ?_
    rw [and_iff_right rate]
    have same : addNumbers input.subtotal input.tax = input.preFeeTotal :=
      addNumbers_of_safe safe
    rw [same]
  · have free : input.cardFee = 0 := if_neg fees
    rw [if_neg fees, free, Except.ok.injEq, eq_comm]
    exact (and_iff_right fun incurs => absurd incurs fees).symm

theorem calculate_eq_ok {input : CalculationInput} {result : CalculationResult} :
    calculate input = .ok result ↔ Accepted input ∧ result = answer input := by
  simp only [calculate, bind_eq_ok, assertBasisPoints_eq_ok,
    assertMinor_eq_ok, priceLines_eq_ok, sum_eq_ok, applyBasisPoints_eq_ok]
  simp only [pure, Except.pure, Except.ok.injEq]
  constructor
  · rintro ⟨_, ⟨taxRate, rfl⟩, _, ⟨feeRate, rfl⟩, _, ⟨settled, rfl⟩, _, ⟨lines, rfl⟩, _,
      ⟨_, subtotal, rfl⟩, _, ⟨_, taxable, rfl⟩, _, ⟨_, _, tax, rfl⟩, fee, charged, rfl⟩
    obtain ⟨fits, rfl⟩ := (cardFee_eq_ok feeRate).mp charged
    exact ⟨⟨taxRate, feeRate, settled, lines, subtotal, taxable, tax, fits⟩, rfl⟩
  · rintro ⟨accepted, rfl⟩
    have safe : ∀ total ∈ (input.lines.map pricedLine).map CalculationLineResult.lineTotalMinor,
        isSafeInteger total = true := by
      simp only [List.map_map, List.mem_map, forall_exists_index, and_imp]
      rintro _ line member rfl
      exact (accepted.lines line member).2.2
    have safeTaxable : ∀ total ∈ ((input.lines.map pricedLine).filter fun line =>
        !line.taxExempt).map CalculationLineResult.lineTotalMinor, isSafeInteger total = true :=
      fun total member => safe total (List.map_subset _ (List.filter_subset_self _) member)
    exact ⟨_, ⟨accepted.taxRate, rfl⟩, _, ⟨accepted.cardFeeRate, rfl⟩, _,
      ⟨accepted.settled, rfl⟩, _, ⟨accepted.lines, rfl⟩, _, ⟨safe, accepted.subtotal, rfl⟩, _,
      ⟨safeTaxable, accepted.taxableBase, rfl⟩, _,
      ⟨accepted.taxableBase, accepted.taxRate, accepted.tax, rfl⟩, _,
      (cardFee_eq_ok accepted.cardFeeRate).mpr ⟨accepted.cardFee, rfl⟩, rfl⟩

/-! ## What a quotation comes to -/

/-- A price with the card fee on it, before the two are added. -/
def withFee (price rateBp : Int) : Int :=
  price + HalfAway.quotient (price * rateBp) basisPointsScale

@[simp] theorem linesWorth_nil (taxRateBp : Int) : linesWorth [] taxRateBp = 0 := by
  simp [linesWorth, linesSubtotal, linesTax, linesTaxable, HalfAway.quotient, addNumbers,
    Doubles.round]

theorem withFee_zero (rateBp : Int) : withFee 0 rateBp = 0 := by
  simp [withFee, HalfAway.quotient]

theorem withFee_injective {rateBp : Int} (nonneg : 0 ≤ rateBp) {first second : Int}
    (same : withFee first rateBp = withFee second rateBp) : first = second := by
  have mono : ∀ {small large : Int}, small ≤ large →
      HalfAway.quotient (small * rateBp) basisPointsScale ≤
        HalfAway.quotient (large * rateBp) basisPointsScale := fun le =>
    HalfAway.quotient_mono (by decide) (Int.mul_le_mul_of_nonneg_right le nonneg)
  unfold withFee at same
  rcases le_total first second with le | ge
  · have := mono le
    omega
  · have := mono ge
    omega

theorem calculate_worth {input : CalculationInput} {result : CalculationResult}
    (success : calculate input = .ok result) :
    result.preFeeTotalMinor = linesWorth input.lines input.taxRateBp := by
  obtain ⟨_, rfl⟩ := calculate_eq_ok.mp success
  rfl

theorem calculate_total {input : CalculationInput} {result : CalculationResult}
    (success : calculate input = .ok result) :
    result.totalMinor = addNumbers result.preFeeTotalMinor result.cardFeeMinor := by
  obtain ⟨_, rfl⟩ := calculate_eq_ok.mp success
  rfl

theorem calculate_feeless {input : CalculationInput} {result : CalculationResult}
    (success : calculate input = .ok result)
    (feeless : incursCardFee input.paymentMethod = false) : result.cardFeeMinor = 0 := by
  obtain ⟨_, rfl⟩ := calculate_eq_ok.mp success
  exact if_neg (by rw [feeless]; decide)

/-- The fee is taken of the price, which is a safe integer wherever a fee is taken. -/
theorem calculate_fee {input : CalculationInput} {result : CalculationResult}
    (success : calculate input = .ok result) (fees : incursCardFee input.paymentMethod = true) :
    applyBasisPoints result.preFeeTotalMinor input.cardFeeRateBp = .ok result.cardFeeMinor := by
  obtain ⟨accepted, rfl⟩ := calculate_eq_ok.mp success
  have charged := (cardFee_eq_ok accepted.cardFeeRate).mpr ⟨accepted.cardFee, rfl⟩
  rwa [if_pos fees] at charged

/-- What is asked for with a fee is the price with the fee on it, as a number. -/
theorem calculate_charge {input : CalculationInput} {result : CalculationResult}
    (success : calculate input = .ok result) (fees : incursCardFee input.paymentMethod = true) :
    result.totalMinor =
      toNumber (withFee (linesWorth input.lines input.taxRateBp) input.cardFeeRateBp) := by
  obtain ⟨_, _, _, fee⟩ := applyBasisPoints_eq_ok.mp (calculate_fee success fees)
  rw [calculate_total success, fee, calculate_worth success]
  rfl

theorem calculate_uncharged {input : CalculationInput} {result : CalculationResult}
    (success : calculate input = .ok result)
    (feeless : incursCardFee input.paymentMethod = false) :
    result.totalMinor = linesWorth input.lines input.taxRateBp := by
  rw [calculate_total success, calculate_feeless success feeless, calculate_worth success]
  exact addNumbers_zero (isDouble_addNumbers _ _)

end MultiBrandInvoicing
