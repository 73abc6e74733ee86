import MultiBrandInvoicing.Arithmetic.Nearest
import MultiBrandInvoicing.Money.Calculation

/-!
# Where the calculation is exact

`calculate` in `packages/shared/src/money/calculation.ts` adds its last figures with the
language's `+` and `-`, which round to doubles and refuse nothing.  As long as those figures
stay in the safe range the calculation is exact; from there on it answers with figures that
are not.
-/

set_option autoImplicit false

namespace MultiBrandInvoicing

open CalculationInput

/-! ## Exact, or refused -/

def CalculationResult.header (result : CalculationResult) : CalculationResult :=
  { result with lines := [] }

def CalculationResult.amounts (result : CalculationResult) : List Int :=
  result.lines.map CalculationLineResult.lineTotalMinor ++
    [result.subtotalMinor, result.taxableBaseMinor, result.taxMinor, result.preFeeTotalMinor,
      result.cardFeeMinor, result.totalMinor, result.settledMinor, result.balanceMinor]

structure ExactAnswer (input : CalculationInput) (result : CalculationResult) : Prop where
  safe : ∀ amount ∈ result.amounts, isSafeInteger amount = true
  lineTotals : result.lines.map CalculationLineResult.lineTotalMinor = input.lines.map fun line =>
    HalfAway.nearest ((line.quantity * line.unitPriceMinor : ℚ) / 10 ^ 4)
  subtotal : result.subtotalMinor = (result.lines.map CalculationLineResult.lineTotalMinor).sum
  taxableBase : result.taxableBaseMinor = ((input.lines.filter fun line => !line.taxExempt).map
    fun line => HalfAway.nearest ((line.quantity * line.unitPriceMinor : ℚ) / 10 ^ 4)).sum
  tax : result.taxMinor =
    HalfAway.nearest ((result.taxableBaseMinor * input.taxRateBp : ℚ) / 10 ^ 4)
  cardFee : result.cardFeeMinor =
    if incursCardFee input.paymentMethod then
      HalfAway.nearest
        (((result.subtotalMinor + result.taxMinor) * input.cardFeeRateBp : ℚ) / 10 ^ 4)
    else 0
  total : result.totalMinor = result.subtotalMinor + result.taxMinor + result.cardFeeMinor
  balance : result.balanceMinor = result.totalMinor - input.settledMinor

/-- Every answer is exact, and the lines in another order give the same figures or are refused
as well. -/
def ExactOrRefused (calculation : CalculationInput → Except MoneyError CalculationResult)
    (input : CalculationInput) : Prop :=
  (∀ result, calculation input = .ok result → ExactAnswer input result) ∧
    ∀ lines, lines.Perm input.lines →
      (calculation { input with lines }).toOption.map CalculationResult.header =
        (calculation input).toOption.map CalculationResult.header

theorem nearest_quantity (product : Int) :
    HalfAway.nearest ((product : ℚ) / 10 ^ 4) = HalfAway.quotient product quantityScale := by
  rw [← HalfAway.nearest_div product (show (0 : Int) < quantityScale by decide)]
  norm_num [quantityScale]

theorem pricedLine_total (line : CalculationLineInput) :
    (pricedLine line).lineTotalMinor =
      HalfAway.nearest ((line.quantity * line.unitPriceMinor : ℚ) / 10 ^ 4) := by
  rw [← Int.cast_mul, nearest_quantity]
  rfl

theorem isSafeInteger_cardFee {input : CalculationInput} (accepted : Accepted input) :
    isSafeInteger input.cardFee = true := by
  by_cases fees : incursCardFee input.paymentMethod = true
  · exact (accepted.cardFee fees).2
  · have free : input.cardFee = 0 := if_neg fees
    rw [free]
    rfl

theorem answer_of_fits {input : CalculationInput} (fits : Fits input) :
    answer input =
      { answer input with
        preFeeTotalMinor := input.preFeeTotal
        totalMinor := input.total
        balanceMinor := input.balance } := by
  have preFee : addNumbers input.subtotal input.tax = input.preFeeTotal :=
    round_of_isSafeInteger fits.preFeeTotal
  have total : addNumbers input.preFeeTotal input.cardFee = input.total :=
    round_of_isSafeInteger fits.total
  have balance : subtractNumbers input.total input.settledMinor = input.balance :=
    round_of_isSafeInteger fits.balance
  simp only [answer, preFee, total, balance]

theorem fits_of_exactAnswer {input : CalculationInput}
    (exact_ : ExactAnswer input (answer input)) : Fits input := by
  have safe : ∀ amount ∈ [addNumbers input.subtotal input.tax,
      addNumbers (addNumbers input.subtotal input.tax) input.cardFee,
      subtractNumbers (addNumbers (addNumbers input.subtotal input.tax) input.cardFee)
        input.settledMinor], isSafeInteger amount = true := by
    intro amount member
    refine exact_.safe amount (List.mem_append_right _ ?_)
    simp only [answer, List.mem_cons, List.not_mem_nil, or_false] at member ⊢
    tauto
  simp only [List.forall_mem_cons, addNumbers, subtractNumbers, isSafeInteger_round] at safe
  -- Each figure is exact once the one before it is known to be safe.
  obtain ⟨preFee, total, balance, _⟩ := safe
  rw [round_of_isSafeInteger preFee] at total balance
  rw [round_of_isSafeInteger total] at balance
  exact ⟨preFee, total, balance⟩

theorem exactAnswer_of_fits {input : CalculationInput} (accepted : Accepted input)
    (fits : Fits input) : ExactAnswer input (answer input) := by
  rw [answer_of_fits fits]
  refine ⟨?_, ?_, rfl, ?_, ?_, ?_, rfl, rfl⟩
  · intro amount member
    rcases List.mem_append.mp member with ofLine | figure
    · simp only [answer, List.map_map, List.mem_map] at ofLine
      obtain ⟨line, listed, rfl⟩ := ofLine
      exact (accepted.lines line listed).2.2
    · simp only [answer, List.mem_cons, List.not_mem_nil, or_false] at figure
      rcases figure with rfl | rfl | rfl | rfl | rfl | rfl | rfl | rfl
      · exact accepted.subtotal
      · exact accepted.taxableBase
      · exact accepted.tax
      · exact fits.preFeeTotal
      · exact isSafeInteger_cardFee accepted
      · exact fits.total
      · exact accepted.settled
      · exact fits.balance
  · simp only [answer, List.map_map]
    exact List.map_congr_left fun line _ => pricedLine_total line
  · simp only [answer, taxableBase, linesTaxable, List.filter_map, List.map_map]
    exact congrArg List.sum (List.map_congr_left fun line _ => pricedLine_total line)
  · simp only [answer]
    rw [← Int.cast_mul, nearest_quantity]
    rfl
  · simp only [answer]
    rw [← Int.cast_add, ← Int.cast_mul, nearest_quantity]
    rfl

/-! ## The lines in another order -/

theorem answer_perm {input : CalculationInput} {lines : List CalculationLineInput}
    (perm : lines.Perm input.lines) :
    (answer { input with lines }).header = (answer input).header := by
  have subtotals : subtotal { input with lines } = input.subtotal :=
    ((perm.map _).map _).sum_eq
  have taxables : taxableBase { input with lines } = input.taxableBase :=
    (((perm.map _).filter _).map _).sum_eq
  have taxes : tax { input with lines } = input.tax :=
    congrArg (fun base => HalfAway.quotient (base * input.taxRateBp) basisPointsScale) taxables
  have fees : cardFee { input with lines } = input.cardFee := by
    simp only [cardFee, preFeeTotal, subtotals, taxes]
  simp only [CalculationResult.header, answer, subtotals, taxables, taxes, fees]

theorem accepted_perm {input : CalculationInput} {lines : List CalculationLineInput}
    (perm : lines.Perm input.lines) : Accepted { input with lines } ↔ Accepted input := by
  have oneWay : ∀ {input : CalculationInput} {lines : List CalculationLineInput},
      lines.Perm input.lines → Accepted input → Accepted { input with lines } := by
    intro input lines perm accepted
    have same := answer_perm perm
    simp only [CalculationResult.header, answer, CalculationResult.mk.injEq] at same
    obtain ⟨_, subtotals, taxables, _, taxes, _, _, fees, _⟩ := same
    have preFees : preFeeTotal { input with lines } = input.preFeeTotal := by
      rw [preFeeTotal, subtotals, taxes]
      rfl
    refine ⟨accepted.taxRate, accepted.cardFeeRate, accepted.settled,
      fun line member => accepted.lines line (perm.mem_iff.mp member), ?_, ?_, ?_, ?_⟩
    · rw [subtotals]
      exact accepted.subtotal
    · rw [taxables]
      exact accepted.taxableBase
    · rw [taxes]
      exact accepted.tax
    · rw [preFees, fees]
      exact accepted.cardFee
  exact ⟨@oneWay { input with lines } input.lines perm.symm, oneWay perm⟩

/-- The order of the lines changes neither whether an input is refused nor any figure. -/
theorem header_perm {input : CalculationInput} {lines : List CalculationLineInput}
    (perm : lines.Perm input.lines) :
    (calculate { input with lines }).toOption.map CalculationResult.header =
      (calculate input).toOption.map CalculationResult.header := by
  by_cases accepted : Accepted input
  · rw [calculate_eq_ok.mpr ⟨accepted, rfl⟩,
      calculate_eq_ok.mpr ⟨(accepted_perm perm).mpr accepted, rfl⟩]
    exact congrArg some (answer_perm perm)
  · have refused : ∀ {input : CalculationInput}, ¬Accepted input →
        (calculate input).toOption = none := by
      intro input refused
      cases answered : calculate input with
      | error error => rfl
      | ok result => exact absurd (calculate_eq_ok.mp answered).1 refused
    rw [refused accepted, refused (mt (accepted_perm perm).mp accepted)]

/-- `calculate` is exact or refuses if and only if, on an input that none of its checks refuses,
the subtotal with the tax, the total and the balance are safe integers. -/
theorem calculation_exact_iff (input : CalculationInput) :
    ExactOrRefused calculate input ↔ (Accepted input → Fits input) := by
  constructor
  · rintro ⟨exact_, _⟩ accepted
    exact fits_of_exactAnswer (exact_ _ (calculate_eq_ok.mpr ⟨accepted, rfl⟩))
  · intro fits
    refine ⟨?_, fun lines perm => header_perm perm⟩
    intro result answered
    obtain ⟨accepted, rfl⟩ := calculate_eq_ok.mp answered
    exact exactAnswer_of_fits accepted (fits accepted)

def sampleLargeInvoice : CalculationInput where
  lines := [⟨10000, 9007199254740990, true⟩, ⟨10000, 1, false⟩]
  taxRateBp := 20000
  cardFeeRateBp := 0
  paymentMethod := .manual

/-- The lines and the tax come to `2 ^ 53 + 1`, and the answer is one less. -/
theorem large_total_inexact :
    (∃ result, calculate sampleLargeInvoice = .ok result ∧
        result.totalMinor = 9007199254740992 ∧
        result.subtotalMinor + result.taxMinor + result.cardFeeMinor = 9007199254740993) ∧
      ¬ExactOrRefused calculate sampleLargeInvoice := by
  have accepted : Accepted sampleLargeInvoice := by
    refine ⟨by decide, by decide, rfl, by decide, rfl, rfl, rfl, fun incurs => ?_⟩
    cases incurs
  have answered := calculate_eq_ok.mpr ⟨accepted, rfl⟩
  refine ⟨⟨_, answered, by decide +kernel, rfl⟩, ?_⟩
  rintro ⟨exact_, _⟩
  have fits := fits_of_exactAnswer (exact_ _ answered)
  exact absurd fits.preFeeTotal (by decide)

end MultiBrandInvoicing
