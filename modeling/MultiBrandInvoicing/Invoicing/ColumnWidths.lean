import MultiBrandInvoicing.Invoicing.Creation
import MultiBrandInvoicing.Money.QuantityNumbers

/-!
# What the columns of an invoice hold

The drafts `invoiceDraftSchema` accepts, as far as their numbers go, and the values `create`
writes for them.  Amounts are safe integers or sums of a few, and fit their columns; a quantity
has no limit but that of its scaled value, and the column for it is narrower.
-/

set_option autoImplicit false

namespace MultiBrandInvoicing

namespace Invoicing

open ReadCommitted Program

/-- `quantityStringSchema`, `/^\d+(\.\d{1,4})?$/`. -/
def isQuantityString (text : String) : Bool :=
  match decimalGroups? text.toList with
  | some (negative, _, fraction) => !negative && fraction.length ≤ 4
  | none => false

/-- `decimalAmountStringSchema`, `/^-?\d+(\.\d{1,2})?$/`. -/
def isDecimalAmountString (text : String) : Bool :=
  match decimalGroups? text.toList with
  | some (_, _, fraction) => fraction.length ≤ 2
  | none => false

def isBasisPoints (rate : Int) : Bool := 0 ≤ rate && rate ≤ 100000

/-- What `invoiceDraftSchema` asks of the lines, the rates and the dates; its limits on texts bear
on no number. -/
structure AcceptedDraft (draft : Draft) : Prop where
  lines : draft.lines ≠ []
  quantities : ∀ line ∈ draft.lines, isQuantityString line.quantity = true
  unitPrices : ∀ line ∈ draft.lines, isDecimalAmountString line.unitPrice = true
  taxRate : isBasisPoints draft.taxRateBp = true
  cardFeeRate : isBasisPoints draft.cardFeeRateBp = true
  dueDate : draft.invoiceDate ≤ draft.dueDate

/-! ## Amounts -/

theorem isInt4_iff {value : Int} :
    isInt4 value = true ↔ -2147483648 ≤ value ∧ value ≤ 2147483647 := by
  simp [isInt4]

theorem isInt8_of_natAbs {value : Int} (small : value.natAbs < 2 ^ 63) : isInt8 value = true := by
  have bounds : isInt8 value = true ↔
      -9223372036854775808 ≤ value ∧ value ≤ 9223372036854775807 := by
    simp [isInt8]
  rw [bounds]
  omega

theorem isInt8_of_isSafeInteger {value : Int} (safe : isSafeInteger value = true) :
    isInt8 value = true := by
  have small := isSafeInteger_iff.mp safe
  exact isInt8_of_natAbs (by omega)

theorem isInt4_of_isBasisPoints {rate : Int} (accepted : isBasisPoints rate = true) :
    isInt4 rate = true := by
  have bounds : 0 ≤ rate ∧ rate ≤ 100000 := by simpa [isBasisPoints] using accepted
  exact isInt4_iff.mpr (by omega)

open CalculationInput in
/-- Two roundings leave the total of two safe amounts far from the end of its column. -/
theorem isInt8_total {input : CalculationInput} (quotable : Accepted input)
    (free : incursCardFee input.paymentMethod = false) :
    isInt8 (answer input).totalMinor = true := by
  have subtotal := isSafeInteger_iff.mp quotable.subtotal
  have tax := isSafeInteger_iff.mp quotable.tax
  have fee : input.cardFee = 0 := if_neg (by simp [free])
  have first := Doubles.natAbs_round_le (input.subtotal + input.tax)
  have second := Doubles.natAbs_round_le (Doubles.round (input.subtotal + input.tax) + 0)
  refine isInt8_of_natAbs ?_
  simp only [answer, addNumbers, fee]
  omega

/-- The header of a quoted draft fits, though its total need not be safe. -/
theorem header_fits {draft : Draft} (accepted : AcceptedDraft draft)
    {quoted : List CalculationLineInput × CalculationResult}
    (priced : InvoicesService.quoteDraft draft.toInvoiceDraftInput = .ok quoted)
    (brandId number : String) (draw : Draw) :
    headerFits (createdRow brandId number draft draw quoted.1 quoted.2).invoice = true := by
  obtain ⟨calcLines, parsed, priced⟩ := bind_ok priced
  obtain ⟨result, calculated, priced⟩ := bind_ok priced
  cases priced
  obtain ⟨quotable, rfl⟩ := calculate_eq_ok.mp calculated
  have total := isInt8_total quotable rfl
  have subtotal := isInt8_of_isSafeInteger quotable.subtotal
  have tax := isInt8_of_isSafeInteger quotable.tax
  have taxRate := isInt4_of_isBasisPoints accepted.taxRate
  have cardFeeRate := isInt4_of_isBasisPoints accepted.cardFeeRate
  simp only [headerFits, createdRow, total, Bool.and_true, Bool.and_eq_true]
  exact ⟨⟨⟨⟨subtotal, taxRate⟩, tax⟩, cardFeeRate⟩, rfl⟩

/-! ## Quantities -/

/-- A quantity that the schema lets pass is ten thousand times the number it is the text of. -/
theorem quantityFrom_decimalNumber {text : String} (accepted : isQuantityString text = true)
    {quantity : Int} (parsed : quantityFrom text = .ok quantity) :
    0 ≤ quantity ∧ (quantity : ℚ) = decimalNumber text * 10 ^ 4 := by
  unfold isQuantityString at accepted
  split at accepted
  case h_2 => cases accepted
  case h_1 negative whole fraction decimal =>
    have kept : trim text.toList = text.toList :=
      trim_eq_self fun char member => (plain_of_isDigit (mem_of_decimalGroups? decimal member)).1
    simp only [Bool.and_eq_true, Bool.not_eq_true', decide_eq_true_eq] at accepted
    obtain ⟨rfl, short⟩ := accepted
    have value : quantity = digitsValue whole * quantityScale +
        digitsValue (padEnd fraction quantityDecimals) := by
      simp only [quantityFrom, kept, decimal] at parsed
      split at parsed
      · cases parsed
      · simpa using (ite_eq_ok.mp parsed).2
    have digits : ∀ digits : List Char, 0 ≤ digitsValue digits := by
      intro digits
      rw [digitsValue_eq]
      exact Int.natCast_nonneg _
    rw [padEnd, digitsValue_append_zeros] at value
    constructor
    · rw [value]
      have scale : (0 : Int) ≤ quantityScale := by decide
      have first := digits whole
      have second := digits fraction
      positivity
    · have whole_ : (quantityScale : ℚ) = 10 ^ 4 := by norm_num [quantityScale]
      have scale : (10 : ℚ) ^ 4 =
          10 ^ fraction.length * 10 ^ (quantityDecimals - fraction.length) := by
        have exponent : fraction.length + (quantityDecimals - fraction.length) = 4 :=
          Nat.add_sub_of_le short
        rw [← pow_add, exponent]
      have behind : (digitsValue fraction : ℚ) / 10 ^ fraction.length * 10 ^ 4 =
          digitsValue fraction * 10 ^ (quantityDecimals - fraction.length) := by
        rw [scale]
        field_simp
      simp only [decimalNumber, decimal, Bool.false_eq_true, if_false]
      rw [value, add_mul, behind]
      push_cast
      rw [whole_]

/-- The widest quantity the column holds. -/
theorem quantity_le_iff {text : String} (accepted : isQuantityString text = true)
    {quantity : Int} (parsed : quantityFrom text = .ok quantity) :
    quantity ≤ 2147483647 ↔ decimalNumber text ≤ 214748.3647 := by
  have scaled := (quantityFrom_decimalNumber accepted parsed).2
  rw [← Int.cast_le (R := ℚ), scaled]
  constructor
  · intro fits
    norm_num at fits ⊢
    linarith
  · intro fits
    norm_num at fits ⊢
    linarith

/-! ## Lines -/

theorem forall₂_of_mapM {ε α β : Type} {step : α → Except ε β} {values : List α}
    {results : List β} (success : values.mapM step = .ok results) :
    List.Forall₂ (fun value result => step value = .ok result) values results := by
  induction values generalizing results with
  | nil =>
      cases success
      exact .nil
  | cons value rest ih =>
      rw [List.mapM_cons] at success
      obtain ⟨head, first, success⟩ := bind_ok success
      obtain ⟨tail, others, success⟩ := bind_ok success
      cases success
      exact .cons first (ih others)

theorem createdLines_fit {sources : List LineItemInput} {lines : List CalculationLineInput}
    (position : Nat) (sameLength : lines.length = sources.length)
    (quantities : ∀ line ∈ lines, 0 ≤ line.quantity)
    (prices : ∀ line ∈ lines, isInt8 line.unitPriceMinor = true ∧
      isInt8 (pricedLine line).lineTotalMinor = true) :
    (InvoicesService.createdLines position sources lines (lines.map pricedLine)).all lineFits =
        true ↔
      (∀ line ∈ lines, line.quantity ≤ 2147483647) ∧
        ∀ index < lines.length, position + index ≤ 2147483647 := by
  induction lines generalizing sources position with
  | nil => cases sources <;> simp [InvoicesService.createdLines]
  | cons line rest ih =>
      cases sources with
      | nil => cases sameLength
      | cons source sources =>
          rw [List.forall_mem_cons] at quantities prices
          have others := ih (position + 1) (by simpa using sameLength) quantities.2 prices.2
          have here : lineFits
              { position
                itemName := source.itemName
                description := source.description
                quantity := line.quantity
                unitPriceMinor := line.unitPriceMinor
                lineTotalMinor := (pricedLine line).lineTotalMinor
                taxExempt := line.taxExempt } = true ↔
              line.quantity ≤ 2147483647 ∧ position ≤ 2147483647 := by
            simp only [lineFits, prices.1.1, prices.1.2, Bool.and_true, Bool.and_eq_true, isInt4_iff]
            have nonneg := quantities.1
            omega
          rw [List.map_cons, InvoicesService.createdLines, List.all_cons, Bool.and_eq_true, here,
            others, List.forall_mem_cons, List.length_cons]
          constructor
          · rintro ⟨⟨quantity, first⟩, later, positions⟩
            refine ⟨⟨quantity, later⟩, fun index bound => ?_⟩
            cases index with
            | zero => exact first
            | succ index =>
                have placed := positions index (by omega)
                omega
          · rintro ⟨⟨quantity, later⟩, positions⟩
            refine ⟨⟨quantity, positions 0 (by omega)⟩, later, fun index bound => ?_⟩
            have placed := positions (index + 1) (by omega)
            omega

theorem quantities_le_iff {currency : CurrencyCode} {lines : List LineItemInput}
    {calcLines : List CalculationLineInput}
    (parsed : List.Forall₂
      (fun line calcLine => InvoicesService.calculationLine currency line = .ok calcLine)
      lines calcLines)
    (accepted : ∀ line ∈ lines, isQuantityString line.quantity = true) :
    (∀ line ∈ calcLines, 0 ≤ line.quantity) ∧
      ((∀ line ∈ calcLines, line.quantity ≤ 2147483647) ↔
        ∀ line ∈ lines, decimalNumber line.quantity ≤ 214748.3647) := by
  induction parsed with
  | nil => simp
  | cons first _ ih =>
      rw [List.forall_mem_cons] at accepted
      obtain ⟨quantity, read, first⟩ := bind_ok first
      obtain ⟨price, _, first⟩ := bind_ok first
      cases first
      obtain ⟨nonneg, bounds⟩ := ih accepted.2
      rw [List.forall_mem_cons, List.forall_mem_cons, List.forall_mem_cons, bounds]
      exact ⟨⟨(quantityFrom_decimalNumber accepted.1 read).1, nonneg⟩,
        and_congr_left' (quantity_le_iff accepted.1 read)⟩

/-- Every value that is written for the draft fits its column, and where the counter has room the
database never refuses one. -/
structure NeverOutOfRange (draft : Draft) : Prop where
  fits : ∀ quoted, InvoicesService.quoteDraft draft.toInvoiceDraftInput = .ok quoted →
    ∀ brandId number draw, (createdRow brandId number draft draw quoted.1 quoted.2).fits = true
  inserts : ∀ store : Store,
    (∀ settings ∈ store.settings, isInt4 (settings.nextSequence + 1) = true) → ∀ draw error,
      (create draft draw).alone store ≠ .error (.database error)

theorem neverOutOfRange_of_fits {draft : Draft}
    (fits : ∀ quoted, InvoicesService.quoteDraft draft.toInvoiceDraftInput = .ok quoted →
      ∀ brandId number draw,
        (createdRow brandId number draft draw quoted.1 quoted.2).fits = true) :
    NeverOutOfRange draft := by
  refine ⟨fits, fun store room draw error refused => ?_⟩
  simp only [create, read_bind, alone, alone_bind, require_alone, allotNumber_alone,
    insertInvoice_alone] at refused
  split at refused
  case isFalse => cases refused
  case isTrue =>
    simp only [Except.bind] at refused
    cases priced : InvoicesService.quoteDraft draft.toInvoiceDraftInput with
    | error failure =>
        rw [priced] at refused
        cases refused
    | ok quoted =>
        simp only [priced, ofExcept_ok, alone] at refused
        cases found : store.settings with
        | none =>
            rw [found] at refused
            cases refused
        | some settings =>
            simp only [found, room settings found, if_true, fits quoted priced] at refused
            split at refused <;> cases refused

/-- An accepted draft that can be priced can be stored if and only if no line has more than
214,748.3647 units and there are no more lines than positions. -/
theorem accepted_draft_stored_iff {draft : Draft} (accepted : AcceptedDraft draft)
    {quoted : List CalculationLineInput × CalculationResult}
    (priced : InvoicesService.quoteDraft draft.toInvoiceDraftInput = .ok quoted) :
    NeverOutOfRange draft ↔
      (∀ line ∈ draft.lines, decimalNumber line.quantity ≤ 214748.3647) ∧
        draft.lines.length ≤ 2147483648 := by
  have header := header_fits accepted priced
  have quoting := priced
  obtain ⟨calcLines, mapped, priced⟩ := bind_ok priced
  obtain ⟨result, calculated, priced⟩ := bind_ok priced
  cases priced
  obtain ⟨quotable, answered⟩ := calculate_eq_ok.mp calculated
  have priceLines : result.lines = calcLines.map pricedLine := by rw [answered]; rfl
  have parsed := forall₂_of_mapM mapped
  obtain ⟨nonneg, bounds⟩ := quantities_le_iff parsed accepted.quantities
  have prices : ∀ line ∈ calcLines, isInt8 line.unitPriceMinor = true ∧
      isInt8 (pricedLine line).lineTotalMinor = true := fun line member =>
    ⟨isInt8_of_isSafeInteger (quotable.lines line member).2.1,
      isInt8_of_isSafeInteger (quotable.lines line member).2.2⟩
  have lines := createdLines_fit 0 parsed.length_eq.symm nonneg prices
  have positions : (∀ index < calcLines.length, 0 + index ≤ 2147483647) ↔
      draft.lines.length ≤ 2147483648 := by
    rw [← parsed.length_eq]
    constructor
    · intro placed
      by_contra more
      have beyond := placed 2147483648 (by omega)
      omega
    · intro few index bound
      omega
  rw [bounds, positions, ← priceLines] at lines
  have fits : ∀ brandId number draw,
      (createdRow brandId number draft draw calcLines result).fits = true ↔
        (∀ line ∈ draft.lines, decimalNumber line.quantity ≤ 214748.3647) ∧
          draft.lines.length ≤ 2147483648 := by
    intro brandId number draw
    rw [InvoiceRow.fits, header brandId number draw, Bool.true_and]
    exact lines
  constructor
  · intro never
    exact (fits "" "" ⟨"", ""⟩).mp (never.fits _ quoting _ _ _)
  · intro within
    refine neverOutOfRange_of_fits fun quoted priced brandId number draw => ?_
    obtain rfl := Except.ok.inj (quoting.symm.trans priced)
    exact (fits brandId number draw).mpr within

def sampleStoredDraft : Draft where
  currency := .usd
  lines := [⟨"Work", none, "1.5", "20.00", false⟩]
  taxRateBp := 500
  cardFeeRateBp := 300
  notes := none
  customerId := "customer"
  invoiceDate := 1
  dueDate := 2
  internalNotes := none

theorem accepted_draft_stored_iff_sample : NeverOutOfRange sampleStoredDraft :=
  have accepted : AcceptedDraft sampleStoredDraft :=
    ⟨by decide, by decide, by decide, by decide, by decide, by decide⟩
  have priced : InvoicesService.quoteDraft sampleStoredDraft.toInvoiceDraftInput = .ok _ := by rfl
  (accepted_draft_stored_iff accepted priced).mpr ⟨by decide +kernel, by decide⟩

def sampleWideDraft : Draft :=
  { sampleStoredDraft with lines := [⟨"Work", none, "214748.3648", "0.01", false⟩] }

/-- The draft is accepted and comes to 2,254.85 with its tax, and the database refuses it. -/
theorem wide_quantity_refused :
    AcceptedDraft sampleWideDraft ∧
      (InvoicesService.quoteDraft sampleWideDraft.toInvoiceDraftInput).map
        (fun quoted => quoted.2.totalMinor) = .ok 225485 ∧
      ¬NeverOutOfRange sampleWideDraft := by
  refine ⟨⟨by decide, by decide, by decide, by decide, by decide, by decide⟩,
    by decide +kernel, fun never => ?_⟩
  exact never.inserts ⟨"brand", ["customer"], some ⟨"INV", 1⟩, UniqueTable.empty⟩
    (by decide) ⟨"id", "token"⟩ "integer out of range" (by decide +kernel)

end Invoicing

end MultiBrandInvoicing
