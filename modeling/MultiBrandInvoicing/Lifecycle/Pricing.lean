import MultiBrandInvoicing.Lifecycle.Reachability

/-!
# The amounts of a native invoice

What `create` stores beside the lines: their rounded totals, the subtotal, the tax on the
lines that are not exempt, no card fee, and the total of these as numbers are added.  No operation
on the invoice changes any of it.
-/

set_option autoImplicit false

namespace MultiBrandInvoicing

open PaymentsService

def LineItem.priced (line : LineItem) : Int :=
  HalfAway.quotient (line.quantity * line.unitPriceMinor) quantityScale

/-- What the lines that are not exempt come to. -/
def taxableMinor (lines : List LineItem) : Int :=
  ((lines.filter fun line => !line.taxExempt).map LineItem.lineTotalMinor).sum

structure Amounts where
  lineItems : List LineItem
  currency : String
  subtotalMinor : Int
  taxRateBpApplied : Int
  taxMinor : Int
  cardFeeMinor : Int
  totalMinor : Int

def amountsOf (lineItems : List LineItem) (invoice : Invoice) : Amounts where
  lineItems := lineItems
  currency := invoice.currency
  subtotalMinor := invoice.subtotalMinor
  taxRateBpApplied := invoice.taxRateBpApplied
  taxMinor := invoice.taxMinor
  cardFeeMinor := invoice.cardFeeMinor
  totalMinor := invoice.totalMinor

def Store.amounts (store : Store) : Amounts := amountsOf store.lineItems store.invoice

structure Amounts.Priced (amounts : Amounts) : Prop where
  currency : (supportedCurrency? amounts.currency).isSome = true
  quantities : ∀ line ∈ amounts.lineItems, isSafeInteger line.quantity = true
  prices : ∀ line ∈ amounts.lineItems, isSafeInteger line.unitPriceMinor = true
  worths : ∀ line ∈ amounts.lineItems, isSafeInteger line.priced = true
  lines : ∀ line ∈ amounts.lineItems, line.lineTotalMinor = line.priced
  subtotal : amounts.subtotalMinor = (amounts.lineItems.map LineItem.lineTotalMinor).sum
  rate : 0 ≤ amounts.taxRateBpApplied
  tax : amounts.taxMinor = HalfAway.quotient
    (taxableMinor amounts.lineItems * amounts.taxRateBpApplied) basisPointsScale
  fee : amounts.cardFeeMinor = 0
  safeSums : isSafeInteger amounts.subtotalMinor = true ∧ isSafeInteger amounts.taxMinor = true
  total : amounts.totalMinor = addNumbers amounts.subtotalMinor amounts.taxMinor

theorem createdLines_results (position : Nat) {sources : List LineItemInput}
    {lines : List CalculationLineInput} (parsed : lines.length = sources.length) :
    (InvoicesService.createdLines position sources lines (lines.map pricedLine)).map
        (fun line => (⟨line.lineTotalMinor, line.taxExempt⟩ : CalculationLineResult)) =
      lines.map pricedLine := by
  induction lines generalizing position sources with
  | nil => cases sources <;> rfl
  | cons line rest ih =>
      cases sources with
      | nil => cases parsed
      | cons source sources =>
          have others := ih (position + 1) (by simpa using parsed)
          simp only [InvoicesService.createdLines, List.map_cons, others]
          rfl

theorem createdLines_mem {position : Nat} {sources : List LineItemInput}
    {lines : List CalculationLineInput} {item : LineItem}
    (member : item ∈ InvoicesService.createdLines position sources lines (lines.map pricedLine)) :
    ⟨item.quantity, item.unitPriceMinor, item.taxExempt⟩ ∈ lines ∧
      item.lineTotalMinor = item.priced := by
  induction lines generalizing position sources with
  | nil => cases sources <;> cases member
  | cons line rest ih =>
      cases sources with
      | nil => cases member
      | cons source sources =>
          rw [List.map_cons, InvoicesService.createdLines, List.mem_cons] at member
          rcases member with rfl | later
          · exact ⟨List.mem_cons_self, rfl⟩
          · obtain ⟨known, priced⟩ := ih later
            exact ⟨List.mem_cons_of_mem _ known, priced⟩

theorem supportedCurrency?_code (currency : CurrencyCode) :
    supportedCurrency? currency.code = some currency := by
  cases currency <;> decide

theorem createdLines_priced {sources : List LineItemInput} {lines : List CalculationLineInput}
    {taxRateBp cardFeeRateBp : Int} {result : CalculationResult} (currency : CurrencyCode)
    (parsed : lines.length = sources.length)
    (calculated : calculate { lines, taxRateBp, cardFeeRateBp, paymentMethod := .manual } =
      .ok result) :
    Amounts.Priced {
      lineItems := InvoicesService.createdLines 0 sources lines result.lines
      currency := currency.code
      subtotalMinor := result.subtotalMinor
      taxRateBpApplied := result.taxRateBpApplied
      taxMinor := result.taxMinor
      cardFeeMinor := 0
      totalMinor := result.totalMinor } := by
  obtain ⟨accepted, rfl⟩ := calculate_eq_ok.mp calculated
  have items : ∀ item ∈ InvoicesService.createdLines 0 sources lines (lines.map pricedLine),
      ⟨item.quantity, item.unitPriceMinor, item.taxExempt⟩ ∈ lines ∧
        item.lineTotalMinor = item.priced :=
    fun item member => createdLines_mem member
  have safe := fun item member => accepted.lines _ (items item member).1
  have summary := createdLines_results 0 parsed
  have totals := congrArg (List.map CalculationLineResult.lineTotalMinor) summary
  have taxables := congrArg (fun lines => (List.filter (fun line => !line.taxExempt) lines).map
    CalculationLineResult.lineTotalMinor) summary
  rw [List.map_map] at totals
  rw [List.filter_map, List.map_map] at taxables
  refine ⟨?_, fun line member => (safe line member).1, fun line member => (safe line member).2.1,
    fun line member => (safe line member).2.2, fun line member => (items line member).2, ?_,
    accepted.taxRate, ?_, rfl, ⟨accepted.subtotal, accepted.tax⟩, ?_⟩
  · simp [supportedCurrency?_code]
  · exact congrArg List.sum totals.symm
  · exact congrArg (fun taxables => HalfAway.quotient (List.sum taxables * taxRateBp)
      basisPointsScale) taxables.symm
  · exact calculate_uncharged calculated rfl

theorem created_priced {brand : BrandRows} {id publicToken : String} {input : InvoiceDraftInput}
    {store : Store} (created : InvoicesService.create brand id publicToken input = .ok store) :
    store.amounts.Priced := by
  unfold InvoicesService.create at created
  split at created
  case h_1 => cases created
  case h_2 customer found =>
    split at created
    case h_1 => cases created
    case h_2 calcLines result quoted =>
      obtain ⟨parsed, mapped, quoted⟩ := bind_ok quoted
      obtain ⟨computed, calculated, quoted⟩ := bind_ok quoted
      cases quoted
      have priced := createdLines_priced input.currency (mapM_length mapped) calculated
      split at created
      case isTrue => cases created
      case isFalse =>
        split at created
        case isTrue => cases created
        case isFalse =>
          cases created
          exact priced

theorem amountsOf_afterResult (lineItems : List LineItem) (invoice : Invoice)
    (status : PaymentIntentStatus) (occurredAt : Time) :
    amountsOf lineItems (invoice.afterResult status occurredAt) = amountsOf lineItems invoice := by
  rw [sameButSettlement_afterResult invoice status occurredAt]
  rfl

theorem Store.SameButSubmissions.amounts {store next : Store}
    (same : store.SameButSubmissions next) : next.amounts = store.amounts := by
  rw [same]
  rfl

theorem QuietStep.amounts {store next : Store} {recorded : Option Int}
    (step : QuietStep store recorded next) : next.amounts = store.amounts := by
  cases step with
  | kept _ same => exact same.amounts
  | issued => rfl
  | viewed => rfl
  | recorded paymentId uuid input amountMinor payments event _ granted rows same =>
      exact same.amounts
  | cancelled => rfl

theorem amounts_apply (store : Store) (result : GatewayResult) :
    (store.apply result).amounts = store.amounts :=
  amountsOf_afterResult store.lineItems store.invoice result.status result.occurredAt

/-- The amounts of a reachable invoice are those of its lines. -/
theorem NativeReachable.priced {π : Type} {env : Env} {store : Store}
    (reachable : NativeReachable π env store) : store.amounts.Priced := by
  refine NativeReachable.invariant (fun store => store.amounts.Priced) ?_ ?_ ?_ ?_ reachable
  · intro brand id publicToken input store created
    exact created_priced created
  · intro first recorded next priced step
    rw [step.amounts]
    exact priced
  · intro first method attempt priced opens
    exact priced
  · intro first result priced about
    rw [amounts_apply]
    exact priced

end MultiBrandInvoicing
