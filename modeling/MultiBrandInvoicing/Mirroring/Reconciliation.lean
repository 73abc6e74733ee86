import MultiBrandInvoicing.Integrations.ZohoLineItems
import MultiBrandInvoicing.Lifecycle.Pricing

/-!
# What a pushed invoice comes to

The lines a native invoice is pushed with come to its total, unless its tax is negative: a
discount that is taxed beside a charge that is not makes it so, and the tax line is sent for
a positive tax only.  Beyond `2 ^ 50` minor units the figures also change by being sent as doubles,
and the total by being added as one.
-/

set_option autoImplicit false

namespace MultiBrandInvoicing

open ReadCommitted Program ZohoBooksAdapter

namespace Reconciliation

/-- What Zoho is sent for an invoice whose tax rate it does not have. -/
def sentTotal (currency : CurrencyCode) (lineItems : List (ZohoInvoiceLineItem ℚ)) : Int :=
  (lineItems.map (sentMinor currency)).sum

theorem sentTotal_append (currency : CurrencyCode) (first second : List (ZohoInvoiceLineItem ℚ)) :
    sentTotal currency (first ++ second) = sentTotal currency first + sentTotal currency second := by
  simp [sentTotal]

def sentAmount (currency : CurrencyCode) (minor : Int) : Int :=
  HalfAway.nearest (Json.decimal (minorToDecimal minor currency) * 10 ^ minorUnitExponent currency)

theorem sentAmount_of_small (currency : CurrencyCode) {minor : Int}
    (small : minor.natAbs ≤ 2 ^ 50) : sentAmount currency minor = minor := by
  have scale : (10 : ℚ) ^ minorUnitExponent currency ≠ 0 := by positivity
  rw [sentAmount, decimal_minorToDecimal small, div_mul_cancel₀ _ scale, HalfAway.nearest_intCast]

theorem sentMinor_taxLine (invoice : AccountingInvoice) (currency : CurrencyCode) :
    sentMinor currency (taxLine invoice currency) = sentAmount currency invoice.taxMinor := by
  have one : Json.decimal 1 = 1 := by decide +kernel
  simp only [sentMinor, taxLine, sentAmount, one, mul_one]

/-- What the worth of the lines changes by when price and quantity are sent as doubles. -/
def lineDrift (currency : CurrencyCode) (lines : List LineItem) : Int :=
  (lines.map fun line => sentMinor currency (sentLine currency none line) - line.priced).sum

theorem lineDrift_of_small (currency : CurrencyCode) {lines : List LineItem}
    (prices : ∀ line ∈ lines, line.unitPriceMinor.natAbs ≤ 2 ^ 50)
    (quantities : ∀ line ∈ lines, line.quantity.natAbs ≤ 2 ^ 50) :
    lineDrift currency lines = 0 := by
  refine List.sum_eq_zero fun drift member => ?_
  obtain ⟨line, known, rfl⟩ := List.mem_map.mp member
  rw [sentMinor_sentLine currency none (prices line known) (quantities line known)]
  exact sub_self line.priced

theorem sentTotal_lines {amounts : Amounts} (priced : amounts.Priced) (currency : CurrencyCode) :
    sentTotal currency (amounts.lineItems.map (sentLine currency none)) =
      amounts.subtotalMinor + lineDrift currency amounts.lineItems := by
  have totals : amounts.lineItems.map LineItem.lineTotalMinor =
      amounts.lineItems.map LineItem.priced := List.map_congr_left priced.lines
  rw [priced.subtotal, totals, sentTotal, lineDrift, List.map_map, ← List.sum_map_add]
  congr 1
  refine List.map_congr_left fun line _ => ?_
  simp

/-- Without a synced tax rate and without a card fee, what is sent beside the lines is the
tax, where it is positive. -/
theorem sentTotal_extraLines (invoice : AccountingInvoice) (currency : CurrencyCode)
    (free : invoice.cardFeeMinor = 0) :
    sentTotal currency (extraLines none invoice currency) =
      if 0 < invoice.taxMinor then sentAmount currency invoice.taxMinor else 0 := by
  by_cases taxed : 0 < invoice.taxMinor
  · simp [extraLines, isPresent, free, taxed, sentTotal, sentMinor_taxLine]
  · simp [extraLines, free, taxed, sentTotal]

/-- What lines and tax change by when they are sent. -/
def sentDrift (store : Store) : Int :=
  lineDrift (toCurrencyCode store.invoice.currency) store.lineItems +
    if 0 < store.invoice.taxMinor then
      sentAmount (toCurrencyCode store.invoice.currency) store.invoice.taxMinor -
        store.invoice.taxMinor
    else 0

/-- What the addition of subtotal and tax rounds. -/
def roundedTotal (store : Store) : Int :=
  store.invoice.totalMinor - (store.invoice.subtotalMinor + store.invoice.taxMinor)

/-- The negative tax, for which no line is sent. -/
def unsentTax (store : Store) : Int := max 0 (-store.invoice.taxMinor)

/-- The figures are sent as they are and added as they are. -/
structure IsExact (store : Store) : Prop where
  prices : ∀ line ∈ store.lineItems, line.unitPriceMinor.natAbs ≤ 2 ^ 50
  quantities : ∀ line ∈ store.lineItems, line.quantity.natAbs ≤ 2 ^ 50
  tax : store.invoice.taxMinor.natAbs ≤ 2 ^ 50
  sum : IsDouble (store.invoice.subtotalMinor + store.invoice.taxMinor)

theorem IsExact.sentDrift {store : Store} (exact_ : IsExact store) : sentDrift store = 0 := by
  unfold Reconciliation.sentDrift
  rw [lineDrift_of_small _ exact_.prices exact_.quantities, sentAmount_of_small _ exact_.tax]
  simp

theorem IsExact.roundedTotal {store : Store} (exact_ : IsExact store)
    (priced : store.amounts.Priced) : roundedTotal store = 0 := by
  have total : store.invoice.totalMinor =
      addNumbers store.invoice.subtotalMinor store.invoice.taxMinor := priced.total
  rw [Reconciliation.roundedTotal, total, addNumbers_eq_iff.mpr exact_.sum, sub_self]

/-- The lines that are sent come to the total but for what is rounded and what is not sent. -/
theorem sentTotal_pushed {store : Store} (priced : store.amounts.Priced) {contact : String}
    {lineItems : List (ZohoInvoiceLineItem ℚ)}
    (sent : pushedLineItems none (ZohoSyncService.toAccountingInvoice store contact) =
      .ok lineItems) :
    sentTotal (toCurrencyCode store.invoice.currency) lineItems =
      store.invoice.totalMinor - roundedTotal store + unsentTax store + sentDrift store := by
  rw [pushedLineItems_ok none priced.quantities contact] at sent
  cases sent
  have free : (ZohoSyncService.toAccountingInvoice store contact).cardFeeMinor = 0 :=
    congrArg toNumber priced.fee
  have lines : sentTotal (toCurrencyCode store.invoice.currency)
      (store.lineItems.map (sentLine (toCurrencyCode store.invoice.currency) none)) =
        store.invoice.subtotalMinor +
          lineDrift (toCurrencyCode store.invoice.currency) store.lineItems :=
    sentTotal_lines priced (toCurrencyCode store.invoice.currency)
  have tax : (ZohoSyncService.toAccountingInvoice store contact).taxMinor =
      store.invoice.taxMinor := toNumber_of_safe priced.safeSums.2
  rw [sentTotal_append, lines, sentTotal_extraLines _ _ free, tax]
  unfold roundedTotal unsentTax sentDrift
  split <;> omega

/-- What the lines that are not exempt are worth, each rounded. -/
def taxableWorth (lines : List LineItem) : Int :=
  ((lines.filter fun line => !line.taxExempt).map LineItem.priced).sum

/-- The tax on the lines is negative by half a minor unit or more. -/
def RefundsTax (store : Store) : Prop :=
  taxableWorth store.lineItems * store.invoice.taxRateBpApplied * 2 ≤ -basisPointsScale

instance (store : Store) : Decidable (RefundsTax store) := inferInstanceAs (Decidable (_ ≤ _))

theorem refundsTax_iff {store : Store} (priced : store.amounts.Priced) :
    RefundsTax store ↔ store.invoice.taxMinor < 0 := by
  have worth : taxableMinor store.lineItems = taxableWorth store.lineItems := by
    unfold taxableMinor taxableWorth
    congr 1
    apply List.map_congr_left
    intro line member
    exact priced.lines line (List.mem_of_mem_filter member)
  have tax : store.invoice.taxMinor = HalfAway.quotient
      (taxableWorth store.lineItems * store.invoice.taxRateBpApplied) basisPointsScale := by
    rw [← worth]
    exact priced.tax
  have sign := HalfAway.quotient_nonneg_iff (d := basisPointsScale)
    (n := taxableWorth store.lineItems * store.invoice.taxRateBpApplied) (by decide)
  unfold RefundsTax
  rw [tax]
  omega

/-- The pushed lines of a native invoice come to its total exactly if what is rounded on the way
to either comes to the negative tax; where nothing is rounded, exactly if the lines do not refund
tax. -/
theorem pushed_lines_reconcile_iff {π : Type} {env : Env} {store : Store}
    (reachable : NativeReachable π env store) (contact : String) :
    ∃ lineItems, pushedLineItems none (ZohoSyncService.toAccountingInvoice store contact) =
        .ok lineItems ∧
      (sentTotal (toCurrencyCode store.invoice.currency) lineItems = store.invoice.totalMinor ↔
        sentDrift store + unsentTax store = roundedTotal store) ∧
      (IsExact store →
        (sentTotal (toCurrencyCode store.invoice.currency) lineItems = store.invoice.totalMinor ↔
          ¬RefundsTax store)) := by
  have priced := reachable.priced
  have sent := pushedLineItems_ok none priced.quantities contact
  have total := sentTotal_pushed priced sent
  refine ⟨_, sent, ?_, fun exact_ => ?_⟩
  · rw [total]
    omega
  · rw [total, exact_.sentDrift, exact_.roundedTotal priced, refundsTax_iff priced, unsentTax]
    omega

theorem pushed_lines_reconcile_iff_sample :
    ∃ lineItems, pushedLineItems none (ZohoSyncService.toAccountingInvoice
        ((sampleIssue Unit).perform sampleEnv sampleInvoice) "contact") = .ok lineItems ∧
      sentTotal .usd lineItems = 10000 := by
  have issued : NativeReachable Unit sampleEnv ((sampleIssue Unit).perform sampleEnv sampleInvoice) :=
    .performed (sampleIssue Unit) sampleInvoice (sampleInvoice_reachable Unit)
  obtain ⟨lineItems, sent, reconciles⟩ := pushed_lines_reconcile_iff issued "contact"
  have exact_ : IsExact ((sampleIssue Unit).perform sampleEnv sampleInvoice) :=
    ⟨by decide +kernel, by decide +kernel, by decide +kernel, by decide +kernel⟩
  exact ⟨lineItems, sent, (reconciles.2 exact_).mpr (by decide +kernel)⟩

def sampleDiscount : InvoiceDraftInput where
  currency := .usd
  lines := [
    { itemName := "Service", description := none, quantity := "1", unitPrice := "100.00"
      taxExempt := true },
    { itemName := "Discount", description := none, quantity := "1", unitPrice := "-50.00"
      taxExempt := false }]
  taxRateBp := 800
  cardFeeRateBp := 0
  notes := none

def sampleDiscounted : Store :=
  { sampleInvoice with
    invoice := { sampleInvoice.invoice with
      subtotalMinor := 5000, taxRateBpApplied := 800, taxMinor := -400
      cardFeeRateBpApplied := 0, totalMinor := 4600, balanceMinor := 4600 }
    lineItems := [
      { position := 0, itemName := "Service", description := none, quantity := 10000
        unitPriceMinor := 10000, lineTotalMinor := 10000, taxExempt := true },
      { position := 1, itemName := "Discount", description := none, quantity := 10000
        unitPriceMinor := -5000, lineTotalMinor := -5000, taxExempt := false }] }

theorem sampleDiscounted_created :
    InvoicesService.create sampleBrand "invoice" "token" sampleDiscount = .ok sampleDiscounted := by
  decide +kernel

def sampleDiscountIssued : Store :=
  InvoicesService.Store.issued sampleDiscounted (.user "staff") 0

/-- The invoice comes to 46.00 and its pushed lines to 50.00. -/
theorem discount_tax_dropped :
    InvoicesService.create sampleBrand "invoice" "token" sampleDiscount = .ok sampleDiscounted ∧
      ((InvoicesService.issue (.user "staff") "brand" "invoice" 0).exec sampleDiscounted) =
        ⟨.ok sampleDiscountIssued.invoice, sampleDiscountIssued, sampleDiscountIssued,
          [.enqueue (.pushInvoice "brand" "invoice")]⟩ ∧
      ∃ lineItems, pushedLineItems none
          (ZohoSyncService.toAccountingInvoice sampleDiscountIssued "contact") = .ok lineItems ∧
        sampleDiscountIssued.invoice.totalMinor = 4600 ∧ sentTotal .usd lineItems = 5000 := by
  refine ⟨sampleDiscounted_created, rfl, _, pushedLineItems_ok none (by decide) "contact", rfl, ?_⟩
  decide +kernel

end Reconciliation

end MultiBrandInvoicing
