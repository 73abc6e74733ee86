import MultiBrandInvoicing.Integrations.PullEffects
import MultiBrandInvoicing.Integrations.ZohoLineItems
import MultiBrandInvoicing.Lifecycle.Pricing
import MultiBrandInvoicing.Transitions.Runs

/-!
# Subtotal, tax and card fee beside the total

The header of an invoice brings its total and the detail its subtotal and tax.  A header is
written on every pull, the detail only where lines are stored or when the invoice is opened,
and the card fee is never pulled at all: which completed operations leave the three adding up
to the total is said here for each kind, and along whole runs.  Zoho's own amounts are exact
decimals; the pull reads them as doubles.
-/

set_option autoImplicit false

namespace MultiBrandInvoicing

open ReadCommitted Program ZohoPullService ZohoBooksAdapter

namespace Totals

def Balanced (store : Store) : Prop :=
  store.invoice.subtotalMinor + store.invoice.taxMinor + store.invoice.cardFeeMinor =
    store.invoice.totalMinor

instance (store : Store) : Decidable (Balanced store) := inferInstanceAs (Decidable (_ = _))

/-- One state of the invoice in Zoho, as the list gives it and in detail. -/
structure Snapshot where
  item : ZohoInvoiceListItem ℚ
  detail : ZohoInvoiceDetail ℚ
  adds : item.total = detail.subTotal + detail.taxTotal

def readItem (item : ZohoInvoiceListItem ℚ) : ZohoInvoiceListItem ℚ :=
  { item with total := Doubles.nearest item.total, balance := Doubles.nearest item.balance }

def readLine (line : ZohoInvoiceLineItem ℚ) : ZohoInvoiceLineItem ℚ :=
  { line with rate := Doubles.nearest line.rate, quantity := Doubles.nearest line.quantity }

def readDetail (detail : ZohoInvoiceDetail ℚ) : ZohoInvoiceDetail ℚ :=
  { detail with
    subTotal := Doubles.nearest detail.subTotal
    taxTotal := Doubles.nearest detail.taxTotal
    lineItems := detail.lineItems.map readLine }

inductive Operation where
  | pull (listed : Snapshot) (fetched : Except String Snapshot)
      (customer : Except String (Option Customer)) (headerFailure : Option HeaderFailure)
  | enrich (brandId invoiceId : String) (connected : Bool) (fetched : Except String Snapshot)

section Runs

variable (parseDate : String → Option Time)

def Operation.program : Operation → Tx Bool
  | .pull listed fetched customer headerFailure =>
      pullOneInvoice (doubleNumbers parseDate) (readItem listed.item) {
        customer, detail := fetched.map fun snapshot => readDetail snapshot.detail, headerFailure }
  | .enrich brandId invoiceId connected fetched =>
      enrichInvoiceFromZohoOnDemand (doubleNumbers parseDate) brandId invoiceId connected
        (fetched.map fun snapshot => readDetail snapshot.detail)

def step (store : Store) (operation : Operation) : Store :=
  ((operation.program parseDate).exec store).store

/-- The operation returns; one that throws is not completed. -/
def Completes (store : Store) (operation : Operation) : Prop :=
  ∃ applied, ((operation.program parseDate).exec store).outcome = .ok applied

def totalMinor (snapshot : Snapshot) (currency : CurrencyCode) : Int :=
  decimalToMinor (doubleNumbers parseDate) (readItem snapshot.item).total currency

def syntheticAmounts (kind : SyntheticLineKind) (snapshot : Snapshot) (currency : CurrencyCode) :
    List Int :=
  ((readDetail snapshot.detail).lineItems.filter fun line =>
    syntheticPushedLineKind line = some kind).map (lineAmount (doubleNumbers parseDate) currency)

/-- What the card fee lines of the detail come to. -/
def feeLines (snapshot : Snapshot) (currency : CurrencyCode) : Int :=
  syntheticMinor (doubleNumbers parseDate) .cardFee currency (readDetail snapshot.detail).lineItems

/-- How far the subtotal and the tax that are stored, with the fee lines, are from the total: what
rounding the decimals apart and adding them as numbers makes of it. -/
def rounding (snapshot : Snapshot) (currency : CurrencyCode) : Int :=
  let amounts := detailAmounts (doubleNumbers parseDate) (readDetail snapshot.detail) currency
  amounts.1 + amounts.2 + feeLines parseDate snapshot currency -
    totalMinor parseDate snapshot currency

/-- The detail fits a total: its own total is that one, and its fee lines come to the card
fee that is stored; or the two differences and the rounding cancel out. -/
def Fits (snapshot : Snapshot) (currency : CurrencyCode) (cardFeeMinor total : Int) : Prop :=
  totalMinor parseDate snapshot currency + rounding parseDate snapshot currency + cardFeeMinor =
    total + feeLines parseDate snapshot currency

/-- When an operation that completes leaves the amounts adding up. -/
def Keeps (store : Store) : Operation → Prop
  | .pull listed fetched _ _ =>
      if isOwnPushEcho (doubleNumbers parseDate) listed.item.lastModifiedTime
          store.invoice.zohoSyncedVersion then Balanced store
      else ∀ currency, supportedCurrency? listed.item.currencyCode = some currency →
        if store.lineItems.isEmpty then
          store.invoice.subtotalMinor + store.invoice.taxMinor + store.invoice.cardFeeMinor =
            totalMinor parseDate listed currency
        else ∀ snapshot, fetched = .ok snapshot →
          Fits parseDate snapshot currency store.invoice.cardFeeMinor
            (totalMinor parseDate listed currency)
  | .enrich brandId invoiceId connected fetched =>
      if Enrichable store brandId invoiceId connected then
        ∀ snapshot, fetched = .ok snapshot →
          Fits parseDate snapshot (toCurrencyCode store.invoice.currency)
            store.invoice.cardFeeMinor store.invoice.totalMinor
      else Balanced store

/-- Subtotal and tax are whole minor units, and they and the tax and fee lines are not too large to
be added up. -/
structure IsWhole (snapshot : Snapshot) (currency : CurrencyCode) : Prop where
  sub : ∃ minor : Int, minor.natAbs ≤ 2 ^ 49 ∧
    snapshot.detail.subTotal = minor / 10 ^ minorUnitExponent currency
  tax : ∃ minor : Int, minor.natAbs ≤ 2 ^ 49 ∧
    snapshot.detail.taxTotal = minor / 10 ^ minorUnitExponent currency
  lines : ∀ kind, ((syntheticAmounts parseDate kind snapshot currency).map Int.natAbs).sum ≤ 2 ^ 51

theorem decimalToMinor_whole {amount : ℚ} {currency : CurrencyCode} {minor : Int}
    (small : minor.natAbs ≤ 2 ^ 50) (whole : amount = minor / 10 ^ minorUnitExponent currency) :
    decimalToMinor (doubleNumbers parseDate) (Doubles.nearest amount) currency = minor := by
  rw [whole]
  exact HalfAway.round_of_near (Doubles.abs_nearest_scaled_sub_lt small _)

/-- Whole amounts are not rounded. -/
theorem rounding_whole {snapshot : Snapshot} {currency : CurrencyCode}
    (whole : IsWhole parseDate snapshot currency) : rounding parseDate snapshot currency = 0 := by
  obtain ⟨sub, smallSub, subEq⟩ := whole.sub
  obtain ⟨tax, smallTax, taxEq⟩ := whole.tax
  have total : totalMinor parseDate snapshot currency = sub + tax := by
    refine decimalToMinor_whole parseDate (by omega) ?_
    rw [snapshot.adds, subEq, taxEq, ← add_div, Int.cast_add]
  have first : decimalToMinor (doubleNumbers parseDate) (readDetail snapshot.detail).subTotal
      currency = sub := decimalToMinor_whole parseDate (by omega) subEq
  have second : decimalToMinor (doubleNumbers parseDate) (readDetail snapshot.detail).taxTotal
      currency = tax := decimalToMinor_whole parseDate (by omega) taxEq
  have added (kind : SyntheticLineKind) := foldl_addNumbers
    (show ((0 : Int).natAbs + ((syntheticAmounts parseDate kind snapshot currency).map
      Int.natAbs).sum ≤ 2 ^ 53) by have := whole.lines kind; omega)
  have bounded (kind : SyntheticLineKind) :
      (syntheticMinor (doubleNumbers parseDate) kind currency
        (readDetail snapshot.detail).lineItems).natAbs ≤ 2 ^ 51 := by
    have sum := (natAbs_sum_le (syntheticAmounts parseDate kind snapshot currency)).trans
      (whole.lines kind)
    have same := added kind
    unfold syntheticAmounts at same sum
    rw [syntheticMinor, same]
    omega
  have taxLines := bounded .tax
  have fees := bounded .cardFee
  unfold rounding feeLines detailAmounts
  rw [total, first, second]
  generalize syntheticMinor (doubleNumbers parseDate) .tax currency _ = taxLine at *
  generalize syntheticMinor (doubleNumbers parseDate) .cardFee currency _ = feeLine at *
  simp only [addNumbers, subtractNumbers]
  rw [Doubles.round_of_natAbs_le (n := sub - taxLine) (by omega),
    Doubles.round_of_natAbs_le (n := sub - taxLine - feeLine) (by omega),
    Doubles.round_of_natAbs_le (n := tax + taxLine) (by omega)]
  omega

/-- A detail puts subtotal and tax to its own total, less its fee lines. -/
theorem withDetail_amounts (snapshot : Snapshot) (currency : CurrencyCode) (store : Store) :
    let next := withDetail (doubleNumbers parseDate) (readDetail snapshot.detail) currency store
    next.invoice.subtotalMinor + next.invoice.taxMinor =
      totalMinor parseDate snapshot currency + rounding parseDate snapshot currency -
        feeLines parseDate snapshot currency := by
  intro next
  simp only [next, withDetail, rounding]
  omega

theorem map_detail_ok {fetched : Except String Snapshot} {detail : ZohoInvoiceDetail ℚ}
    (known : (fetched.map fun snapshot => readDetail snapshot.detail) = .ok detail) :
    ∃ snapshot, fetched = .ok snapshot ∧ readDetail snapshot.detail = detail := by
  cases fetched with
  | error message => cases known
  | ok snapshot => exact ⟨snapshot, rfl, Except.ok.inj known⟩

theorem pull_keeps_iff {store : Store} {listed : Snapshot} {fetched : Except String Snapshot}
    {customer : Except String (Option Customer)} {headerFailure : Option HeaderFailure}
    (completes : Completes parseDate store (.pull listed fetched customer headerFailure)) :
    Balanced (step parseDate store (.pull listed fetched customer headerFailure)) ↔
      Keeps parseDate store (.pull listed fetched customer headerFailure) := by
  obtain ⟨applied, returned⟩ := completes
  simp only [step, Operation.program, Keeps] at returned ⊢
  rcases pullOneInvoice_returned (doubleNumbers parseDate) returned with
    ⟨_, echo, same⟩ | ⟨_, _, customer, currency, writing, written⟩
  · have own : isOwnPushEcho (doubleNumbers parseDate) listed.item.lastModifiedTime
        store.invoice.zohoSyncedVersion = true := echo
    rw [same, if_pos own]
  · have newer : isOwnPushEcho (doubleNumbers parseDate) listed.item.lastModifiedTime
        store.invoice.zohoSyncedVersion = false := writing.newer
    have known : supportedCurrency? listed.item.currencyCode = some currency := writing.currency
    rw [if_neg (by simp [newer])]
    have only : ∀ P : CurrencyCode → Prop,
        (∀ other, supportedCurrency? listed.item.currencyCode = some other → P other) ↔
          P currency := by
      intro P
      constructor
      · exact fun all => all currency known
      · intro holds other supported
        rw [known] at supported
        cases supported
        exact holds
    rw [only]
    rcases written with ⟨bare, done⟩ | ⟨lines, detail, fetchedDetail, done⟩
    · rw [done, if_pos bare]
      rfl
    · obtain ⟨snapshot, known, rfl⟩ := map_detail_ok fetchedDetail
      rw [done, if_neg (by simp [lines])]
      have amounts := withDetail_amounts parseDate snapshot currency store
      have header : Balanced (withHeader (doubleNumbers parseDate) (readItem listed.item) currency customer
          (withDetail (doubleNumbers parseDate) (readDetail snapshot.detail) currency store)) ↔
            Fits parseDate snapshot currency store.invoice.cardFeeMinor
              (totalMinor parseDate listed currency) := by
        change (withDetail _ _ _ store).invoice.subtotalMinor +
          (withDetail _ _ _ store).invoice.taxMinor + store.invoice.cardFeeMinor =
            totalMinor parseDate listed currency ↔ _
        rw [amounts, Fits]
        omega
      rw [header]
      constructor
      · intro fits other same
        rw [known] at same
        cases same
        exact fits
      · exact fun all => all snapshot known

theorem enrich_keeps_iff {store : Store} {brandId invoiceId : String} {connected : Bool}
    {fetched : Except String Snapshot}
    (completes : Completes parseDate store (.enrich brandId invoiceId connected fetched)) :
    Balanced (step parseDate store (.enrich brandId invoiceId connected fetched)) ↔
      Keeps parseDate store (.enrich brandId invoiceId connected fetched) := by
  obtain ⟨applied, returned⟩ := completes
  simp only [step, Operation.program, Keeps] at returned ⊢
  rcases enrichInvoiceFromZohoOnDemand_returned (doubleNumbers parseDate) returned with
    ⟨_, refused, same⟩ | ⟨_, granted, detail, fetchedDetail, done⟩
  · rw [same, if_neg refused]
  · obtain ⟨snapshot, known, rfl⟩ := map_detail_ok fetchedDetail
    rw [done, if_pos granted]
    have amounts := withDetail_amounts parseDate snapshot
      (toCurrencyCode store.invoice.currency) store
    have enriched : Balanced (withDetail (doubleNumbers parseDate) (readDetail snapshot.detail)
        (toCurrencyCode store.invoice.currency) store) ↔
          Fits parseDate snapshot (toCurrencyCode store.invoice.currency)
            store.invoice.cardFeeMinor store.invoice.totalMinor := by
      change (withDetail _ _ _ store).invoice.subtotalMinor +
        (withDetail _ _ _ store).invoice.taxMinor + store.invoice.cardFeeMinor =
          store.invoice.totalMinor ↔ _
      rw [amounts, Fits]
      omega
    rw [enriched]
    constructor
    · intro fits other same
      rw [known] at same
      cases same
      exact fits
    · exact fun all => all snapshot known

theorem balanced_throughout_iff (operations : List Operation) (store : Store) :
    Runs.Throughout (step parseDate)
        (fun store operation => Completes parseDate store operation →
          Balanced (step parseDate store operation)) operations store ↔
      Runs.Throughout (step parseDate)
        (fun store operation => Completes parseDate store operation →
          Keeps parseDate store operation) operations store := by
  have one : ∀ store operation, Completes parseDate store operation →
      (Balanced (step parseDate store operation) ↔ Keeps parseDate store operation) := by
    intro store operation completes
    cases operation with
    | pull listed fetched customer headerFailure => exact pull_keeps_iff parseDate completes
    | enrich brandId invoiceId connected fetched => exact enrich_keeps_iff parseDate completes
  constructor
  · exact Runs.Throughout.mono fun store operation balanced completes =>
      (one store operation completes).mp (balanced completes)
  · exact Runs.Throughout.mono fun store operation keeps completes =>
      (one store operation completes).mpr (keeps completes)

/-- A native invoice is created with amounts that add up, unless the addition rounds. -/
theorem created_balanced_iff {brand : BrandRows} {id publicToken : String}
    {input : InvoiceDraftInput} {store : Store}
    (created : InvoicesService.create brand id publicToken input = .ok store) :
    Balanced store ↔ IsDouble (store.invoice.subtotalMinor + store.invoice.taxMinor) := by
  have priced := created_priced created
  have fee : store.invoice.cardFeeMinor = 0 := priced.fee
  have total : store.invoice.totalMinor =
      addNumbers store.invoice.subtotalMinor store.invoice.taxMinor := priced.total
  rw [Balanced, fee, total, Int.add_zero, eq_comm]
  exact addNumbers_eq_iff

/-- A native invoice is stored with amounts that add up exactly where their sum is a number, and an
imported one always.  From then on they add up after every operation that completes exactly as long
as each of them keeps them so; a detail of whole minor units fits where the totals and the card fees
do. -/
theorem amounts_add_up_iff (store : Store) (operations : List Operation) :
    (∀ brand id publicToken input,
        InvoicesService.create brand id publicToken input = .ok store →
          (Balanced store ↔ IsDouble (store.invoice.subtotalMinor + store.invoice.taxMinor))) ∧
      (∀ brandId id publicToken customer settings listed currency,
        Balanced (pulledInvoice (doubleNumbers parseDate) brandId id publicToken customer settings
          (readItem listed) currency)) ∧
      (Runs.Throughout (step parseDate)
          (fun store operation => Completes parseDate store operation →
            Balanced (step parseDate store operation)) operations store ↔
        Runs.Throughout (step parseDate)
          (fun store operation => Completes parseDate store operation →
            Keeps parseDate store operation) operations store) ∧
      (∀ snapshot currency, IsWhole parseDate snapshot currency → ∀ cardFeeMinor total,
        (Fits parseDate snapshot currency cardFeeMinor total ↔
          totalMinor parseDate snapshot currency + cardFeeMinor =
            total + feeLines parseDate snapshot currency)) := by
  refine ⟨fun brand id publicToken input created => created_balanced_iff created, ?_,
    balanced_throughout_iff parseDate operations store, ?_⟩
  · intro brandId id publicToken customer settings listed currency
    simp [Balanced, pulledInvoice]
  · intro snapshot currency whole cardFeeMinor total
    rw [Fits, rounding_whole parseDate whole, Int.add_zero]

end Runs

/-! ## A total that is changed in Zoho -/

def sampleSnapshot (total : ℚ) (modified : String) : Snapshot where
  item := {
    invoiceId := "z1", customerId := "c1", invoiceNumber := "INV-0001", status := "sent"
    currencyCode := "USD", total, balance := total, lastModifiedTime := some modified }
  detail := {
    subTotal := total, taxTotal := 0, notes := none
    lineItems := [{
      name := some "Service", description := none, rate := total, quantity := 1, taxId := none }] }
  adds := (add_zero total).symm

def sampleDate (text : String) : Option Time := some (digitsValue text.toList)

def samplePayer : Customer := { email := some "payer@example.test" }

def sampleImported : Store :=
  pulledInvoice (doubleNumbers sampleDate) "brand" "invoice" "token" samplePayer none
    (readItem (sampleSnapshot 100 "1").item) .usd

def sampleEdit : Operation :=
  .pull (sampleSnapshot 250 "2") (.ok (sampleSnapshot 250 "2")) (.ok (some samplePayer)) none

/-- The invoice has no lines yet, so that its subtotal stays at 100.00 under a total
of 250.00. -/
theorem edited_total_alone :
    Balanced sampleImported ∧ Completes sampleDate sampleImported sampleEdit ∧
      (step sampleDate sampleImported sampleEdit).invoice.totalMinor = 25000 ∧
      (step sampleDate sampleImported sampleEdit).invoice.subtotalMinor = 10000 ∧
      ¬Balanced (step sampleDate sampleImported sampleEdit) := by
  refine ⟨by decide +kernel, ⟨true, ?_⟩, ?_, ?_, ?_⟩
  · decide +kernel
  · decide +kernel
  · decide +kernel
  · decide +kernel

end Totals

end MultiBrandInvoicing
