import MultiBrandInvoicing.Persistence.Statements

/-!
# The public payment page

`apps/api/src/public/public-invoices.service.ts`.  `view` fetches the lines of an
invoice that came from the accounting provider without any, in a transaction of its
own, and records the first retrieval of a sent invoice.  The brand's presentation of
the page is left out.
-/

set_option autoImplicit false

namespace MultiBrandInvoicing

open ReadCommitted Program

structure EnabledMethods where
  card : Bool
  applePay : Bool
  googlePay : Bool
  ach : Bool
  check : Bool
  deriving DecidableEq, Repr

structure PublicInvoiceLine where
  itemName : String
  description : Option String
  quantity : String
  unitPriceMinor : Int
  lineTotalMinor : Int
  deriving DecidableEq, Repr

structure PublicInvoiceView where
  number : String
  status : InvoiceStatus
  currency : String
  totalMinor : Int
  balanceMinor : Int
  lines : List PublicInvoiceLine
  subtotalMinor : Int
  taxMinor : Int
  cardFeeRateBp : Int
  enabledMethods : EnabledMethods
  deriving DecidableEq, Repr

structure CreateCheckSubmissionInput where
  checkNumber : String
  customerNote : Option String
  deriving DecidableEq, Repr

namespace PublicInvoicesService

def enabledMethods (settings : Option BrandSettings) (stripeAccountId : Option String) :
    EnabledMethods where
  card := settings.any BrandSettings.cardEnabled && stripeAccountId.any (· ≠ "")
  applePay := settings.any BrandSettings.applePayEnabled
  googlePay := settings.any BrandSettings.googlePayEnabled
  ach := settings.any BrandSettings.achEnabled
  check := settings.any BrandSettings.checkEnabled

def publicLine (line : LineItem) : Except MoneyError PublicInvoiceLine := do
  let quantity ← formatQuantity line.quantity
  return {
    itemName := line.itemName, description := line.description, quantity
    unitPriceMinor := toNumber line.unitPriceMinor
    lineTotalMinor := toNumber line.lineTotalMinor }

def publicView (store : Store) (status : InvoiceStatus) (stripeAccountId : Option String)
    (lines : List PublicInvoiceLine) : PublicInvoiceView where
  number := store.invoice.number
  status := status
  currency := store.invoice.currency
  totalMinor := toNumber store.invoice.totalMinor
  balanceMinor := toNumber store.invoice.balanceMinor
  lines := lines
  subtotalMinor := toNumber store.invoice.subtotalMinor
  taxMinor := toNumber store.invoice.taxMinor
  cardFeeRateBp := store.invoice.cardFeeRateBpApplied
  enabledMethods := enabledMethods store.settings stripeAccountId

def firstViewContext (store : Store) : TransitionContext where
  status := .sent
  lineItemCount := store.lineItems.length
  totalMinor := toNumber store.invoice.totalMinor
  balanceMinor := toNumber store.invoice.balanceMinor
  settledMinor := 0
  customerHasDeliverableEmail := true

/-- FIRST_VIEW, when the invoice was read as sent; the status to show. -/
def recordFirstView (store : Store) (now : Time) : Tx InvoiceStatus :=
  if store.invoice.status = .sent then
    match evaluateTransition .firstView (firstViewContext store) with
    | .refused _ _ => pure store.invoice.status
    | .ok target => do
        updateInvoice (.statusWrite .firstView (firstViewContext store) target) store.invoice.id
          fun invoice => { invoice with status := target, firstViewedAt := some now }
        createInvoiceEvent {
          eventType := .firstView, fromStatus := .sent, toStatus := target, actor := "system" }
        pure target
  else pure store.invoice.status

/-- The rows to show, after the lines have been fetched where there are none.  A fetch
that fails is not an error of the page. -/
def loadEnriched (enrich : Tx Bool) (store : Store) : Tx Store :=
  if store.invoice.isPushed && store.lineItems.isEmpty then do
    let enriched ← attempt enrich
    commitNow
    match enriched with
    | .ok true => read
    | _ => pure store
  else pure store

def view (enrich : Tx Bool) (now : Time) (stripeAccountId : Option String)
    (scope : PublicScope) : Tx (Option PublicInvoiceView) := do
  let first ← read
  if first.invoice.id = scope.invoiceId then
    let store ← loadEnriched enrich first
    let status ← recordFirstView store now
    let lines ← ofExcept .money (store.lineItems.mapM publicLine)
    pure (some (publicView store status stripeAccountId lines))
  else pure none

/-- `id` is the identifier drawn for the submission; the images stand in the object
storage, outside the rows. -/
def submitCheck (scope : PublicScope) (id : String) (input : CreateCheckSubmissionInput) :
    Tx String := do
  let store ← read
  require (store.invoice.id = scope.invoiceId) (.notFound "invoice not found")
  let settings := (← read).settings
  require (settings.any BrandSettings.checkEnabled)
    (.conflict "Upload Check is not enabled for this brand")
  require (0 < store.invoice.balanceMinor)
    (.conflict "this invoice has already been paid in full")
  createCheckSubmission {
    id
    brandId := scope.brandId
    checkNumber := input.checkNumber
    amountMinor := store.invoice.balanceMinor
    customerNote := input.customerNote
    status := .submitted }
  pure id

/-! ## What the page does to the rows -/

def Store.viewed (store : Store) (now : Time) : Store :=
  { store with
    invoice := { store.invoice with status := .viewed, firstViewedAt := some now }
    events := store.events ++ [{
      eventType := .firstView, fromStatus := .sent, toStatus := .viewed, actor := "system" }] }

theorem view_cases_of_lines (enrich : Tx Bool) (now : Time) (stripeAccountId : Option String)
    (scope : PublicScope) (store : Store)
    (lined : (store.invoice.isPushed && store.lineItems.isEmpty) = false) :
    ((view enrich now stripeAccountId scope).exec store).store = store ∨
      store.invoice.status = .sent ∧
        ((view enrich now stripeAccountId scope).exec store).store = Store.viewed store now := by
  have granted : evaluateTransition .firstView (firstViewContext store) = .ok .viewed :=
    firstView_ok_iff.mpr ⟨rfl, rfl⟩
  have loaded : loadEnriched enrich store = pure store := by
    unfold loadEnriched
    rw [lined]
    rfl
  by_cases here : store.invoice.id = scope.invoiceId
  · cases shown : store.lineItems.mapM publicLine with
    | error error =>
        left
        by_cases sent : store.invoice.status = .sent
        · simp [exec, view, here, loaded, execFrom_bind, recordFirstView, sent,
            granted, shown]
        · simp [exec, view, here, loaded, recordFirstView, sent, shown]
    | ok lines =>
        by_cases sent : store.invoice.status = .sent
        · right
          refine ⟨sent, ?_⟩
          simp [exec, view, here, loaded, execFrom_bind, recordFirstView, sent,
            granted, shown, Store.viewed]
        · left
          simp [exec, view, here, loaded, recordFirstView, sent, shown]
  · left
    simp [exec, view, here]

/-- Viewing an invoice that has its lines changes it at most from sent to viewed. -/
theorem view_cases (enrich : Tx Bool) (now : Time) (stripeAccountId : Option String)
    (scope : PublicScope) (store : Store) (native : store.invoice.isPushed = false) :
    ((view enrich now stripeAccountId scope).exec store).store = store ∨
      store.invoice.status = .sent ∧
        ((view enrich now stripeAccountId scope).exec store).store = Store.viewed store now :=
  view_cases_of_lines enrich now stripeAccountId scope store (by rw [native, Bool.false_and])

theorem submitCheck_cases (scope : PublicScope) (id : String)
    (input : CreateCheckSubmissionInput) (store : Store) :
    store.SameButSubmissions ((submitCheck scope id input).exec store).store := by
  by_cases here : store.invoice.id = scope.invoiceId
  · by_cases enabled : store.settings.any BrandSettings.checkEnabled = true
    · by_cases owing : 0 < store.invoice.balanceMinor
      · simp [exec, submitCheck, execFrom_bind, here, enabled, owing, createCheckSubmission]
        split <;> rfl
      · simp [exec, submitCheck, execFrom_bind, here, enabled, owing, Store.SameButSubmissions]
    · simp [exec, submitCheck, execFrom_bind, here, enabled, Store.SameButSubmissions]
  · simp [exec, submitCheck, execFrom_bind, here, Store.SameButSubmissions]

end PublicInvoicesService

end MultiBrandInvoicing
