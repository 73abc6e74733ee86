import MultiBrandInvoicing.Lifecycle.Operations
import MultiBrandInvoicing.Transitions.Runs

/-!
# Reachable native invoices

The states of an invoice created here under any sequence of operations, the rule by
which an invariant is carried to all of them, and what never changes: the lines, the
rates and the total.
-/

set_option autoImplicit false

namespace MultiBrandInvoicing

open ReadCommitted PaymentsService

/-- The states reached from a new invoice by operations run one after another. -/
inductive NativeReachable (π : Type) (env : Env) : Store → Prop where
  | created (brand : BrandRows) (id publicToken : String) (input : InvoiceDraftInput)
      (store : Store) (created : InvoicesService.create brand id publicToken input = .ok store) :
      NativeReachable π env store
  | performed (operation : NativeOperation π) (store : Store)
      (reached : NativeReachable π env store) : NativeReachable π env (operation.perform env store)

/-! ## What no operation changes -/

structure InvoiceTerms where
  lineItems : List LineItem
  taxRateBp : Int
  cardFeeRateBp : Int
  totalMinor : Int
  zohoInvoiceId : Option String

def termsOf (lineItems : List LineItem) (invoice : Invoice) : InvoiceTerms where
  lineItems := lineItems
  taxRateBp := invoice.taxRateBpApplied
  cardFeeRateBp := invoice.cardFeeRateBpApplied
  totalMinor := invoice.totalMinor
  zohoInvoiceId := invoice.zohoInvoiceId

/-- What the stored lines come to at the tax rate applied to the invoice. -/
def Store.worth (store : Store) : Int :=
  linesWorth (store.lineItems.map LineItem.toCalculationLine) store.invoice.taxRateBpApplied

theorem quote_charge {store : Store} {method : PaymentMethod} {quote : CalculationResult}
    (quoted : calculate (quoteInput store method) = .ok quote)
    (card : incursCardFee method = true) :
    quote.totalMinor = toNumber (withFee store.worth store.invoice.cardFeeRateBpApplied) :=
  (calculate_charge quoted card :)

theorem quote_uncharged {store : Store} {method : PaymentMethod} {quote : CalculationResult}
    (quoted : calculate (quoteInput store method) = .ok quote)
    (feeless : incursCardFee method = false) : quote.totalMinor = store.worth :=
  (calculate_uncharged quoted feeless :)

theorem quote_fee {store : Store} {method : PaymentMethod} {quote : CalculationResult}
    (quoted : calculate (quoteInput store method) = .ok quote)
    (card : incursCardFee method = true) :
    applyBasisPoints store.worth store.invoice.cardFeeRateBpApplied = .ok quote.cardFeeMinor := by
  have taken := calculate_fee quoted card
  rw [calculate_worth quoted] at taken
  exact taken

def Store.terms (store : Store) : InvoiceTerms := termsOf store.lineItems store.invoice

theorem termsOf_afterResult (lineItems : List LineItem) (invoice : Invoice)
    (status : PaymentIntentStatus) (occurredAt : Time) :
    termsOf lineItems (invoice.afterResult status occurredAt) = termsOf lineItems invoice := by
  rw [sameButSettlement_afterResult invoice status occurredAt]
  rfl

@[simp] theorem terms_apply (store : Store) (result : GatewayResult) :
    (store.apply result).terms = store.terms :=
  termsOf_afterResult store.lineItems store.invoice result.status result.occurredAt

@[simp] theorem terms_attempting (store : Store) (payments : PaymentTable) :
    (store.attempting payments).terms = store.terms := rfl

theorem Store.SameButSubmissions.terms {store next : Store}
    (same : store.SameButSubmissions next) : next.terms = store.terms := by
  rw [same]
  rfl

theorem QuietStep.terms {recorded : Option Int} {store next : Store}
    (step : QuietStep store recorded next) : next.terms = store.terms := by
  cases step with
  | kept _ same => exact same.terms
  | issued => rfl
  | viewed => rfl
  | recorded paymentId uuid input amountMinor payments event _ granted rows same =>
      exact same.terms
  | cancelled => rfl

/-- What holds of new invoices, and is kept by quiet steps, by opening an attempt and by
applying a gateway result, is kept by every operation. -/
theorem NativeOperation.perform_invariant {π : Type} {env : Env} (Inv : Store → Prop)
    (operation : NativeOperation π) (store : Store)
    (quiet : ∀ next, Inv store → QuietStep store (operation.recorded? store) next → Inv next)
    (attempting : ∀ store method attempt, Inv store → Opens store method attempt →
      Inv (store.attempting attempt.payments))
    (applying : ∀ store result, Inv store → About store result → Inv (store.apply result))
    (native : store.invoice.isPushed = false)
    (holds : Inv store) : Inv (operation.perform env store) := by
  rcases operation.perform_cases env store native with
    ⟨before, result, _, resolves, done⟩ | ⟨_, step⟩
  · rw [done]
    cases resolves with
    | delivered _ about => exact applying store result holds about
    | attempted method attempt opens =>
        refine applying _ _ (attempting store method attempt holds opens) ⟨?_, opens.referenced⟩
        simp [Store.attempting, opens.rows]
  · exact quiet _ holds step

theorem perform_terms {π : Type} (env : Env) (operation : NativeOperation π) {store : Store}
    (native : store.invoice.isPushed = false) :
    (operation.perform env store).terms = store.terms := by
  refine NativeOperation.perform_invariant (fun next => next.terms = store.terms) operation store
    ?_ ?_ ?_ native rfl
  · intro next same step
    rw [step.terms, same]
  · intro first method attempt same opens
    rw [terms_attempting, same]
  · intro first result same about
    rw [terms_apply, same]

theorem perform_total {π : Type} (env : Env) (operation : NativeOperation π) {store : Store}
    (native : store.invoice.isPushed = false) :
    (operation.perform env store).invoice.totalMinor = store.invoice.totalMinor :=
  congrArg InvoiceTerms.totalMinor (perform_terms env operation native)

/-- A reachable invoice has never been linked to Zoho and is worth its total. -/
theorem NativeReachable.terms {π : Type} {env : Env} {store : Store}
    (reachable : NativeReachable π env store) :
    store.terms.zohoInvoiceId = none ∧
      store.terms.totalMinor = linesWorth
        (store.terms.lineItems.map LineItem.toCalculationLine) store.terms.taxRateBp := by
  induction reachable with
  | created brand id publicToken input store created =>
      have new := InvoicesService.create_ok created
      exact ⟨new.unlinked, new.worth⟩
  | performed operation store reached ih =>
      have native : store.invoice.isPushed = false := by
        have unlinked : store.invoice.zohoInvoiceId = none := ih.1
        simp [Invoice.isPushed, unlinked]
      rw [perform_terms env operation native]
      exact ih

theorem NativeReachable.native {π : Type} {env : Env} {store : Store}
    (reachable : NativeReachable π env store) : store.invoice.isPushed = false := by
  have unlinked : store.invoice.zohoInvoiceId = none := reachable.terms.1
  simp [Invoice.isPushed, unlinked]

theorem NativeReachable.worth {π : Type} {env : Env} {store : Store}
    (reachable : NativeReachable π env store) : store.worth = store.invoice.totalMinor :=
  reachable.terms.2.symm

/-- An invariant of new invoices and of every kind of step holds wherever a native
invoice can get. -/
theorem NativeReachable.invariant {π : Type} {env : Env} (Inv : Store → Prop)
    (created : ∀ brand id publicToken input store,
      InvoicesService.create brand id publicToken input = .ok store → Inv store)
    (quiet : ∀ store recorded next, Inv store → QuietStep store recorded next → Inv next)
    (attempting : ∀ store method attempt, Inv store → Opens store method attempt →
      Inv (store.attempting attempt.payments))
    (applying : ∀ store result, Inv store → About store result → Inv (store.apply result))
    {store : Store} (reachable : NativeReachable π env store) : Inv store := by
  induction reachable with
  | created brand id publicToken input store success =>
      exact created brand id publicToken input store success
  | performed operation store reached ih =>
      exact NativeOperation.perform_invariant Inv operation store (quiet store _) attempting
        applying reached.native ih

/-- The total of a reachable invoice was added as a number, and its balance is that total, was
subtracted as a number or is zero. -/
theorem NativeReachable.doubles {π : Type} {env : Env} {store : Store}
    (reachable : NativeReachable π env store) :
    IsDouble store.invoice.totalMinor ∧ IsDouble store.invoice.balanceMinor := by
  refine ⟨reachable.worth ▸ isDouble_addNumbers _ _, ?_⟩
  refine reachable.invariant (fun store => IsDouble store.invoice.balanceMinor) ?_ ?_ ?_ ?_
  · intro brand id publicToken input store created
    have new := InvoicesService.create_ok created
    rw [new.whole, new.worth]
    exact isDouble_addNumbers _ _
  · intro store recorded next double step
    cases step with
    | kept _ same => rw [same]; exact double
    | issued => exact double
    | viewed => exact double
    | recorded paymentId uuid input amountMinor payments event _ granted rows same =>
        rw [same]
        exact isDouble_subtractNumbers _ _
    | cancelled => exact double
  · exact fun _ _ _ double _ => double
  · intro store result double about
    by_cases succeeded : result.status = .succeeded
    · simp only [Store.apply, Store.resolve, Invoice.afterResult, succeeded, balance_afterSuccess]
      split
      · rfl
      · exact double
    · have kept : (store.apply result).invoice.balanceMinor = store.invoice.balanceMinor :=
        balance_afterResult_of_unsuccessful store.invoice succeeded result.occurredAt
      rw [kept]
      exact double

theorem NativeReachable.run {π : Type} {env : Env} {store : Store}
    (reachable : NativeReachable π env store) (operations : List (NativeOperation π)) :
    NativeReachable π env (NativeOperation.run env operations store) := by
  induction operations generalizing store with
  | nil => exact reachable
  | cons operation rest ih => exact ih (.performed operation store reachable)

theorem NativeReachable.always {π : Type} {env : Env} {store : Store}
    (reachable : NativeReachable π env store) (operations : List (NativeOperation π)) :
    Runs.Always (NativeOperation.perform env) (NativeReachable π env)
      operations store :=
  Runs.always_of_keeps (fun store operation reached => .performed operation store reached) reachable

/-! ## One invoice to run the statements on -/

def sampleBrand : BrandRows where
  id := "brand"
  customer := some { email := some "payer@example.test" }
  settings := some {
    cardEnabled := true, applePayEnabled := true, googlePayEnabled := true, achEnabled := true
    checkEnabled := true }
  invoicePrefix := "INV"
  nextSequence := 1
  numbers := []

def sampleDraft : InvoiceDraftInput where
  currency := .usd
  lines := [{
    itemName := "Service", description := none, quantity := "1", unitPrice := "100.00"
    taxExempt := true }]
  taxRateBp := 0
  cardFeeRateBp := 300
  notes := none

def sampleInvoice : Store where
  invoice := {
    id := "invoice", brandId := "brand", number := "INV-0001", status := .draft
    currency := "USD", subtotalMinor := 10000, taxRateBpApplied := 0, taxMinor := 0
    cardFeeRateBpApplied := 300, cardFeeMinor := 0, totalMinor := 10000, balanceMinor := 10000
    publicToken := "token", notes := none, zohoInvoiceId := none, zohoSyncedVersion := none
    issuedAt := none, firstViewedAt := none, paidAt := none, cancelledAt := none
    previousStatus := none }
  lineItems := [{
    position := 0, itemName := "Service", description := none, quantity := 10000
    unitPriceMinor := 10000, lineTotalMinor := 10000, taxExempt := true }]
  customer := { email := some "payer@example.test" }
  settings := sampleBrand.settings
  payments := UniqueTable.empty
  events := []
  checkSubmissions := []

theorem sampleInvoice_created :
    InvoicesService.create sampleBrand "invoice" "token" sampleDraft = .ok sampleInvoice := rfl

def sampleEnv : Env where
  paymentPublicUrl := "https://pay.example.test"
  sha256Hex := id

theorem sampleInvoice_reachable (π : Type) : NativeReachable π sampleEnv sampleInvoice :=
  .created sampleBrand "invoice" "token" sampleDraft sampleInvoice sampleInvoice_created

def samplePayer : PublicScope where
  brandId := "brand"
  invoiceId := "invoice"

def sampleIssue (π : Type) : NativeOperation π :=
  .issue (.user "staff") "brand" "invoice" 0

def samplePayment (π : Type) (id amount : String) : NativeOperation π :=
  .recordManualPayment (.user "staff") "brand" "invoice" id id
    { amount, method := .check, paidAt := 0, reference := none }

def sampleCancel (π : Type) : NativeOperation π :=
  .cancel (.user "staff") "brand" "invoice" 0

/-- A gateway whose payloads are the events themselves and which answers a new intent
and a retrieval with the given status at the given time. -/
def sampleGateway (reference : String) (status : PaymentIntentStatus) (occurredAt : Time) :
    PaymentGatewayPort GatewayWebhookEvent where
  createIntent := fun _ => .ok {
    gatewayReference := reference, status, clientToken := none, occurredAt
    declineReason := none }
  retrieve := fun reference _ => .ok {
    gatewayReference := reference, status, clientToken := none, occurredAt
    declineReason := none }
  verifySignature := fun _ _ _ => true
  parseWebhook := fun event _ => .ok event
  resolveBrandId := none

def sampleAttempt (reference : String) (status : PaymentIntentStatus) (occurredAt : Time) :
    NativeOperation GatewayWebhookEvent :=
  .createIntent (sampleGateway reference status occurredAt) reference samplePayer .ach reference

def sampleEvent (reference : String) (type : GatewayEventType) (occurredAt : Time) :
    GatewayWebhookEvent where
  id := reference
  type := type
  gatewayReference := reference
  occurredAt := occurredAt
  declineReason := none
  accountRef := none

def sampleDelivery (reference : String) (type : GatewayEventType) (occurredAt : Time) :
    NativeOperation GatewayWebhookEvent :=
  .handleWebhook (sampleGateway reference .processing 0) (sampleEvent reference type occurredAt)
    [] none

end MultiBrandInvoicing
