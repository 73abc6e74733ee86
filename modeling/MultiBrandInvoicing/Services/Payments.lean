import MultiBrandInvoicing.Persistence.Statements

/-!
# Payment attempts and their settlement

`apps/api/src/payments/payments.service.ts`.  The gateway, the clock and the random
identifiers are arguments.  `applySettlement` is the one place where a gateway result
changes rows; the synchronous path, the webhook and the client confirmation all end
in it.
-/

set_option autoImplicit false

namespace MultiBrandInvoicing

open ReadCommitted Program

structure Env where
  paymentPublicUrl : String
  /-- `createHash('sha256').update(text).digest('hex')`. -/
  sha256Hex : String → String

structure PaymentAttemptResult where
  gatewayStatus : PaymentIntentStatus
  invoiceStatus : InvoiceStatus
  declineReason : Option String
  clientToken : Option String
  deriving DecidableEq, Repr

namespace PaymentsService

def paymentStatusToIntentStatus : PaymentStatus → PaymentIntentStatus
  | .settled => .succeeded
  | .partiallyRefunded => .succeeded
  | .refunded => .succeeded
  | .failed => .failed
  | .initiated => .processing
  | .processing => .processing
  | .cancelled => .processing

def isMethodEnabled (method : PaymentMethod) (settings : BrandSettings) : Bool :=
  match method with
  | .card => settings.cardEnabled
  | .wallet => settings.applePayEnabled || settings.googlePayEnabled
  | .ach => settings.achEnabled
  | .check => settings.checkEnabled
  | .manual => true

structure SettlementInput where
  invoiceId : String
  paymentId : String
  invoiceTotalMinor : Int
  invoiceStatusBeforeAttempt : InvoiceStatus
  currentInvoiceStatus : InvoiceStatus
  gatewayStatus : PaymentIntentStatus
  occurredAt : Time
  declineReason : Option String
  deriving DecidableEq, Repr

def applySettlement (input : SettlementInput) : Tx Unit :=
  match input.gatewayStatus with
  | .succeeded => do
      updatePayment input.paymentId
        { status := .settled, settledAt := some input.occurredAt, lastEventAt := input.occurredAt }
      let context : TransitionContext := {
        status := input.currentInvoiceStatus
        lineItemCount := 0
        totalMinor := input.invoiceTotalMinor
        balanceMinor := 0
        settledMinor := input.invoiceTotalMinor
        customerHasDeliverableEmail := true }
      match evaluateTransition .settleFull context with
      | .refused _ _ => pure ()
      | .ok target => do
          updateInvoice (.statusWrite .settleFull context target) input.invoiceId fun invoice =>
            { invoice with
              status := target, balanceMinor := 0, paidAt := some input.occurredAt
              previousStatus := none }
          createInvoiceEvent {
            eventType := .paymentSettled, fromStatus := input.currentInvoiceStatus
            toStatus := target, actor := "system" }
  | .failed => do
      updatePayment input.paymentId
        { status := .failed, declineReason := some input.declineReason
          lastEventAt := input.occurredAt }
      let context : TransitionContext := {
        status := input.currentInvoiceStatus
        previousStatus := some input.invoiceStatusBeforeAttempt
        lineItemCount := 0
        totalMinor := input.invoiceTotalMinor
        balanceMinor := input.invoiceTotalMinor
        settledMinor := 0
        customerHasDeliverableEmail := true }
      match evaluateTransition .paymentFailed context with
      | .refused _ _ => pure ()
      | .ok target => do
          updateInvoice (.statusWrite .paymentFailed context target) input.invoiceId
            fun invoice => { invoice with status := target, previousStatus := none }
          createInvoiceEvent {
            eventType := .paymentFailed, fromStatus := input.currentInvoiceStatus
            toStatus := target, actor := "system"
            payload := (input.declineReason.filter (· ≠ "")).map .declined }
  | _ =>
      updatePayment input.paymentId { status := .processing, lastEventAt := input.occurredAt }

section CreateIntent

variable {π : Type} (env : Env) (gateway : PaymentGatewayPort π)

def startFailure : GatewayFailure → ServiceError
  | .integrationError _ =>
      .conflict "The payment could not be started. Please try again in a moment."
  | .other message => .gateway (.other message)

/-- The gateway call.  Any failure of it rolls back the transaction around it. -/
def startIntent (input : CreateIntentInput) : Tx PaymentIntent := do
  announce (.gatewayCreateIntent input)
  ofExcept startFailure (gateway.createIntent input)

def quoteInput (store : Store) (method : PaymentMethod) : CalculationInput where
  lines := store.lineItems.map LineItem.toCalculationLine
  taxRateBp := store.invoice.taxRateBpApplied
  cardFeeRateBp := store.invoice.cardFeeRateBpApplied
  paymentMethod := method

def initiationContext (store : Store) : TransitionContext where
  status := store.invoice.status
  lineItemCount := store.lineItems.length
  totalMinor := toNumber store.invoice.totalMinor
  balanceMinor := toNumber store.invoice.balanceMinor
  settledMinor := 0
  customerHasDeliverableEmail := store.customer.email.any (· ≠ "")

def intentInput (store : Store) (method : PaymentMethod) (chargeMinor : Int)
    (idempotencyKey : String) : CreateIntentInput where
  idempotencyKey := idempotencyKey
  invoiceId := store.invoice.id
  brandId := store.invoice.brandId
  amountMinor := chargeMinor
  currency := store.invoice.currency
  method := method
  description := s!"Invoice {store.invoice.number}"
  customer := { email := store.customer.email, name := none }
  returnUrl := s!"{env.paymentPublicUrl}/i/{store.invoice.publicToken}"

def newAttempt (store : Store) (paymentId : String) (method : PaymentMethod)
    (chargeMinor : Int) (idempotencyKey : String) : Payment where
  id := paymentId
  brandId := store.invoice.brandId
  method := method
  amountMinor := chargeMinor
  currency := store.invoice.currency
  status := .initiated
  idempotencyKey := idempotencyKey

/-- The rest of `createIntent` once no earlier attempt has the key.  `store` is what
the invoice was read from. -/
def startAttempt (store : Store) (paymentId : String) (method : PaymentMethod)
    (chargeMinor : Int) (idempotencyKey : String) : Tx PaymentAttemptResult := do
  let context := initiationContext store
  let target ← transitionOrConflict .initiatePayment context
  createPayment (newAttempt store paymentId method chargeMinor idempotencyKey)
  updateInvoice (.statusWrite .initiatePayment context target) store.invoice.id fun invoice =>
    { invoice with status := target, previousStatus := some store.invoice.status }
  let intent ← startIntent gateway (intentInput env store method chargeMinor idempotencyKey)
  updatePaymentReference paymentId intent.gatewayReference
  applySettlement {
    invoiceId := store.invoice.id
    paymentId := paymentId
    invoiceTotalMinor := toNumber store.invoice.totalMinor
    invoiceStatusBeforeAttempt := store.invoice.status
    currentInvoiceStatus := target
    gatewayStatus := intent.status
    occurredAt := intent.occurredAt
    declineReason := intent.declineReason }
  let final ← read
  commitNow
  if intent.status = .succeeded then
    announce (.enqueue (.pushPayment store.invoice.brandId paymentId))
  pure {
    gatewayStatus := intent.status
    invoiceStatus := final.invoice.status
    declineReason := intent.declineReason
    clientToken := if intent.status = .requiresAction then intent.clientToken else none }

def attemptKey (store : Store) (chargeMinor : Int) (attemptNonce : String) : String :=
  env.sha256Hex s!"{store.invoice.id}:{chargeMinor}:{attemptNonce}"

def createIntent (paymentId : String) (scope : PublicScope) (method : PaymentMethod)
    (attemptNonce : String) : Tx PaymentAttemptResult := do
  let store ← read
  require (store.invoice.id = scope.invoiceId) (.badRequest "invoice not found")
  let settings := (← read).settings
  require (settings.any (isMethodEnabled method))
    (.conflict s!"{method.code} is not enabled for this brand")
  let quote ← ofExcept .money (calculate (quoteInput store method))
  let idempotencyKey := attemptKey env store quote.totalMinor attemptNonce
  let payments := (← read).payments.rows
  match payments.find? fun payment => payment.idempotencyKey = idempotencyKey with
  | some existing =>
      pure {
        gatewayStatus := paymentStatusToIntentStatus existing.status
        invoiceStatus := store.invoice.status
        declineReason := existing.declineReason
        clientToken := none }
  | none => startAttempt env gateway store paymentId method quote.totalMinor idempotencyKey

end CreateIntent

section Deliveries

variable {π : Type} (gateway : PaymentGatewayPort π)

/-- The brand an event is attributed to: `none` when the event names an account no
brand has connected, `some none` when nothing was there to check. -/
def attributedBrandId (event : GatewayWebhookEvent) (brandId : Option String) :
    Option (Option String) :=
  match gateway.resolveBrandId, event.accountRef.filter (· ≠ "") with
  | some resolve, some _ => ((resolve event).filter (· ≠ "")).map some
  | _, _ => some brandId

def ownedBy (attributed : Option String) (payment : Payment) : Bool :=
  (attributed.filter (· ≠ "")).all (payment.brandId = ·)

/-- The ordering guard: an event no newer than the last applied one. -/
def isStale (payment : Payment) (event : GatewayWebhookEvent) : Bool :=
  payment.lastEventAt.any fun last => event.occurredAt ≤ last

def webhookStatus : GatewayEventType → PaymentIntentStatus
  | .paymentSucceeded => .succeeded
  | .paymentFailed => .failed
  | _ => .processing

def handleWebhook (rawBody : π) (headers : List (String × String)) (brandId : Option String) :
    Tx Unit := do
  require (gateway.verifySignature rawBody headers brandId)
    (.badRequest "invalid webhook signature")
  let event ← ofExcept .gateway (gateway.parseWebhook rawBody brandId)
  match attributedBrandId gateway event brandId with
  | none => pure ()
  | some attributed => do
      let store ← read
      let named := store.payments.rows.find? fun payment =>
        payment.gatewayReference = some event.gatewayReference
      match named with
      | none => pure ()
      | some payment =>
          if !ownedBy attributed payment then pure ()
          else if event.type = .unknown then pure ()
          else if isStale payment event then pure ()
          else do
            applySettlement {
              invoiceId := store.invoice.id
              paymentId := payment.id
              invoiceTotalMinor := toNumber store.invoice.totalMinor
              invoiceStatusBeforeAttempt :=
                store.invoice.previousStatus.getD store.invoice.status
              currentInvoiceStatus := store.invoice.status
              gatewayStatus := webhookStatus event.type
              occurredAt := event.occurredAt
              declineReason := event.declineReason }
            commitNow
            if webhookStatus event.type = .succeeded then
              announce (.enqueue (.pushPayment store.invoice.brandId payment.id))

def reportPayment (paymentId : String) : Tx PaymentAttemptResult := do
  let store ← read
  match store.payments.rows.find? fun row => row.id = paymentId with
  | none => .throw .recordNotFound
  | some payment =>
      pure {
        gatewayStatus := paymentStatusToIntentStatus payment.status
        invoiceStatus := store.invoice.status
        declineReason := payment.declineReason
        clientToken := none }

def confirmClientResult (now : Time) (scope : PublicScope) (gatewayReference : String) :
    Tx PaymentAttemptResult := do
  let store ← read
  let named := store.payments.rows.find? fun payment =>
    store.invoice.id = scope.invoiceId && payment.gatewayReference = some gatewayReference
  match named with
  | none => .throw (.badRequest "no matching payment attempt for this invoice")
  | some payment =>
      if payment.status = .initiated ∨ payment.status = .processing then do
        let intent ← ofExcept .gateway (gateway.retrieve gatewayReference payment.brandId)
        if intent.status = .succeeded ∨ intent.status = .failed then
          applySettlement {
            invoiceId := store.invoice.id
            paymentId := payment.id
            invoiceTotalMinor := toNumber store.invoice.totalMinor
            invoiceStatusBeforeAttempt :=
              store.invoice.previousStatus.getD store.invoice.status
            currentInvoiceStatus := store.invoice.status
            gatewayStatus := intent.status
            occurredAt := now
            declineReason := intent.declineReason }
          if intent.status = .succeeded then
            announce (.enqueue (.pushPayment payment.brandId payment.id))
        reportPayment payment.id
      else
        pure {
          gatewayStatus := paymentStatusToIntentStatus payment.status
          invoiceStatus := store.invoice.status
          declineReason := payment.declineReason
          clientToken := none }

end Deliveries

end PaymentsService

end MultiBrandInvoicing
