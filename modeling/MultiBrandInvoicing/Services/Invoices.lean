import MultiBrandInvoicing.Persistence.Statements

/-!
# Creating, issuing, paying by hand and cancelling

`apps/api/src/invoices/invoices.service.ts`.  `create` builds the rows of a new
invoice from the rows of its brand; the other operations are sessions on the rows of
one invoice.  Each is followed by what it does to them when nothing runs beside it.
-/

set_option autoImplicit false

namespace MultiBrandInvoicing

open ReadCommitted Program

structure LineItemInput where
  itemName : String
  description : Option String
  quantity : String
  unitPrice : String
  taxExempt : Bool
  deriving DecidableEq, Repr

structure InvoiceDraftInput where
  currency : CurrencyCode
  lines : List LineItemInput
  taxRateBp : Int
  cardFeeRateBp : Int
  notes : Option String
  deriving DecidableEq, Repr

/-- What `create` reads from the brand's rows: the customer the draft names, the
settings row with its numbering, and the numbers its invoices already have. -/
structure BrandRows where
  id : String
  customer : Option Customer
  settings : Option BrandSettings
  invoicePrefix : String
  nextSequence : Nat
  numbers : List String
  deriving DecidableEq, Repr

/-- `MANUAL_PAYMENT_METHODS`. -/
inductive ManualPaymentMethod where
  | manual | check | ach
  deriving DecidableEq, Repr

def ManualPaymentMethod.toPaymentMethod : ManualPaymentMethod → PaymentMethod
  | .manual => .manual
  | .check => .check
  | .ach => .ach

structure RecordManualPaymentInput where
  amount : String
  method : ManualPaymentMethod
  paidAt : Time
  reference : Option String
  deriving DecidableEq, Repr

namespace InvoicesService

def calculationLine (currency : CurrencyCode) (line : LineItemInput) :
    Except MoneyError CalculationLineInput := do
  let quantity ← quantityFrom line.quantity
  let unitPriceMinor ← parseMinor line.unitPrice currency
  return { quantity, unitPriceMinor, taxExempt := line.taxExempt }

/-- The stored lines, zipped by position from the draft, the parsed lines and the
calculated ones. -/
def createdLines : Nat → List LineItemInput → List CalculationLineInput →
    List CalculationLineResult → List LineItem
  | position, source :: sources, line :: lines, computed :: results =>
      { position
        itemName := source.itemName
        description := source.description
        quantity := line.quantity
        unitPriceMinor := line.unitPriceMinor
        lineTotalMinor := computed.lineTotalMinor
        taxExempt := line.taxExempt } ::
        createdLines (position + 1) sources lines results
  | _, _, _, _ => []

def invoiceNumber (brand : BrandRows) : String :=
  s!"{brand.invoicePrefix}-{padStart (toString brand.nextSequence) 4}"

/-- The parsed lines of a draft and their calculation, without any card fee. -/
def quoteDraft (input : InvoiceDraftInput) :
    Except MoneyError (List CalculationLineInput × CalculationResult) := do
  let calcLines ← input.lines.mapM (calculationLine input.currency)
  let result ← calculate {
    lines := calcLines
    taxRateBp := input.taxRateBp
    cardFeeRateBp := input.cardFeeRateBp
    paymentMethod := .manual }
  return (calcLines, result)

def create (brand : BrandRows) (id publicToken : String) (input : InvoiceDraftInput) :
    Except ServiceError Store :=
  match brand.customer with
  | none => .error (.notFound "customer not found for this brand")
  | some customer =>
      match quoteDraft input with
      | .error error => .error (.money error)
      | .ok (calcLines, result) =>
          if brand.settings.isNone then .error .recordNotFound
          else if brand.numbers.contains (invoiceNumber brand) then
            .error (.conflict "invoice number collision — retry")
          else
            .ok {
              invoice := {
                id
                brandId := brand.id
                number := invoiceNumber brand
                status := .draft
                currency := input.currency.code
                subtotalMinor := result.subtotalMinor
                taxRateBpApplied := result.taxRateBpApplied
                taxMinor := result.taxMinor
                cardFeeRateBpApplied := result.cardFeeRateBpApplied
                cardFeeMinor := 0
                totalMinor := result.totalMinor
                balanceMinor := result.totalMinor
                publicToken
                notes := input.notes
                zohoInvoiceId := none
                zohoSyncedVersion := none
                issuedAt := none
                firstViewedAt := none
                paidAt := none
                cancelledAt := none
                previousStatus := none }
              lineItems := createdLines 0 input.lines calcLines result.lines
              customer
              settings := brand.settings
              payments := UniqueTable.empty
              events := []
              checkSubmissions := [] }

def isInvoice (store : Store) (brandId id : String) : Bool :=
  store.invoice.id = id && store.invoice.brandId = brandId

def issueContext (store : Store) : TransitionContext where
  status := store.invoice.status
  lineItemCount := store.lineItems.length
  totalMinor := toNumber store.invoice.totalMinor
  balanceMinor := toNumber store.invoice.balanceMinor
  settledMinor := 0
  customerHasDeliverableEmail := store.customer.email.any (· ≠ "")

def issue (scope : Scope) (brandId id : String) (now : Time) : Tx Invoice := do
  let store ← read
  require (isInvoice store brandId id) (.notFound "invoice not found")
  let target ← transitionOrConflict .issue (issueContext store)
  updateInvoice (.statusWrite .issue (issueContext store) target) id fun invoice =>
    { invoice with status := target, issuedAt := some now }
  let updated ← read
  createInvoiceEvent {
    eventType := .issue, fromStatus := store.invoice.status, toStatus := target
    actor := scope.actor }
  commitNow
  announce (.enqueue (.pushInvoice brandId id))
  pure updated.invoice

/-- What the payments so far come to, as it is computed from the two columns. -/
def settledBefore (invoice : Invoice) : Int :=
  subtractNumbers (toNumber invoice.totalMinor) (toNumber invoice.balanceMinor)

def settledWith (invoice : Invoice) (amountMinor : Int) : Int :=
  addNumbers (settledBefore invoice) amountMinor

def newBalance (invoice : Invoice) (amountMinor : Int) : Int :=
  subtractNumbers (toNumber invoice.balanceMinor) amountMinor

def recordContext (store : Store) (amountMinor : Int) : TransitionContext where
  status := store.invoice.status
  lineItemCount := 0
  totalMinor := toNumber store.invoice.totalMinor
  balanceMinor := toNumber store.invoice.balanceMinor
  settledMinor := settledWith store.invoice amountMinor
  customerHasDeliverableEmail := true

def recordOnInvoice (target : InvoiceStatus) (balanceMinor : Int) (paidAt : Time)
    (invoice : Invoice) : Invoice :=
  { invoice with
    status := target
    balanceMinor
    previousStatus := none
    paidAt := if target = .paid then some paidAt else invoice.paidAt }

def manualPayment (store : Store) (paymentId uuid : String) (input : RecordManualPaymentInput)
    (amountMinor : Int) : Payment where
  id := paymentId
  brandId := store.invoice.brandId
  method := input.method.toPaymentMethod
  amountMinor := amountMinor
  currency := store.invoice.currency
  status := .settled
  settledAt := some input.paidAt
  idempotencyKey := s!"manual:{uuid}"

def manualPayload (paymentId : String) (input : RecordManualPaymentInput) (amountMinor : Int) :
    EventPayload :=
  .manualPayment paymentId amountMinor input.method.toPaymentMethod
    (input.reference.filter (· ≠ ""))

def manualPaymentEvent (scope : Scope) (store : Store) (paymentId : String)
    (input : RecordManualPaymentInput) (amountMinor : Int) (target : InvoiceStatus) :
    InvoiceEvent where
  eventType := .manualPaymentRecorded
  fromStatus := store.invoice.status
  toStatus := target
  actor := scope.actor
  payload := some (manualPayload paymentId input amountMinor)

def recordManualPayment (scope : Scope) (brandId id paymentId uuid : String)
    (input : RecordManualPaymentInput) : Tx Invoice := do
  let store ← read
  require (isInvoice store brandId id) (.notFound "invoice not found")
  let amountMinor ← ofExcept .money
    (parseMinor input.amount (toCurrencyCode store.invoice.currency))
  let context := recordContext store amountMinor
  let target ← transitionOrConflict .recordPayment context
  -- The WHERE clause repeats the balance that was read, and nothing else of it.
  let matched ← updateManyInvoices (.statusWrite .recordPayment context target)
    (fun invoice => invoice.id = id && invoice.balanceMinor = store.invoice.balanceMinor)
    (recordOnInvoice target (newBalance store.invoice amountMinor) input.paidAt)
  require matched (.conflict "this invoice changed while saving — reload and try again")
  createPayment (manualPayment store paymentId uuid input amountMinor)
  createInvoiceEvent (manualPaymentEvent scope store paymentId input amountMinor target)
  let updated ← read
  commitNow
  announce (.enqueue (.pushPayment brandId paymentId))
  pure updated.invoice

def cancelContext (store : Store) : TransitionContext where
  status := store.invoice.status
  lineItemCount := 0
  totalMinor := toNumber store.invoice.totalMinor
  balanceMinor := toNumber store.invoice.balanceMinor
  settledMinor := toNumber (store.invoice.totalMinor - store.invoice.balanceMinor)
  customerHasDeliverableEmail := true

def cancel (scope : Scope) (brandId id : String) (now : Time) : Tx Invoice := do
  let store ← read
  require (isInvoice store brandId id) (.notFound "invoice not found")
  let target ← transitionOrConflict .cancel (cancelContext store)
  let matched ← updateManyInvoices (.statusWrite .cancel (cancelContext store) target)
    (fun invoice => invoice.id = id && invoice.status = store.invoice.status)
    fun invoice =>
      { invoice with status := target, cancelledAt := some now, previousStatus := none }
  require matched (.conflict "this invoice changed while saving — reload and try again")
  createInvoiceEvent {
    eventType := .cancel, fromStatus := store.invoice.status, toStatus := target
    actor := scope.actor }
  let updated ← read
  commitNow
  if updated.invoice.isPushed then
    announce (.enqueue (.pushInvoice brandId id))
  pure updated.invoice

/-! ## What the operations do to the rows -/

theorem createdLines_toCalculationLine (position : Nat) {sources : List LineItemInput}
    {lines : List CalculationLineInput} {results : List CalculationLineResult}
    (parsed : lines.length = sources.length) (priced : results.length = lines.length)
    (safe : ∀ line ∈ lines, isSafeInteger line.unitPriceMinor = true) :
    (createdLines position sources lines results).map LineItem.toCalculationLine = lines := by
  induction lines generalizing position sources results with
  | nil =>
      cases sources <;> rfl
  | cons line rest ih =>
      cases sources with
      | nil => cases parsed
      | cons source sources =>
          cases results with
          | nil => cases priced
          | cons computed results =>
              have sameLength : rest.length = sources.length := by simpa using parsed
              obtain ⟨safePrice, safeRest⟩ := List.forall_mem_cons.mp safe
              have others := ih (position + 1) sameLength (by simpa using priced) safeRest
              simp only [createdLines, List.map_cons, others, LineItem.toCalculationLine,
                toNumber_of_safe safePrice]

/-- An unpaid draft whose total is what its stored lines come to. -/
structure IsNew (store : Store) : Prop where
  draft : store.invoice.status = .draft
  unlinked : store.invoice.zohoInvoiceId = none
  unpaid : store.payments.rows = []
  whole : store.invoice.balanceMinor = store.invoice.totalMinor
  worth : store.invoice.totalMinor = linesWorth
    (store.lineItems.map LineItem.toCalculationLine) store.invoice.taxRateBpApplied
  summed : store.invoice.totalMinor = addNumbers store.invoice.subtotalMinor store.invoice.taxMinor
  safeSums : isSafeInteger store.invoice.subtotalMinor = true ∧
    isSafeInteger store.invoice.taxMinor = true

theorem create_ok {brand : BrandRows} {id publicToken : String} {input : InvoiceDraftInput}
    {store : Store} (created : create brand id publicToken input = .ok store) : IsNew store := by
  cases customer : brand.customer with
  | none => simp [create, customer] at created
  | some customer_ =>
      cases quoted : quoteDraft input with
      | error error => simp [create, customer, quoted] at created
      | ok both =>
          obtain ⟨calcLines, result⟩ := both
          simp only [create, customer, quoted] at created
          obtain ⟨parsed, mapped, quoted⟩ := bind_ok quoted
          obtain ⟨computed, calculated, quoted⟩ := bind_ok quoted
          cases quoted
          obtain ⟨accepted, answered⟩ := calculate_eq_ok.mp calculated
          have count : result.lines.length = calcLines.length := by
            simp [answered, CalculationInput.answer]
          have rate : result.taxRateBpApplied = input.taxRateBp := by rw [answered]; rfl
          have prices : ∀ line ∈ calcLines, isSafeInteger line.unitPriceMinor = true :=
            fun line member => (accepted.lines line member).2.1
          have sums : isSafeInteger result.subtotalMinor = true ∧
              isSafeInteger result.taxMinor = true := by
            rw [answered]
            exact ⟨accepted.subtotal, accepted.tax⟩
          have worth : result.totalMinor = linesWorth calcLines input.taxRateBp :=
            calculate_uncharged calculated rfl
          have summed : result.totalMinor = addNumbers result.subtotalMinor result.taxMinor := by
            rw [worth, answered]
            rfl
          by_cases missing : brand.settings.isNone = true
          · simp [missing] at created
          · by_cases collision : brand.numbers.contains (invoiceNumber brand) = true
            · rw [if_neg missing, if_pos collision] at created
              cases created
            · rw [if_neg missing, if_neg collision] at created
              cases created
              refine ⟨rfl, rfl, rfl, rfl, ?_, summed, sums⟩
              rw [createdLines_toCalculationLine 0 (mapM_length mapped) count prices, rate]
              exact worth

theorem create_previousStatus {brand : BrandRows} {id publicToken : String}
    {input : InvoiceDraftInput} {store : Store}
    (created : create brand id publicToken input = .ok store) :
    store.invoice.previousStatus = none := by
  unfold create at created
  repeat' split at created
  all_goals cases created
  rfl

theorem isInvoice_id {store : Store} {brandId id : String}
    (found : isInvoice store brandId id = true) : store.invoice.id = id := by
  simp only [isInvoice, Bool.and_eq_true, decide_eq_true_eq] at found
  exact found.1

def Store.issued (store : Store) (scope : Scope) (now : Time) : Store :=
  { store with
    invoice := { store.invoice with status := .sent, issuedAt := some now }
    events := store.events ++ [{
      eventType := .issue, fromStatus := .draft, toStatus := .sent, actor := scope.actor }] }

theorem issue_cases (scope : Scope) (brandId id : String) (now : Time) (store : Store) :
    ((issue scope brandId id now).exec store).store = store ∨
      store.invoice.status = .draft ∧ 0 < store.lineItems.length ∧
        0 < store.invoice.totalMinor ∧
        ((issue scope brandId id now).exec store).store = Store.issued store scope now := by
  by_cases found : isInvoice store brandId id = true
  · cases decided : evaluateTransition .issue (issueContext store) with
    | refused code message =>
        left
        simp [exec, issue, execFrom_bind, found, transitionOrConflict_execFrom, decided]
    | ok target =>
        obtain ⟨draft, lines, total, _, rfl⟩ := issue_ok_iff.mp decided
        have draftRow : store.invoice.status = .draft := draft
        right
        refine ⟨draft, lines, toNumber_pos.mp total, ?_⟩
        simp [exec, issue, execFrom_bind, found, transitionOrConflict_execFrom, decided,
          isInvoice_id found, Store.issued, draftRow]
  · left
    simp [exec, issue, execFrom_bind, found]

structure Grants (invoice : Invoice) (amountMinor : Int) : Prop where
  payable : isPayable invoice.status = true
  raises : settledBefore invoice < settledWith invoice amountMinor
  within : settledWith invoice amountMinor ≤ toNumber invoice.totalMinor

instance (invoice : Invoice) (amountMinor : Int) : Decidable (Grants invoice amountMinor) :=
  decidable_of_iff
    (isPayable invoice.status = true ∧ settledBefore invoice < settledWith invoice amountMinor ∧
      settledWith invoice amountMinor ≤ toNumber invoice.totalMinor)
    ⟨fun ⟨payable, raises, within⟩ => ⟨payable, raises, within⟩,
      fun ⟨payable, raises, within⟩ => ⟨payable, raises, within⟩⟩

def afterManualPayment (invoice : Invoice) (amountMinor : Int) (paidAt : Time) : Invoice :=
  recordOnInvoice
    (if settledWith invoice amountMinor = toNumber invoice.totalMinor then .paid
      else .partiallyPaid)
    (newBalance invoice amountMinor) paidAt invoice

theorem status_afterManualPayment (invoice : Invoice) (amountMinor : Int) (paidAt : Time) :
    (afterManualPayment invoice amountMinor paidAt).status ≠ .cancelled := by
  simp only [afterManualPayment, recordOnInvoice]
  split <;> decide

theorem recordPayment_decision {store : Store} {amountMinor : Int} {target : InvoiceStatus} :
    evaluateTransition .recordPayment (recordContext store amountMinor) = .ok target ↔
      Grants store.invoice amountMinor ∧
        target = if settledWith store.invoice amountMinor = toNumber store.invoice.totalMinor
          then .paid else .partiallyPaid := by
  rw [recordPayment_ok_iff]
  constructor
  · rintro ⟨payable, raises, within, rfl⟩
    exact ⟨⟨payable, raises, within⟩, rfl⟩
  · rintro ⟨⟨payable, raises, within⟩, rfl⟩
    exact ⟨payable, raises, within, rfl⟩

theorem Grants.positive {invoice : Invoice} {amountMinor : Int}
    (granted : Grants invoice amountMinor) : 0 < amountMinor :=
  pos_of_lt_addNumbers (isDouble_subtractNumbers _ _) granted.raises

/-- Nothing is granted on an invoice that owes nothing. -/
theorem Grants.owing {invoice : Invoice} {amountMinor : Int}
    (granted : Grants invoice amountMinor) : 0 < invoice.balanceMinor := by
  by_contra cleared
  have nonpos := toNumber_nonpos.mpr (not_lt.mp cleared)
  have whole : toNumber (toNumber invoice.totalMinor) ≤ settledBefore invoice :=
    toNumber_mono (by omega)
  rw [isDouble_toNumber] at whole
  have raises := granted.raises
  have within := granted.within
  omega

/-- Rounded or not, a payment does not raise the balance above a number it was not above. -/
theorem newBalance_le {invoice : Invoice} {amountMinor limit : Int} (double : IsDouble limit)
    (within : invoice.balanceMinor ≤ limit) (positive : 0 < amountMinor) :
    newBalance invoice amountMinor ≤ limit := by
  have before : toNumber invoice.balanceMinor ≤ limit := double ▸ toNumber_mono within
  have after : newBalance invoice amountMinor ≤ toNumber limit := toNumber_mono (by omega)
  exact after.trans double.le

theorem newBalance_nonpos {invoice : Invoice} {amountMinor : Int}
    (safe : isSafeInteger amountMinor = true) (covers : invoice.balanceMinor ≤ amountMinor) :
    newBalance invoice amountMinor ≤ 0 := by
  have before := toNumber_mono covers
  rw [toNumber_of_safe safe] at before
  exact toNumber_nonpos.mpr (by omega)

/-! ## Where the sums of a recorded payment are exact -/

/-- No figure that a recorded payment is computed from, and none it is computed into, is
rounded. -/
structure ExactSums (invoice : Invoice) (amountMinor : Int) : Prop where
  total : IsDouble invoice.totalMinor
  balance : IsDouble invoice.balanceMinor
  settled : IsDouble (invoice.totalMinor - invoice.balanceMinor)
  cumulative : IsDouble (invoice.totalMinor - invoice.balanceMinor + amountMinor)
  rest : IsDouble (invoice.balanceMinor - amountMinor)

instance (invoice : Invoice) (amountMinor : Int) : Decidable (ExactSums invoice amountMinor) :=
  decidable_of_iff
    (IsDouble invoice.totalMinor ∧ IsDouble invoice.balanceMinor ∧
      IsDouble (invoice.totalMinor - invoice.balanceMinor) ∧
      IsDouble (invoice.totalMinor - invoice.balanceMinor + amountMinor) ∧
      IsDouble (invoice.balanceMinor - amountMinor))
    ⟨fun ⟨total, balance, settled, cumulative, rest⟩ =>
      ⟨total, balance, settled, cumulative, rest⟩,
      fun ⟨total, balance, settled, cumulative, rest⟩ =>
        ⟨total, balance, settled, cumulative, rest⟩⟩

section ExactSums

variable {invoice : Invoice} {amountMinor : Int}

theorem ExactSums.settledBefore_eq (exact_ : ExactSums invoice amountMinor) :
    settledBefore invoice = invoice.totalMinor - invoice.balanceMinor := by
  rw [settledBefore, exact_.total, exact_.balance, subtractNumbers_eq_iff.mpr exact_.settled]

theorem ExactSums.settledWith_eq (exact_ : ExactSums invoice amountMinor) :
    settledWith invoice amountMinor =
      invoice.totalMinor - invoice.balanceMinor + amountMinor := by
  rw [settledWith, exact_.settledBefore_eq, addNumbers_eq_iff.mpr exact_.cumulative]

theorem ExactSums.newBalance_eq (exact_ : ExactSums invoice amountMinor) :
    newBalance invoice amountMinor = invoice.balanceMinor - amountMinor := by
  rw [newBalance, exact_.balance, subtractNumbers_eq_iff.mpr exact_.rest]

theorem ExactSums.grants_iff (exact_ : ExactSums invoice amountMinor) :
    Grants invoice amountMinor ↔
      isPayable invoice.status = true ∧ 0 < amountMinor ∧ amountMinor ≤ invoice.balanceMinor := by
  have total : toNumber invoice.totalMinor = invoice.totalMinor := exact_.total
  constructor
  · intro granted
    have within := granted.within
    rw [exact_.settledWith_eq, total] at within
    exact ⟨granted.payable, granted.positive, by omega⟩
  · rintro ⟨payable, positive, within⟩
    refine ⟨payable, ?_, ?_⟩
    · rw [exact_.settledBefore_eq, exact_.settledWith_eq]
      omega
    · rw [exact_.settledWith_eq, total]
      omega

theorem ExactSums.afterManualPayment_eq (exact_ : ExactSums invoice amountMinor)
    (paidAt : Time) :
    afterManualPayment invoice amountMinor paidAt =
      recordOnInvoice (if amountMinor = invoice.balanceMinor then .paid else .partiallyPaid)
        (invoice.balanceMinor - amountMinor) paidAt invoice := by
  have total : toNumber invoice.totalMinor = invoice.totalMinor := exact_.total
  have clears : settledWith invoice amountMinor = toNumber invoice.totalMinor ↔
      amountMinor = invoice.balanceMinor := by
    rw [exact_.settledWith_eq, total]
    omega
  simp only [afterManualPayment, exact_.newBalance_eq, clears]

structure SafeFigures (invoice : Invoice) : Prop where
  total : isSafeInteger invoice.totalMinor = true
  balance : isSafeInteger invoice.balanceMinor = true
  settled : isSafeInteger (invoice.totalMinor - invoice.balanceMinor) = true

theorem safeFigures_of_within (safe : isSafeInteger invoice.totalMinor = true)
    (nonneg : 0 ≤ invoice.balanceMinor) (within : invoice.balanceMinor ≤ invoice.totalMinor) :
    SafeFigures invoice :=
  ⟨safe, isSafeInteger_of_le safe nonneg within, isSafeInteger_of_le safe (by omega) (by omega)⟩

theorem SafeFigures.exactSums (figures : SafeFigures invoice) (positive : 0 < amountMinor)
    (within : amountMinor ≤ invoice.balanceMinor) : ExactSums invoice amountMinor where
  total := isDouble_of_safe figures.total
  balance := isDouble_of_safe figures.balance
  settled := isDouble_of_safe figures.settled
  cumulative := isDouble_of_safe
    (isSafeInteger_of_between figures.settled figures.total (by omega) (by omega))
  rest := isDouble_of_safe (isSafeInteger_of_le figures.balance (by omega) (by omega))

theorem SafeFigures.within_of_granted (figures : SafeFigures invoice)
    (granted : Grants invoice amountMinor) : amountMinor ≤ invoice.balanceMinor := by
  have before : settledBefore invoice = invoice.totalMinor - invoice.balanceMinor := by
    rw [settledBefore, toNumber_of_safe figures.total, toNumber_of_safe figures.balance,
      subtractNumbers_of_safe figures.settled]
  have raises := granted.raises
  have within := granted.within
  rw [toNumber_of_safe figures.total] at within
  -- The cumulative amount lies between two safe integers, so it was added exactly.
  have safe := isSafeInteger_of_between figures.settled figures.total (before ▸ raises.le) within
  rw [settledWith, before, addNumbers, isSafeInteger_round] at safe
  rw [settledWith, before, addNumbers_of_safe safe] at within
  omega

theorem SafeFigures.exactSums_of_granted (figures : SafeFigures invoice)
    (granted : Grants invoice amountMinor) : ExactSums invoice amountMinor :=
  figures.exactSums granted.positive (figures.within_of_granted granted)

theorem SafeFigures.grants_iff (figures : SafeFigures invoice) :
    Grants invoice amountMinor ↔
      isPayable invoice.status = true ∧ 0 < amountMinor ∧ amountMinor ≤ invoice.balanceMinor :=
  ⟨fun granted => (figures.exactSums_of_granted granted).grants_iff.mp granted,
    fun both => (figures.exactSums both.2.1 both.2.2).grants_iff.mpr both⟩

end ExactSums

def Store.recorded (store : Store) (payments : PaymentTable) (amountMinor : Int)
    (paidAt : Time) (event : InvoiceEvent) : Store :=
  { store with
    invoice := afterManualPayment store.invoice amountMinor paidAt
    payments
    events := store.events ++ [event] }

structure Recording where
  amountMinor : Int
  payments : PaymentTable

def recorded? (store : Store) (brandId id paymentId uuid : String)
    (input : RecordManualPaymentInput) : Option Recording := do
  guard (isInvoice store brandId id)
  let amountMinor ← (parseMinor input.amount (toCurrencyCode store.invoice.currency)).toOption
  guard (Grants store.invoice amountMinor)
  let payments ← store.payments.insert? (manualPayment store paymentId uuid input amountMinor)
  return { amountMinor, payments }

theorem granted_of_recorded? {store : Store} {brandId id paymentId uuid : String}
    {input : RecordManualPaymentInput} {recording : Recording}
    (records : recorded? store brandId id paymentId uuid input = some recording) :
    Grants store.invoice recording.amountMinor := by
  simp only [recorded?, Option.bind_eq_bind, Option.bind_eq_some_iff,
    Option.guard_eq_some'] at records
  obtain ⟨_, _, amountMinor, _, _, granted, payments, _, same⟩ := records
  cases same
  exact granted

/-- A recorded payment is refused with nothing done, or lands whole and commits. -/
theorem recordManualPayment_cases (scope : Scope) (brandId id paymentId uuid : String)
    (input : RecordManualPaymentInput) (store : Store) :
    let execution := (recordManualPayment scope brandId id paymentId uuid input).execFrom
      store store
    (recorded? store brandId id paymentId uuid input = none ∧
        ∃ error, execution = ⟨.error error, store, store, []⟩) ∨
      ∃ amountMinor payments event,
        recorded? store brandId id paymentId uuid input = some ⟨amountMinor, payments⟩ ∧
        parseMinor input.amount (toCurrencyCode store.invoice.currency) = .ok amountMinor ∧
        Grants store.invoice amountMinor ∧
        payments.rows =
          store.payments.rows ++ [manualPayment store paymentId uuid input amountMinor] ∧
        event.payload = some (manualPayload paymentId input amountMinor) ∧
        let recorded := Store.recorded store payments amountMinor input.paidAt event
        execution =
          ⟨.ok recorded.invoice, recorded, recorded, [.enqueue (.pushPayment brandId paymentId)]⟩ := by
  intro execution
  by_cases found : isInvoice store brandId id = true
  · cases parsed : parseMinor input.amount (toCurrencyCode store.invoice.currency) with
    | error error =>
        left
        simp [execution, recordManualPayment, execFrom_bind, recorded?, found, parsed,
          Except.toOption]
    | ok amountMinor =>
        cases decided : evaluateTransition .recordPayment (recordContext store amountMinor) with
        | refused code message =>
            left
            have denied : ¬Grants store.invoice amountMinor := by
              intro granted
              have allowed := recordPayment_decision.mpr ⟨granted, rfl⟩
              rw [decided] at allowed
              cases allowed
            simp [execution, recordManualPayment, execFrom_bind, recorded?, found, parsed, denied,
              transitionOrConflict_execFrom, decided, Except.toOption]
        | ok target =>
            obtain ⟨granted, reached⟩ := recordPayment_decision.mp decided
            cases inserted : store.payments.insert?
                (manualPayment store paymentId uuid input amountMinor) with
            | none =>
                left
                simp [execution, recordManualPayment, execFrom_bind, recorded?, found, parsed,
                  granted, transitionOrConflict_execFrom, decided, isInvoice_id found,
                  createPayment_execFrom, inserted, Except.toOption]
            | some payments =>
                right
                refine ⟨amountMinor, payments,
                  manualPaymentEvent scope store paymentId input amountMinor target, ?_, rfl,
                  granted, UniqueTable.rows_of_insert? inserted, rfl, ?_⟩
                · simp [recorded?, found, parsed, granted, inserted, Except.toOption]
                · simp [execution, recordManualPayment, execFrom_bind, found, parsed,
                    transitionOrConflict_execFrom, decided, isInvoice_id found,
                    createPayment_execFrom, inserted, Store.recorded, afterManualPayment, reached]
  · left
    simp [execution, recordManualPayment, execFrom_bind, recorded?, found]

def Store.cancelled (store : Store) (scope : Scope) (now : Time) : Store :=
  { store with
    invoice :=
      { store.invoice with
        status := .cancelled, cancelledAt := some now, previousStatus := none }
    events := store.events ++ [{
      eventType := .cancel, fromStatus := store.invoice.status, toStatus := .cancelled
      actor := scope.actor }] }

theorem cancel_cases (scope : Scope) (brandId id : String) (now : Time) (store : Store) :
    ((cancel scope brandId id now).exec store).store = store ∨
      store.invoice.status ∈ allowed .cancel ∧
        store.invoice.totalMinor ≤ store.invoice.balanceMinor ∧
        ((cancel scope brandId id now).exec store).store = Store.cancelled store scope now := by
  by_cases found : isInvoice store brandId id = true
  · cases decided : evaluateTransition .cancel (cancelContext store) with
    | refused code message =>
        left
        simp [exec, cancel, execFrom_bind, found, transitionOrConflict_execFrom, decided]
    | ok target =>
        obtain ⟨status, settled, rfl⟩ := cancel_ok_iff.mp decided
        simp only [cancelContext, toNumber_nonpos] at status settled
        right
        refine ⟨status, by omega, ?_⟩
        obtain rfl := isInvoice_id found
        simp only [exec, cancel, read_bind, execFrom_select, execFrom_bind, require_execFrom,
          found, if_true, Execution.andThen_ok, Execution.after_nil,
          transitionOrConflict_execFrom, decided, updateManyInvoices_execFrom, decide_true,
          Bool.and_self, createInvoiceEvent_execFrom, commitNow_bind,
          execFrom_commit]
        split <;> rfl
  · left
    simp [exec, cancel, execFrom_bind, found]

theorem cancel_elsewhere {brandId id : String} {store : Store}
    (missing : isInvoice store brandId id = false) (scope : Scope) (now : Time) :
    ((cancel scope brandId id now).exec store).store = store := by
  simp [exec, cancel, execFrom_bind, missing]

end InvoicesService

end MultiBrandInvoicing
