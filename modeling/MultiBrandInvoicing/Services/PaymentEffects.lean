import MultiBrandInvoicing.Services.Payments

/-!
# What the payment operations do to the rows

`Store.resolve` is the effect of one gateway result.  Each operation of the payment
service, run with nothing beside it, leaves the rows as they were or leaves a
`Store.resolve` of them; the theorems here say which and when.
-/

set_option autoImplicit false

namespace MultiBrandInvoicing

open ReadCommitted Program

/-! ## What a gateway result does to the rows -/

/-- The invoice after a success: paid in full, where SETTLE_FULL may start. -/
def Invoice.afterSuccess (invoice : Invoice) (occurredAt : Time) : Invoice :=
  if invoice.status = .pendingPayment ∨ invoice.status = .partiallyPaid then
    { invoice with
      status := .paid, balanceMinor := 0, paidAt := some occurredAt, previousStatus := none }
  else invoice

/-- The status a decline returns a pending invoice to. -/
def Invoice.revertTarget? (invoice : Invoice) : Option InvoiceStatus :=
  if invoice.status = .pendingPayment then
    invoice.previousStatus.filter (· ≠ .pendingPayment)
  else none

def Invoice.afterDecline (invoice : Invoice) : Invoice :=
  match invoice.revertTarget? with
  | some target => { invoice with status := target, previousStatus := none }
  | none => invoice

def Invoice.afterResult (invoice : Invoice) (status : PaymentIntentStatus) (occurredAt : Time) :
    Invoice :=
  match status with
  | .succeeded => invoice.afterSuccess occurredAt
  | .failed => invoice.afterDecline
  | _ => invoice

def resultUpdate (status : PaymentIntentStatus) (occurredAt : Time)
    (declineReason : Option String) : PaymentUpdate :=
  match status with
  | .succeeded =>
      { status := .settled, settledAt := some occurredAt, lastEventAt := occurredAt }
  | .failed =>
      { status := .failed, declineReason := some declineReason, lastEventAt := occurredAt }
  | _ => { status := .processing, lastEventAt := occurredAt }

def Invoice.resultEvents (invoice : Invoice) (status : PaymentIntentStatus)
    (declineReason : Option String) : List InvoiceEvent :=
  match status with
  | .succeeded =>
      if invoice.status = .pendingPayment ∨ invoice.status = .partiallyPaid then
        [{ eventType := .paymentSettled, fromStatus := invoice.status, toStatus := .paid
           actor := "system" }]
      else []
  | .failed =>
      match invoice.revertTarget? with
      | some target =>
          [{ eventType := .paymentFailed, fromStatus := invoice.status, toStatus := target
             actor := "system"
             payload := (declineReason.filter (· ≠ "")).map .declined }]
      | none => []
  | _ => []

/-- The rows after a gateway result about one attempt. -/
def Store.resolve (store : Store) (paymentId : String) (status : PaymentIntentStatus)
    (occurredAt : Time) (declineReason : Option String) : Store :=
  { store with
    payments :=
      store.payments.applyUpdate paymentId (resultUpdate status occurredAt declineReason)
    invoice := store.invoice.afterResult status occurredAt
    events := store.events ++ store.invoice.resultEvents status declineReason }

/-! ## Results on one invoice -/

def Invoice.SameButSettlement (invoice next : Invoice) : Prop :=
  next = { invoice with
    status := next.status
    balanceMinor := next.balanceMinor
    paidAt := next.paidAt
    previousStatus := next.previousStatus }

/-- Whatever the result, the rest of the invoice stays. -/
theorem sameButSettlement_afterResult (invoice : Invoice) (status : PaymentIntentStatus)
    (occurredAt : Time) : invoice.SameButSettlement (invoice.afterResult status occurredAt) := by
  cases status with
  | succeeded =>
      simp only [Invoice.afterResult, Invoice.afterSuccess]
      split <;> rfl
  | failed =>
      simp only [Invoice.afterResult, Invoice.afterDecline]
      split <;> rfl
  | requiresAction => rfl
  | processing => rfl
  | cancelled => rfl

theorem afterResult_of_closed {invoice : Invoice} (closed : invoice.status ∉ allowed .settleFull)
    (status : PaymentIntentStatus) (occurredAt : Time) :
    invoice.afterResult status occurredAt = invoice := by
  have neither : invoice.status ≠ .pendingPayment ∧ invoice.status ≠ .partiallyPaid := by
    simpa [allowed] using closed
  cases status with
  | succeeded => simp [Invoice.afterResult, Invoice.afterSuccess, neither]
  | failed => simp [Invoice.afterResult, Invoice.afterDecline, Invoice.revertTarget?, neither]
  | requiresAction => rfl
  | processing => rfl
  | cancelled => rfl

theorem afterSuccess_of_open {invoice : Invoice} (listed : invoice.status ∈ allowed .settleFull)
    (occurredAt : Time) :
    (invoice.afterSuccess occurredAt).status = .paid ∧
      (invoice.afterSuccess occurredAt).balanceMinor = 0 := by
  have open_ : invoice.status = .pendingPayment ∨ invoice.status = .partiallyPaid := by
    simpa [allowed] using listed
  simp [Invoice.afterSuccess, open_]

theorem afterDecline_of_not_pending {invoice : Invoice}
    (settled : invoice.status ≠ .pendingPayment) : invoice.afterDecline = invoice := by
  simp [Invoice.afterDecline, Invoice.revertTarget?, settled]

theorem afterDecline_of_pending {invoice : Invoice} {before : InvoiceStatus}
    (pending : invoice.status = .pendingPayment) (previous : invoice.previousStatus = some before)
    (different : before ≠ .pendingPayment) :
    invoice.afterDecline = { invoice with status := before, previousStatus := none } := by
  simp [Invoice.afterDecline, Invoice.revertTarget?, pending, previous, Option.filter, different]

/-- A second decline finds nothing left to return to. -/
theorem afterDecline_afterDecline (invoice : Invoice) :
    invoice.afterDecline.afterDecline = invoice.afterDecline := by
  cases reverts : invoice.revertTarget? with
  | none =>
      have kept : invoice.afterDecline = invoice := by simp [Invoice.afterDecline, reverts]
      rw [kept, kept]
  | some target =>
      have different : target ≠ .pendingPayment := by
        intro pending
        subst pending
        simp [Invoice.revertTarget?, Option.filter_eq_some_iff] at reverts
      apply afterDecline_of_not_pending
      simpa [Invoice.afterDecline, reverts] using different

/-- No result makes an invoice pending. -/
theorem afterResult_not_pending {invoice : Invoice} (settled : invoice.status ≠ .pendingPayment)
    (status : PaymentIntentStatus) (occurredAt : Time) :
    (invoice.afterResult status occurredAt).status ≠ .pendingPayment := by
  cases status with
  | succeeded =>
      simp only [Invoice.afterResult, Invoice.afterSuccess]
      split
      · simp
      · exact settled
  | failed =>
      simp only [Invoice.afterResult, afterDecline_of_not_pending settled]
      exact settled
  | requiresAction => exact settled
  | processing => exact settled
  | cancelled => exact settled

theorem afterResult_of_paid {invoice : Invoice} (paid : invoice.status = .paid)
    (status : PaymentIntentStatus) (occurredAt : Time) :
    invoice.afterResult status occurredAt = invoice :=
  afterResult_of_closed (by simp [paid, allowed]) status occurredAt

theorem balance_afterResult_of_unsuccessful (invoice : Invoice) {status : PaymentIntentStatus}
    (unsuccessful : status ≠ .succeeded) (occurredAt : Time) :
    (invoice.afterResult status occurredAt).balanceMinor = invoice.balanceMinor := by
  cases status with
  | succeeded => exact absurd rfl unsuccessful
  | failed =>
      simp only [Invoice.afterResult, Invoice.afterDecline]
      split <;> rfl
  | requiresAction => rfl
  | processing => rfl
  | cancelled => rfl

theorem balance_afterSuccess (invoice : Invoice) (occurredAt : Time) :
    (invoice.afterSuccess occurredAt).balanceMinor =
      if invoice.status ∈ allowed .settleFull then 0 else invoice.balanceMinor := by
  have listed : invoice.status ∈ allowed .settleFull ↔
      (invoice.status = .pendingPayment ∨ invoice.status = .partiallyPaid) := by
    simp [allowed]
  unfold Invoice.afterSuccess
  simp only [listed]
  split <;> rfl

theorem resultUpdate_settled {status : PaymentIntentStatus} {occurredAt : Time}
    {declineReason : Option String} :
    (resultUpdate status occurredAt declineReason).status = .settled ↔ status = .succeeded := by
  cases status <;> simp [resultUpdate]

namespace PaymentsService

theorem settleFull_decision (context : TransitionContext)
    (covered : context.settledMinor = context.totalMinor) :
    (∃ code message, evaluateTransition .settleFull context = .refused code message ∧
        ¬(context.status = .pendingPayment ∨ context.status = .partiallyPaid)) ∨
      evaluateTransition .settleFull context = .ok .paid ∧
        (context.status = .pendingPayment ∨ context.status = .partiallyPaid) := by
  cases decided : evaluateTransition .settleFull context with
  | ok target =>
      obtain ⟨status, _, rfl⟩ := settleFull_ok_iff.mp decided
      exact .inr ⟨rfl, status⟩
  | refused code message =>
      refine .inl ⟨code, message, rfl, ?_⟩
      intro status
      have granted := settleFull_ok_iff.mpr ⟨status, covered.ge, rfl⟩
      rw [decided] at granted
      cases granted

theorem paymentFailed_decision (context : TransitionContext) (invoice : Invoice)
    (status : context.status = invoice.status)
    (previous : context.previousStatus = some (invoice.previousStatus.getD invoice.status)) :
    (∃ code message, evaluateTransition .paymentFailed context = .refused code message ∧
        invoice.revertTarget? = none) ∨
      ∃ target, evaluateTransition .paymentFailed context = .ok target ∧
        invoice.revertTarget? = some target := by
  have granted : ∀ target, evaluateTransition .paymentFailed context = .ok target ↔
      invoice.revertTarget? = some target := by
    intro target
    rw [paymentFailed_ok_iff, status, previous]
    unfold Invoice.revertTarget?
    by_cases pending : invoice.status = .pendingPayment
    · cases recorded : invoice.previousStatus with
      | none =>
          simp only [pending, Option.getD_none, Option.some.injEq, true_and, if_true,
            Option.filter_none, reduceCtorEq, iff_false]
          exact fun both => both.2 both.1.symm
      | some earlier =>
          simp only [pending, Option.getD_some, Option.some.injEq, true_and, if_true,
            Option.filter_eq_some_iff, decide_eq_true_eq]
    · simp [pending]
  cases decided : evaluateTransition .paymentFailed context with
  | ok target => exact .inr ⟨target, rfl, (granted target).mp decided⟩
  | refused code message =>
      refine .inl ⟨code, message, rfl, ?_⟩
      cases reverts : invoice.revertTarget? with
      | none => rfl
      | some target =>
          have allowed := (granted target).mpr reverts
          rw [decided] at allowed
          cases allowed

theorem applySettlement_execFrom (input : SettlementInput) (committed view : Store)
    (here : ∃ payment ∈ view.payments.rows, payment.id = input.paymentId)
    (invoice : view.invoice.id = input.invoiceId)
    (current : input.currentInvoiceStatus = view.invoice.status)
    (before : input.invoiceStatusBeforeAttempt =
      view.invoice.previousStatus.getD view.invoice.status) :
    (applySettlement input).execFrom committed view =
      ⟨.ok (), committed,
        view.resolve input.paymentId input.gatewayStatus input.occurredAt input.declineReason,
        []⟩ := by
  obtain ⟨invoiceId, paymentId, total, original, status, gatewayStatus, occurredAt, reason⟩ :=
    input
  simp only at here invoice current before
  subst current before
  cases gatewayStatus with
  | succeeded =>
      rcases settleFull_decision {
          status := view.invoice.status, lineItemCount := 0, totalMinor := total
          balanceMinor := 0, settledMinor := total, customerHasDeliverableEmail := true } rfl
        with ⟨code, message, refused, status⟩ | ⟨granted, status⟩
      · simp [applySettlement, execFrom_bind, here, refused, Store.resolve, resultUpdate, Invoice.afterResult,
          Invoice.afterSuccess, Invoice.resultEvents, status]
      · simp [applySettlement, execFrom_bind, here, granted, invoice, Store.resolve, resultUpdate,
          Invoice.afterResult, Invoice.afterSuccess, Invoice.resultEvents, status]
  | failed =>
      rcases paymentFailed_decision {
          status := view.invoice.status
          previousStatus := some (view.invoice.previousStatus.getD view.invoice.status)
          lineItemCount := 0, totalMinor := total, balanceMinor := total, settledMinor := 0
          customerHasDeliverableEmail := true } view.invoice rfl rfl
        with ⟨code, message, refused, kept⟩ | ⟨target, granted, reverts⟩
      · simp [applySettlement, execFrom_bind, here, refused, Store.resolve, resultUpdate, Invoice.afterResult,
          Invoice.afterDecline, Invoice.resultEvents, kept]
      · simp [applySettlement, execFrom_bind, here, granted, invoice, Store.resolve, resultUpdate,
          Invoice.afterResult, Invoice.afterDecline, Invoice.resultEvents, reverts]
  | processing =>
      simp [applySettlement, here, Store.resolve, resultUpdate, Invoice.afterResult,
        Invoice.resultEvents]
  | requiresAction =>
      simp [applySettlement, here, Store.resolve, resultUpdate, Invoice.afterResult,
        Invoice.resultEvents]
  | cancelled =>
      simp [applySettlement, here, Store.resolve, resultUpdate, Invoice.afterResult,
        Invoice.resultEvents]

end PaymentsService

/-! ## The operations -/

/-- A gateway result that is about to be applied, with the payment as it stands. -/
structure GatewayResult where
  payment : Payment
  status : PaymentIntentStatus
  occurredAt : Time
  declineReason : Option String

def Store.apply (store : Store) (result : GatewayResult) : Store :=
  store.resolve result.payment.id result.status result.occurredAt result.declineReason

/-- The rows once an attempt is open and the gateway's answer is not applied yet. -/
def Store.attempting (store : Store) (payments : PaymentTable) : Store :=
  { store with
    payments
    invoice :=
      { store.invoice with
        status := .pendingPayment, previousStatus := some store.invoice.status } }

theorem resolve_has (store : Store) (paymentId : String) (status : PaymentIntentStatus)
    (occurredAt : Time) (declineReason : Option String)
    (here : ∃ row ∈ store.payments.rows, row.id = paymentId) :
    ∃ row ∈ (store.resolve paymentId status occurredAt declineReason).payments.rows,
      row.id = paymentId := by
  obtain ⟨row, member, same⟩ := here
  refine ⟨row.apply (resultUpdate status occurredAt declineReason), ?_, same⟩
  simp only [Store.resolve, PaymentTable.applyUpdate, UniqueTable.modify_rows, List.mem_map]
  exact ⟨row, member, by simp [same]⟩

namespace PaymentsService

section Attempts

variable {π : Type} (env : Env) (gateway : PaymentGatewayPort π)

structure OpenedAttempt where
  payments : PaymentTable
  result : GatewayResult

def started? (store : Store) (paymentId : String) (method : PaymentMethod) (chargeMinor : Int)
    (idempotencyKey : String) : Option OpenedAttempt := do
  guard (isPayable store.invoice.status && 0 < store.invoice.balanceMinor)
  let attempt := newAttempt store paymentId method chargeMinor idempotencyKey
  let inserted ← store.payments.insert? attempt
  let intent ←
    (gateway.createIntent (intentInput env store method chargeMinor idempotencyKey)).toOption
  let payments ← PaymentTable.assignReference? inserted paymentId intent.gatewayReference
  return {
    payments
    result := {
      payment := { attempt with gatewayReference := some intent.gatewayReference }
      status := intent.status
      occurredAt := intent.occurredAt
      declineReason := intent.declineReason } }

def attempt? (store : Store) (paymentId : String) (scope : PublicScope) (method : PaymentMethod)
    (attemptNonce : String) : Option OpenedAttempt := do
  guard (store.invoice.id = scope.invoiceId && store.settings.any (isMethodEnabled method))
  let quote ← (calculate (quoteInput store method)).toOption
  let idempotencyKey := attemptKey env store quote.totalMinor attemptNonce
  match store.payments.rows.find? fun payment => payment.idempotencyKey = idempotencyKey with
  | some _ => none
  | none => started? env gateway store paymentId method quote.totalMinor idempotencyKey

def afterAttempt (store : Store) (opened : Option OpenedAttempt) : Store :=
  match opened with
  | some attempt => (store.attempting attempt.payments).apply attempt.result
  | none => store

theorem assigned_rows {payments inserted assigned : PaymentTable} {attempt : Payment}
    {reference : String} (insert : payments.insert? attempt = some inserted)
    (assign : inserted.assignReference? attempt.id reference = some assigned) :
    assigned.rows = payments.rows ++ [{ attempt with gatewayReference := some reference }] := by
  have insertedRows := UniqueTable.rows_of_insert? insert
  have distinct := inserted.distinct (fun payment => some payment.id) (by simp [paymentIndexes])
  rw [insertedRows] at distinct
  have fresh : ∀ payment ∈ payments.rows, payment.id ≠ attempt.id := by
    intro payment member same
    exact UniqueTable.fresh_of_append distinct rfl payment member (congrArg some same)
  rw [UniqueTable.rows_of_update? assign, insertedRows, List.map_append]
  have untouched : (payments.rows.map fun payment =>
      if decide (payment.id = attempt.id) = true then
        { payment with gatewayReference := some reference }
      else payment) = payments.rows := by
    rw [List.map_congr_left (fun payment member => if_neg (by simpa using fresh payment member))]
    exact List.map_id' _
  rw [untouched]
  simp

theorem newAttempt_id (store : Store) (paymentId : String) (method : PaymentMethod)
    (chargeMinor : Int) (idempotencyKey : String) :
    (newAttempt store paymentId method chargeMinor idempotencyKey).id = paymentId := rfl

theorem initiatePayment_decision (store : Store) :
    (∃ code message, evaluateTransition .initiatePayment (initiationContext store) =
        .refused code message ∧
        (isPayable store.invoice.status && 0 < store.invoice.balanceMinor) = false) ∨
      evaluateTransition .initiatePayment (initiationContext store) = .ok .pendingPayment ∧
        (isPayable store.invoice.status && 0 < store.invoice.balanceMinor) = true := by
  cases decided : evaluateTransition .initiatePayment (initiationContext store) with
  | ok target =>
      obtain ⟨payable, owing, rfl⟩ := initiatePayment_ok_iff.mp decided
      have owingRow : 0 < store.invoice.balanceMinor := toNumber_pos.mp owing
      have payableRow : isPayable store.invoice.status = true := payable
      exact .inr ⟨rfl, by simp [payableRow, owingRow]⟩
  | refused code message =>
      refine .inl ⟨code, message, rfl, ?_⟩
      by_contra both
      simp only [Bool.not_eq_false, Bool.and_eq_true, decide_eq_true_eq] at both
      have granted := initiatePayment_ok_iff.mpr
        (⟨both.1, toNumber_pos.mpr both.2, rfl⟩ : isPayable (initiationContext store).status = true ∧
          0 < (initiationContext store).balanceMinor ∧ InvoiceStatus.pendingPayment = _)
      rw [decided] at granted
      cases granted

theorem startAttempt_store (store : Store) (paymentId : String) (method : PaymentMethod)
    (chargeMinor : Int) (idempotencyKey : String) :
    ((startAttempt env gateway store paymentId method chargeMinor idempotencyKey).execFrom
        store store).store =
      afterAttempt store
        (started? env gateway store paymentId method chargeMinor idempotencyKey) := by
  rcases initiatePayment_decision store with ⟨code, message, refused, closed⟩ | ⟨granted, open_⟩
  · simp [startAttempt, execFrom_bind, transitionOrConflict_execFrom, refused, started?, closed,
      afterAttempt]
  · cases insert : store.payments.insert?
        (newAttempt store paymentId method chargeMinor idempotencyKey) with
    | none =>
        simp [startAttempt, execFrom_bind, transitionOrConflict_execFrom, granted,
          createPayment_execFrom, insert, started?, afterAttempt]
    | some inserted =>
        cases asked :
            gateway.createIntent (intentInput env store method chargeMinor idempotencyKey) with
        | error failure =>
            simp [startAttempt, execFrom_bind, transitionOrConflict_execFrom, granted,
              createPayment_execFrom, insert, startIntent, asked, started?, afterAttempt,
              Except.toOption]
        | ok intent =>
            cases assign :
                PaymentTable.assignReference? inserted paymentId intent.gatewayReference with
            | none =>
                simp [startAttempt, execFrom_bind, transitionOrConflict_execFrom, granted,
                  createPayment_execFrom, insert, startIntent, asked,
                  updatePaymentReference_execFrom, assign, started?, afterAttempt,
                  Except.toOption]
            | some assigned =>
                have here : ∃ payment ∈ assigned.rows, payment.id = paymentId := by
                  rw [assigned_rows insert assign]
                  exact ⟨_, List.mem_append_right _ (List.mem_singleton.mpr rfl), rfl⟩
                have opened : started? env gateway store paymentId method chargeMinor
                    idempotencyKey = some {
                      payments := assigned
                      result := {
                        payment := {
                          newAttempt store paymentId method chargeMinor idempotencyKey with
                          gatewayReference := some intent.gatewayReference }
                        status := intent.status
                        occurredAt := intent.occurredAt
                        declineReason := intent.declineReason } } := by
                  simp [started?, open_, insert, asked, assign, Except.toOption]
                rw [opened]
                by_cases succeeded : intent.status = .succeeded
                all_goals
                  simp [startAttempt, execFrom_bind, transitionOrConflict_execFrom,
                    granted, createPayment_execFrom, insert, startIntent, asked,
                    updatePaymentReference_execFrom, assign, applySettlement_execFrom, here,
                    succeeded, afterAttempt, Store.attempting, Store.apply, newAttempt_id]

theorem createIntent_store (store : Store) (paymentId : String) (scope : PublicScope)
    (method : PaymentMethod) (attemptNonce : String) :
    ((createIntent env gateway paymentId scope method attemptNonce).exec store).store =
      afterAttempt store (attempt? env gateway store paymentId scope method attemptNonce) := by
  by_cases found : store.invoice.id = scope.invoiceId
  · by_cases enabled : store.settings.any (isMethodEnabled method) = true
    · cases quoted : calculate (quoteInput store method) with
      | error error =>
          simp [exec, createIntent, execFrom_bind, found, enabled, quoted, attempt?, afterAttempt,
            Except.toOption]
      | ok quote =>
          cases replayed : store.payments.rows.find? fun payment =>
              payment.idempotencyKey = attemptKey env store quote.totalMinor attemptNonce with
          | some existing =>
              simp [exec, createIntent, execFrom_bind, found, enabled, quoted, replayed, attempt?,
                afterAttempt, Except.toOption]
          | none =>
              have started := startAttempt_store env gateway store paymentId method
                quote.totalMinor (attemptKey env store quote.totalMinor attemptNonce)
              simpa [exec, createIntent, execFrom_bind, found, enabled, quoted, replayed, attempt?,
                Except.toOption] using started
    · simp [exec, createIntent, execFrom_bind, found, enabled, attempt?, afterAttempt]
  · simp [exec, createIntent, execFrom_bind, found, attempt?, afterAttempt]

structure Opens (store : Store) (method : PaymentMethod) (attempt : OpenedAttempt) : Prop where
  payable : isPayable store.invoice.status = true
  owing : 0 < store.invoice.balanceMinor
  quoted : ∃ quote, calculate (quoteInput store method) = .ok quote ∧
    attempt.result.payment.amountMinor = quote.totalMinor
  method : attempt.result.payment.method = method
  initiated : attempt.result.payment.status = .initiated
  unseen : attempt.result.payment.lastEventAt = none
  referenced : attempt.result.payment.gatewayReference.isSome = true
  rows : attempt.payments.rows = store.payments.rows ++ [attempt.result.payment]

theorem Opens.fresh {store : Store} {method : PaymentMethod} {attempt : OpenedAttempt}
    (opens : Opens store method attempt) :
    ∀ payment ∈ store.payments.rows, payment.id ≠ attempt.result.payment.id := by
  intro payment member same
  have distinct := attempt.payments.distinct (fun payment => some payment.id)
    (by simp [paymentIndexes])
  rw [opens.rows] at distinct
  exact UniqueTable.fresh_of_append distinct rfl payment member (congrArg some same)

theorem attempt?_opens {store : Store} {paymentId : String} {scope : PublicScope}
    {method : PaymentMethod} {attemptNonce : String} {attempt : OpenedAttempt}
    (opened : attempt? env gateway store paymentId scope method attemptNonce = some attempt) :
    Opens store method attempt := by
  simp only [attempt?, Option.bind_eq_bind, Option.bind_eq_some_iff] at opened
  obtain ⟨_, _, quote, quoted, opened⟩ := opened
  split at opened
  · cases opened
  · simp only [started?, Option.bind_eq_bind, Option.bind_eq_some_iff, Option.guard_eq_some',
      Bool.and_eq_true, decide_eq_true_eq] at opened
    obtain ⟨_, ⟨payable, owing⟩, inserted, insert, intent, asked, assigned, assign, same⟩ := opened
    cases same
    cases priced : calculate (quoteInput store method) with
    | error error =>
        rw [priced] at quoted
        cases quoted
    | ok result =>
        rw [priced] at quoted
        cases quoted
        exact {
          payable, owing
          quoted := ⟨_, priced, rfl⟩
          method := rfl
          initiated := rfl
          unseen := rfl
          referenced := rfl
          rows := assigned_rows insert assign }

theorem attempt?_key {store : Store} {paymentId : String} {scope : PublicScope}
    {method : PaymentMethod} {attemptNonce : String} {attempt : OpenedAttempt}
    (opened : attempt? env gateway store paymentId scope method attemptNonce = some attempt) :
    ∃ quote, calculate (quoteInput store method) = .ok quote ∧
      attempt.result.payment.idempotencyKey =
        attemptKey env store quote.totalMinor attemptNonce ∧
      ∀ payment ∈ store.payments.rows,
        payment.idempotencyKey ≠ attempt.result.payment.idempotencyKey := by
  have opens := attempt?_opens env gateway opened
  have fresh : ∀ payment ∈ store.payments.rows,
      payment.idempotencyKey ≠ attempt.result.payment.idempotencyKey := by
    intro payment member same
    have distinct := attempt.payments.distinct (fun payment => some payment.idempotencyKey)
      (by simp [paymentIndexes])
    rw [opens.rows] at distinct
    exact UniqueTable.fresh_of_append distinct rfl payment member (congrArg some same)
  simp only [attempt?, Option.bind_eq_bind, Option.bind_eq_some_iff] at opened
  obtain ⟨_, _, quote, quoted, opened⟩ := opened
  have priced : calculate (quoteInput store method) = .ok quote := by
    cases outcome : calculate (quoteInput store method) with
    | error error => simp [outcome, Except.toOption] at quoted
    | ok result => simpa [outcome, Except.toOption] using quoted
  split at opened
  · cases opened
  · simp only [started?, Option.bind_eq_bind, Option.bind_eq_some_iff] at opened
    obtain ⟨_, _, inserted, _, intent, _, assigned, _, same⟩ := opened
    cases same
    exact ⟨quote, priced, rfl, fresh⟩

theorem attempt?_currency {store : Store} {paymentId : String} {scope : PublicScope}
    {method : PaymentMethod} {attemptNonce : String} {attempt : OpenedAttempt}
    (opened : attempt? env gateway store paymentId scope method attemptNonce = some attempt) :
    attempt.result.payment.currency = store.invoice.currency := by
  simp only [attempt?, Option.bind_eq_bind, Option.bind_eq_some_iff] at opened
  obtain ⟨_, _, quote, _, opened⟩ := opened
  split at opened
  · cases opened
  · simp only [started?, Option.bind_eq_bind, Option.bind_eq_some_iff] at opened
    obtain ⟨_, _, inserted, _, intent, _, assigned, _, same⟩ := opened
    cases same
    rfl

theorem startAttempt_calls {store : Store} {paymentId : String} {method : PaymentMethod}
    {chargeMinor : Int} {idempotencyKey : String} {input : CreateIntentInput}
    (called : .gatewayCreateIntent input ∈
      ((startAttempt env gateway store paymentId method chargeMinor idempotencyKey).execFrom
        store store).announced) :
    isPayable store.invoice.status = true ∧ 0 < store.invoice.balanceMinor ∧
      input = intentInput env store method chargeMinor idempotencyKey := by
  rcases initiatePayment_decision store with ⟨code, message, refused, closed⟩ | ⟨granted, open_⟩
  · simp [startAttempt, execFrom_bind, transitionOrConflict_execFrom, refused] at called
  · simp only [Bool.and_eq_true, decide_eq_true_eq] at open_
    refine ⟨open_.1, open_.2, ?_⟩
    cases insert : store.payments.insert?
        (newAttempt store paymentId method chargeMinor idempotencyKey) with
    | none =>
        simp [startAttempt, execFrom_bind, transitionOrConflict_execFrom, granted,
          createPayment_execFrom, insert] at called
    | some inserted =>
        cases asked :
            gateway.createIntent (intentInput env store method chargeMinor idempotencyKey) with
        | error failure =>
            simpa [startAttempt, execFrom_bind, transitionOrConflict_execFrom, granted,
              createPayment_execFrom, insert, startIntent, asked] using called
        | ok intent =>
            cases assign :
                PaymentTable.assignReference? inserted paymentId intent.gatewayReference with
            | none =>
                simpa [startAttempt, execFrom_bind, transitionOrConflict_execFrom, granted,
                  createPayment_execFrom, insert, startIntent, asked,
                  updatePaymentReference_execFrom, assign] using called
            | some assigned =>
                have here : ∃ payment ∈ assigned.rows, payment.id = paymentId := by
                  rw [assigned_rows insert assign]
                  exact ⟨_, List.mem_append_right _ (List.mem_singleton.mpr rfl), rfl⟩
                by_cases succeeded : intent.status = .succeeded
                all_goals
                  simpa [startAttempt, execFrom_bind, transitionOrConflict_execFrom,
                    granted, createPayment_execFrom, insert, startIntent, asked,
                    updatePaymentReference_execFrom, assign, applySettlement_execFrom, here,
                    succeeded] using called

/-- Every call to the gateway asks for the amount that was quoted for the method, under the
key of that amount, on an invoice that is payable and owes something. -/
theorem createIntent_calls {store : Store} {paymentId : String} {scope : PublicScope}
    {method : PaymentMethod} {attemptNonce : String} {input : CreateIntentInput}
    (called : .gatewayCreateIntent input ∈
      ((createIntent env gateway paymentId scope method attemptNonce).exec store).announced) :
    isPayable store.invoice.status = true ∧ 0 < store.invoice.balanceMinor ∧
      input.method = method ∧ ∃ quote, calculate (quoteInput store method) = .ok quote ∧
        input.amountMinor = quote.totalMinor ∧
        input.idempotencyKey = attemptKey env store quote.totalMinor attemptNonce := by
  by_cases found : store.invoice.id = scope.invoiceId
  · by_cases enabled : store.settings.any (isMethodEnabled method) = true
    · cases quoted : calculate (quoteInput store method) with
      | error error => simp [exec, createIntent, execFrom_bind, found, enabled, quoted] at called
      | ok quote =>
          cases replayed : store.payments.rows.find? fun payment =>
              payment.idempotencyKey = attemptKey env store quote.totalMinor attemptNonce with
          | some existing =>
              simp [exec, createIntent, execFrom_bind, found, enabled, quoted, replayed] at called
          | none =>
              obtain ⟨payable, owing, same⟩ := startAttempt_calls env gateway
                (by simpa [exec, createIntent, execFrom_bind, found, enabled, quoted, replayed]
                  using called)
              rw [same]
              exact ⟨payable, owing, rfl, quote, rfl, rfl, rfl⟩
    · simp [exec, createIntent, execFrom_bind, found, enabled] at called
  · simp [exec, createIntent, execFrom_bind, found] at called

end Attempts

section Deliveries

variable {π : Type} (gateway : PaymentGatewayPort π)

/-- The event of a delivery whose signature holds, with the brand it is attributed to. -/
def authenticEvent? (rawBody : π) (headers : List (String × String)) (brandId : Option String) :
    Option (GatewayWebhookEvent × Option String) := do
  guard (gateway.verifySignature rawBody headers brandId)
  let event ← (gateway.parseWebhook rawBody brandId).toOption
  let attributed ← attributedBrandId gateway event brandId
  return (event, attributed)

/-- The result a delivery brings to a payment of the invoice, if it is authentic, about a
payment of the brand's own, of a modelled type and newer than what the payment has seen. -/
def webhookResult? (store : Store) (rawBody : π) (headers : List (String × String))
    (brandId : Option String) : Option GatewayResult := do
  let (event, attributed) ← authenticEvent? gateway rawBody headers brandId
  let payment ← store.payments.rows.find? fun payment =>
    payment.gatewayReference = some event.gatewayReference
  guard (ownedBy attributed payment && event.type ≠ .unknown && !isStale payment event)
  return {
    payment
    status := webhookStatus event.type
    occurredAt := event.occurredAt
    declineReason := event.declineReason }

/-- The result a client confirmation brings, which is what the gateway says now. -/
def confirmedResult? (store : Store) (now : Time) (scope : PublicScope)
    (gatewayReference : String) : Option GatewayResult := do
  let payment ← store.payments.rows.find? fun payment =>
    store.invoice.id = scope.invoiceId && payment.gatewayReference = some gatewayReference
  guard (payment.status = .initiated || payment.status = .processing)
  let intent ← (gateway.retrieve gatewayReference payment.brandId).toOption
  guard (intent.status = .succeeded || intent.status = .failed)
  return { payment, status := intent.status, occurredAt := now
           declineReason := intent.declineReason }

def afterResult (store : Store) (result : Option GatewayResult) : Store :=
  match result with
  | some result => store.apply result
  | none => store

theorem handleWebhook_store (rawBody : π) (headers : List (String × String))
    (brandId : Option String) (store : Store) :
    ((handleWebhook gateway rawBody headers brandId).exec store).store =
      afterResult store (webhookResult? gateway store rawBody headers brandId) := by
  by_cases verified : gateway.verifySignature rawBody headers brandId = true
  · cases parsed : gateway.parseWebhook rawBody brandId with
    | error failure =>
        simp [handleWebhook, webhookResult?, authenticEvent?, afterResult, Except.toOption, exec,
          execFrom_bind, verified, parsed]
    | ok event =>
        cases attribution : attributedBrandId gateway event brandId with
        | none =>
            simp [handleWebhook, webhookResult?, authenticEvent?, afterResult, Except.toOption,
              exec, execFrom_bind, verified, parsed, attribution]
        | some attributed =>
            cases named : store.payments.rows.find? fun payment =>
                payment.gatewayReference = some event.gatewayReference with
            | none =>
                simp [handleWebhook, webhookResult?, authenticEvent?, afterResult,
                  Except.toOption, exec, execFrom_bind, verified, parsed, attribution, named]
            | some payment =>
                have here : ∃ row ∈ store.payments.rows, row.id = payment.id :=
                  ⟨payment, List.mem_of_find?_eq_some named, rfl⟩
                by_cases owned : ownedBy attributed payment = true
                · by_cases unknown : event.type = .unknown
                  · simp [handleWebhook, webhookResult?, authenticEvent?, afterResult,
                      Except.toOption, exec, execFrom_bind, verified, parsed, attribution, named,
                      unknown]
                  · by_cases stale : isStale payment event = true
                    · simp [handleWebhook, webhookResult?, authenticEvent?, afterResult,
                        Except.toOption, exec, execFrom_bind, verified, parsed, attribution,
                        named, owned, unknown, stale]
                    · by_cases succeeded : webhookStatus event.type = .succeeded
                      all_goals
                        simp [handleWebhook, webhookResult?, authenticEvent?, afterResult,
                          Except.toOption, exec, execFrom_bind, verified, parsed, attribution,
                          named, owned, unknown, stale, succeeded, applySettlement_execFrom, here,
                          Store.apply]
                · simp [handleWebhook, webhookResult?, authenticEvent?, afterResult,
                    Except.toOption, exec, execFrom_bind, verified, parsed, attribution, named,
                    owned]
  · simp [handleWebhook, webhookResult?, authenticEvent?, afterResult, exec, execFrom_bind,
      verified]

theorem reportPayment_execFrom (committed : Store) {view : Store} {paymentId : String}
    (here : ∃ row ∈ view.payments.rows, row.id = paymentId) :
    ∃ result, (reportPayment paymentId).execFrom committed view =
      ⟨.ok result, committed, view, []⟩ := by
  cases found : view.payments.rows.find? fun row => row.id = paymentId with
  | none =>
      obtain ⟨row, member, same⟩ := here
      exact absurd same (by simpa using List.find?_eq_none.mp found row member)
  | some row => simp [reportPayment, found]

theorem confirmClientResult_store (now : Time) (scope : PublicScope) (gatewayReference : String)
    (store : Store) :
    ((confirmClientResult gateway now scope gatewayReference).exec store).store =
      afterResult store (confirmedResult? gateway store now scope gatewayReference) := by
  cases named : store.payments.rows.find? fun payment =>
      store.invoice.id = scope.invoiceId && payment.gatewayReference = some gatewayReference with
  | none => simp [confirmClientResult, confirmedResult?, afterResult, exec, named]
  | some payment =>
      have here : ∃ row ∈ store.payments.rows, row.id = payment.id :=
        ⟨payment, List.mem_of_find?_eq_some named, rfl⟩
      by_cases waiting : payment.status = .initiated ∨ payment.status = .processing
      · cases retrieved : gateway.retrieve gatewayReference payment.brandId with
        | error failure =>
            simp [confirmClientResult, confirmedResult?, afterResult, exec, named, waiting, retrieved,
              Except.toOption]
        | ok intent =>
            by_cases final : intent.status = .succeeded ∨ intent.status = .failed
            · have kept := resolve_has store payment.id intent.status now
                intent.declineReason here
              obtain ⟨result, reported⟩ := reportPayment_execFrom store kept
              by_cases succeeded : intent.status = .succeeded
              · rw [succeeded] at reported
                simp [confirmClientResult, confirmedResult?, afterResult, exec, execFrom_bind, named, waiting,
                  retrieved, applySettlement_execFrom, here, succeeded, reported,
                  Store.apply, Except.toOption]
              · have failed : intent.status = .failed := final.resolve_left succeeded
                rw [failed] at reported
                simp [confirmClientResult, confirmedResult?, afterResult, exec, execFrom_bind, named, waiting,
                  retrieved, applySettlement_execFrom, here, failed, reported,
                  Store.apply, Except.toOption]
            · obtain ⟨result, reported⟩ := reportPayment_execFrom store here
              simp [confirmClientResult, confirmedResult?, afterResult, exec, named, waiting, retrieved, final,
                reported, Except.toOption]
      · simp [confirmClientResult, confirmedResult?, afterResult, exec, named, waiting]

end Deliveries

end PaymentsService

end MultiBrandInvoicing
