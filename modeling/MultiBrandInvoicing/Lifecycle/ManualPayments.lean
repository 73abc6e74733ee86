import MultiBrandInvoicing.Lifecycle.Reachability
import MultiBrandInvoicing.ReadCommitted.Optimistic

/-!
# Payments recorded by hand, side by side

`recordManualPayment` asks in its WHERE clause for the balance it has read and locks the invoice
with it, so the calls of every interleaving record their payments one after another.  As long as
the figures are safe integers a recorded payment lowers the balance, so that a call that goes
through has read the latest rows, and the amounts add up.
-/

set_option autoImplicit false

namespace MultiBrandInvoicing

open ReadCommitted Program

structure ManualCall where
  scope : Scope
  brandId : String
  id : String
  paymentId : String
  uuid : String
  input : RecordManualPaymentInput

namespace ManualCall

def program (call : ManualCall) : Tx Invoice :=
  InvoicesService.recordManualPayment call.scope call.brandId call.id call.paymentId call.uuid
    call.input

def amountMinor (store : Store) (call : ManualCall) : Int :=
  match parseMinor call.input.amount (toCurrencyCode store.invoice.currency) with
  | .ok amountMinor => amountMinor
  | .error _ => 0

/-- The row a successful call adds. -/
def payment (store : Store) (call : ManualCall) : Payment :=
  InvoicesService.manualPayment store call.paymentId call.uuid call.input
    (call.amountMinor store)

def payload (store : Store) (call : ManualCall) : EventPayload :=
  InvoicesService.manualPayload call.paymentId call.input (call.amountMinor store)

end ManualCall

def Invoice.withColumnsOf (invoice other : Invoice) : Invoice :=
  { invoice with
    status := other.status
    balanceMinor := other.balanceMinor
    previousStatus := other.previousStatus
    paidAt := other.paidAt }

structure Recorded (store : Store) (calls : List ManualCall) (final : Store) : Prop where
  payments : final.payments.rows =
    store.payments.rows ++ calls.map (ManualCall.payment store)
  events : ∃ recorded, final.events = store.events ++ recorded ∧
    recorded.map InvoiceEvent.payload = calls.map fun call => some (call.payload store)
  columns : final.invoice = store.invoice.withColumnsOf final.invoice
  rest : final = { store with
    invoice := final.invoice, payments := final.payments, events := final.events }

/-- The balance is not negative, and it is zero exactly when the invoice is paid. -/
structure Balanced (invoice : Invoice) : Prop where
  nonnegative : 0 ≤ invoice.balanceMinor
  paid : invoice.status = .paid ↔ invoice.balanceMinor = 0

section Calls

variable {first view store middle final : Store} {call : ManualCall} {calls : List ManualCall}

/-- What a call that has read `view` records on `store`. -/
def ManualCall.recordedOn (view : Store) (call : ManualCall) (amountMinor : Int)
    (payments : PaymentTable) (event : InvoiceEvent) (store : Store) : Store :=
  { store with
    invoice := InvoicesService.recordOnInvoice
      (if InvoicesService.settledWith view.invoice amountMinor = toNumber view.invoice.totalMinor
        then .paid else .partiallyPaid)
      (InvoicesService.newBalance view.invoice amountMinor) call.input.paidAt store.invoice
    payments
    events := store.events ++ [event] }

theorem landing_returned {invoice : Invoice}
    (returns : (call.program.landing view store).outcome = .ok invoice) :
    store.invoice.balanceMinor = view.invoice.balanceMinor ∧ ∃ amountMinor payments event,
      parseMinor call.input.amount (toCurrencyCode view.invoice.currency) = .ok amountMinor ∧
      InvoicesService.Grants view.invoice amountMinor ∧
      payments.rows = store.payments.rows ++
        [InvoicesService.manualPayment view call.paymentId call.uuid call.input amountMinor] ∧
      event.payload =
        some (InvoicesService.manualPayload call.paymentId call.input amountMinor) ∧
      (call.program.landing view store).store =
        call.recordedOn view amountMinor payments event store := by
  simp only [landing, afterRead, ManualCall.program, InvoicesService.recordManualPayment,
    read_bind] at returns ⊢
  by_cases found : InvoicesService.isInvoice view call.brandId call.id = true
  case neg => simp [execFrom_bind, found] at returns
  cases parsed : parseMinor call.input.amount (toCurrencyCode view.invoice.currency) with
  | error error => simp [execFrom_bind, found, parsed] at returns
  | ok amountMinor =>
      cases decided : evaluateTransition .recordPayment
          (InvoicesService.recordContext view amountMinor) with
      | refused code message =>
          simp [execFrom_bind, found, parsed, transitionOrConflict_execFrom, decided] at returns
      | ok target =>
          obtain ⟨granted, reached⟩ := InvoicesService.recordPayment_decision.mp decided
          by_cases matched : store.invoice.id = call.id ∧
              store.invoice.balanceMinor = view.invoice.balanceMinor
          case neg =>
            simp [execFrom_bind, found, parsed, transitionOrConflict_execFrom, decided,
              matched] at returns
          cases inserted : store.payments.insert? (InvoicesService.manualPayment view
              call.paymentId call.uuid call.input amountMinor) with
          | none =>
              simp [execFrom_bind, found, parsed, transitionOrConflict_execFrom, decided, matched,
                createPayment_execFrom, inserted] at returns
          | some payments =>
              refine ⟨matched.2, amountMinor, payments, InvoicesService.manualPaymentEvent call.scope
                view call.paymentId call.input amountMinor target, rfl, granted,
                UniqueTable.rows_of_insert? inserted, rfl, ?_⟩
              simp [execFrom_bind, found, transitionOrConflict_execFrom, decided, matched,
                createPayment_execFrom, inserted, ManualCall.recordedOn, reached,
                InvoicesService.recordOnInvoice]

theorem amountMinor_of_columns (columns : store.invoice = first.invoice.withColumnsOf store.invoice)
    (call : ManualCall) : call.amountMinor store = call.amountMinor first := by
  simp only [ManualCall.amountMinor]
  rw [columns]
  rfl

theorem payment_of_columns (columns : store.invoice = first.invoice.withColumnsOf store.invoice)
    (call : ManualCall) : call.payment store = call.payment first := by
  simp only [ManualCall.payment, amountMinor_of_columns columns, InvoicesService.manualPayment]
  rw [columns]
  rfl

theorem payload_of_columns (columns : store.invoice = first.invoice.withColumnsOf store.invoice)
    (call : ManualCall) : call.payload store = call.payload first := by
  simp only [ManualCall.payload, amountMinor_of_columns columns]

theorem Recorded.refl (store : Store) : Recorded store [] store where
  payments := by simp
  events := ⟨[], by simp, rfl⟩
  columns := rfl
  rest := rfl

theorem Recorded.trans {later : List ManualCall} (start : Recorded store calls middle)
    (second : Recorded middle later final) : Recorded store (calls ++ later) final where
  payments := by
    have rows : later.map (ManualCall.payment middle) = later.map (ManualCall.payment store) :=
      List.map_congr_left fun call _ => payment_of_columns start.columns call
    rw [second.payments, start.payments, rows, List.map_append, List.append_assoc]
  events := by
    obtain ⟨before, earlier, payloads⟩ := start.events
    obtain ⟨after, appended, more⟩ := second.events
    refine ⟨before ++ after, ?_, ?_⟩
    · rw [appended, earlier, List.append_assoc]
    · simp only [List.map_append, payloads, more, payload_of_columns start.columns]
  columns := by
    rw [second.columns, start.columns]
    rfl
  rest := by
    rw [second.rest, start.rest]

/-- What a call knows of the store it finds when it has read another one before.  It is the same
invoice; and with safe figures at first, it is the same store or the balance has come down. -/
structure Earlier (first view store : Store) : Prop where
  before : view.invoice = first.invoice.withColumnsOf view.invoice
  now : store.invoice = first.invoice.withColumnsOf store.invoice
  lowered : InvoicesService.SafeFigures first.invoice →
    InvoicesService.SafeFigures store.invoice ∧
      (view = store ∨ store.invoice.balanceMinor < view.invoice.balanceMinor)

theorem Earlier.recorded (earlier : Earlier first view store) {invoice : Invoice}
    (returns : (call.program.landing view store).outcome = .ok invoice) :
    Recorded store [call] (call.program.landing view store).store := by
  obtain ⟨_, amountMinor, payments, event, parsed, _, rows, payload, lands⟩ :=
    landing_returned returns
  have amount : call.amountMinor first = amountMinor := by
    rw [← amountMinor_of_columns earlier.before]
    simp [ManualCall.amountMinor, parsed]
  rw [lands]
  refine ⟨?_, ⟨[event], rfl, ?_⟩, rfl, rfl⟩
  · have same : InvoicesService.manualPayment view call.paymentId call.uuid call.input amountMinor =
        call.payment view := by
      rw [ManualCall.payment, amountMinor_of_columns earlier.before, amount]
    rw [List.map_singleton, payment_of_columns earlier.now, ← payment_of_columns earlier.before,
      ← same]
    exact rows
  · simp [payload, ManualCall.payload, amountMinor_of_columns earlier.now, amount]

theorem landed_exact (figures : InvoicesService.SafeFigures store.invoice) {invoice : Invoice}
    (returns : (call.program.landing store store).outcome = .ok invoice) :
    let next := (call.program.landing store store).store
    next.invoice.balanceMinor = store.invoice.balanceMinor - call.amountMinor store ∧
      0 < call.amountMinor store ∧ Balanced next.invoice ∧
        InvoicesService.SafeFigures next.invoice := by
  intro next
  obtain ⟨_, amountMinor, payments, event, parsed, granted, _, _, lands⟩ := landing_returned returns
  have amount : call.amountMinor store = amountMinor := by simp [ManualCall.amountMinor, parsed]
  have exact_ := figures.exactSums_of_granted granted
  obtain ⟨_, positive, within⟩ := figures.grants_iff.mp granted
  have after : next.invoice =
      InvoicesService.recordOnInvoice
        (if amountMinor = store.invoice.balanceMinor then .paid else .partiallyPaid)
        (store.invoice.balanceMinor - amountMinor) call.input.paidAt store.invoice :=
    (congrArg Store.invoice lands).trans (exact_.afterManualPayment_eq call.input.paidAt)
  rw [after, amount]
  refine ⟨rfl, positive, ⟨Int.sub_nonneg.mpr within, ?_⟩, ?_⟩
  · by_cases full : amountMinor = store.invoice.balanceMinor
    · simp [InvoicesService.recordOnInvoice, full]
    · simp only [InvoicesService.recordOnInvoice, if_neg full, reduceCtorEq, false_iff]
      omega
  · refine ⟨figures.total, isSafeInteger_of_le figures.balance ?_ ?_, ?_⟩
    · exact Int.sub_nonneg.mpr within
    · exact Int.sub_le_self _ positive.le
    · have settled := figures.settled
      have total := figures.total
      simp only [InvoicesService.recordOnInvoice]
      exact isSafeInteger_of_between settled total (by omega) (by omega)

variable {ι : Type} {calls : ι → ManualCall} {order : List ι}

/-- With safe figures a call that goes through has read the store it finds. -/
theorem Earlier.eq_of_balance (earlier : Earlier first view store)
    (figures : InvoicesService.SafeFigures first.invoice)
    (same : view.invoice.balanceMinor = store.invoice.balanceMinor) : view = store :=
  (earlier.lowered figures).2.resolve_right fun lower => by omega

theorem outlasts (first : Store) : Outlasts (Earlier first)
    (fun store => store.invoice.balanceMinor) fun session => (calls session).program where
  latest session view store invoice seen same returns := by
    have columns := (seen.recorded returns).columns.trans
      (congrArg (Invoice.withColumnsOf · _) seen.now)
    refine ⟨columns, columns, fun figures => ⟨?_, .inl rfl⟩⟩
    obtain rfl := seen.eq_of_balance figures same
    exact (landed_exact (seen.lowered figures).1 returns).2.2.2
  earlier session view store invoice seen same returns other before := by
    have columns := (seen.recorded returns).columns.trans
      (congrArg (Invoice.withColumnsOf · _) seen.now)
    refine ⟨before.before, columns, fun figures => ?_⟩
    obtain rfl := seen.eq_of_balance figures same
    obtain ⟨balance, positive, _, kept⟩ := landed_exact (seen.lowered figures).1 returns
    refine ⟨kept, .inr ?_⟩
    rcases (before.lowered figures).2 with rfl | lower
    · omega
    · omega

theorem recorded_of_overlapped (overlapped : Overlapped (Earlier first)
      (fun store => store.invoice.balanceMinor) (fun session => (calls session).program) order
      store final) :
    Recorded store (order.map calls) final := by
  induction order generalizing store with
  | nil =>
      cases overlapped
      exact .refl final
  | cons session rest ih =>
      obtain ⟨view, invoice, seen, _, returns, later⟩ := overlapped
      exact (seen.recorded returns).trans (ih later)

theorem balance_of_overlapped (figures : InvoicesService.SafeFigures first.invoice)
    (overlapped : Overlapped (Earlier first) (fun store => store.invoice.balanceMinor)
      (fun session => (calls session).program) order store final) :
    final.invoice.balanceMinor = store.invoice.balanceMinor -
      ((order.map calls).map (ManualCall.amountMinor first)).sum := by
  induction order generalizing store with
  | nil =>
      cases overlapped
      simp
  | cons session rest ih =>
      obtain ⟨view, invoice, seen, same, returns, later⟩ := overlapped
      obtain rfl := seen.eq_of_balance figures same
      have taken := (landed_exact (seen.lowered figures).1 returns).1
      rw [amountMinor_of_columns seen.now] at taken
      rw [ih later, taken, List.map_cons, List.map_cons, List.sum_cons]
      omega

theorem balanced_of_overlapped (figures : InvoicesService.SafeFigures first.invoice)
    (overlapped : Overlapped (Earlier first) (fun store => store.invoice.balanceMinor)
      (fun session => (calls session).program) order store final)
    (either : order ≠ [] ∨ Balanced store.invoice) : Balanced final.invoice := by
  have keeps : ∀ session view store invoice, Earlier first view store →
      view.invoice.balanceMinor = store.invoice.balanceMinor →
        ((calls session).program.landing view store).outcome = .ok invoice →
          Balanced ((calls session).program.landing view store).store.invoice := by
    intro session view store invoice seen same returns
    obtain rfl := seen.eq_of_balance figures same
    exact (landed_exact (seen.lowered figures).1 returns).2.2.1
  cases order with
  | nil =>
      cases overlapped
      exact either.resolve_left fun some_ => some_ rfl
  | cons session rest =>
      obtain ⟨view, invoice, seen, same, returns, later⟩ := overlapped
      exact later.invariant (P := fun store => Balanced store.invoice)
        (fun session view store invoice seen same returns _ =>
          keeps session view store invoice seen same returns)
        (keeps session view store invoice seen same returns)

end Calls

/-! ## Any number of calls, in any interleaving -/

section Decisions

variable {α : Type} {view : Store} {version : Store → Int}

theorem decided_require {condition : Bool} {error : ServiceError} {next : Unit → Tx α}
    (rest : condition = true → Decided RowKey.invoice version view (next ())) :
    Decided RowKey.invoice version view (require condition error >>= next) := by
  cases condition with
  | false => exact .refused error
  | true => exact rest rfl

theorem decided_transitionOrConflict {transition : InvoiceTransition}
    {context : TransitionContext} {next : InvoiceStatus → Tx α}
    (rest : ∀ target, Decided RowKey.invoice version view (next target)) :
    Decided RowKey.invoice version view (transitionOrConflict transition context >>= next) := by
  unfold transitionOrConflict
  cases evaluateTransition transition context with
  | refused code message => exact .refused (ServiceError.conflict message)
  | ok target => exact rest target

end Decisions

theorem program_optimistic (call : ManualCall) :
    call.program.Optimistic RowKey.invoice fun store => store.invoice.balanceMinor := by
  unfold ManualCall.program InvoicesService.recordManualPayment
  refine Optimistic.read fun store => ?_
  refine decided_require fun _ => ?_
  refine Decided.ofExcept fun amountMinor => ?_
  refine decided_transitionOrConflict fun target => ?_
  refine .guarded _ _ _ _ _ _ (by simp) ?_ rfl ?_
  · intro other applies
    simp only [Bool.and_eq_true, decide_eq_true_eq] at applies
    exact applies.2
  · intro inserted
    cases inserted with
    | false => trivial
    | true => exact fun _ _ => trivial

/-- Whatever the order of their statements, the calls leave the invoice with the payments of
some of them recorded, one after another: of those that have committed, and these are, of
the calls that have returned, the successful ones.  Nothing else is changed.  As long as the
figures are safe integers, their amounts are taken off the balance, and once one has committed,
the balance is not negative and the invoice is paid exactly when it is zero. -/
theorem manual_payments_add_up {ι : Type} [DecidableEq ι] (calls : ι → ManualCall)
    {store : Store} {schedule : List (Action ι)}
    {final : Config ι Store RowKey Effect ServiceError Invoice}
    (run : (Config.start store fun session => (calls session).program).run? schedule =
      some final) :
    ∃ order : List ι, order.Nodup ∧
      (∀ session, session ∈ order ↔ Event.committed session ∈ final.history) ∧
      (∀ session outcome, final.sessions session = .returned outcome →
        (session ∈ order ↔ ∃ invoice, outcome = .ok invoice)) ∧
      Recorded store (order.map calls) final.committed ∧
      (InvoicesService.SafeFigures store.invoice →
        final.committed.invoice.balanceMinor = store.invoice.balanceMinor -
            ((order.map calls).map (ManualCall.amountMinor store)).sum ∧
          (order ≠ [] ∨ Balanced store.invoice → Balanced final.committed.invoice)) := by
  obtain ⟨order, distinct, overlapped, committed, returned⟩ :=
    Config.overlapped (fun session => program_optimistic (calls session)) (outlasts store)
      ⟨rfl, rfl, fun figures => ⟨figures, .inl rfl⟩⟩ run
  exact ⟨order, distinct, committed, returned, recorded_of_overlapped overlapped, fun figures =>
    ⟨balance_of_overlapped figures overlapped, balanced_of_overlapped figures overlapped⟩⟩

def sampleCall (paymentId amount : String) : ManualCall where
  scope := .user "staff"
  brandId := "brand"
  id := "invoice"
  paymentId := paymentId
  uuid := paymentId
  input := { amount, method := .check, paidAt := 0, reference := none }

/-- Two calls over 60.00, of which the second to write has read the balance too early. -/
def sampleRace : List (Action Bool) :=
  [.advance true, .advance false] ++ List.replicate 7 (.advance true) ++
    List.replicate 2 (.advance false)

theorem manual_payments_add_up_sample :
    let store := (sampleIssue GatewayWebhookEvent).perform sampleEnv sampleInvoice
    let calls := fun session => sampleCall (if session then "m1" else "m2") "60.00"
    ∃ final, (Config.start store fun session => (calls session).program).run? sampleRace =
        some final ∧
      ∃ order : List Bool, order.Nodup ∧
        (∀ session, session ∈ order ↔ Event.committed session ∈ final.history) ∧
        (∀ session outcome, final.sessions session = .returned outcome →
          (session ∈ order ↔ ∃ invoice, outcome = .ok invoice)) ∧
        Recorded store (order.map calls) final.committed ∧
        (InvoicesService.SafeFigures store.invoice →
          final.committed.invoice.balanceMinor = store.invoice.balanceMinor -
              ((order.map calls).map (ManualCall.amountMinor store)).sum ∧
            (order ≠ [] ∨ Balanced store.invoice → Balanced final.committed.invoice)) := by
  intro store calls
  have runs : ((Config.start store fun session => (calls session).program).run?
      sampleRace).isSome = true := by decide +kernel
  obtain ⟨final, run⟩ := Option.isSome_iff_exists.mp runs
  exact ⟨final, run, manual_payments_add_up calls run⟩

def sampleFreeDraft : InvoiceDraftInput where
  currency := .usd
  lines := [{
    itemName := "Service", description := none, quantity := "1", unitPrice := "0"
    taxExempt := true }]
  taxRateBp := 0
  cardFeeRateBp := 0
  notes := none

/-- A draft over nothing has balance zero and is not paid, and a call on it is refused. -/
theorem free_draft_unpaid :
    ∃ store final,
      InvoicesService.create sampleBrand "invoice" "token" sampleFreeDraft = .ok store ∧
      (Config.start store fun _ : Unit => (sampleCall "m1" "60.00").program).run?
        [.advance (), .advance ()] = some final ∧
      final.committed.invoice.balanceMinor = 0 ∧ final.committed.invoice.status ≠ .paid :=
  ⟨_, _, rfl, rfl, rfl, by decide⟩

end MultiBrandInvoicing
