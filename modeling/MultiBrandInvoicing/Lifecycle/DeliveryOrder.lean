import Mathlib.Data.Finset.Max
import MultiBrandInvoicing.Lifecycle.Delivery

/-!
# Any order of deliveries, any number of times

The webhook service, delivering authentic events about the first attempt on an invoice,
behaves as the register of `Delivery`.  From there the condition under which the order
does not matter comes back to the rows.
-/

set_option autoImplicit false

namespace MultiBrandInvoicing

open ReadCommitted PaymentsService NewestWins

/-- A delivery whose signature holds, about this payment, attributed to its brand or to
none, and of a type the service knows. -/
structure Delivery (π : Type) (payment : Payment) where
  gateway : PaymentGatewayPort π
  rawBody : π
  headers : List (String × String)
  brandId : Option String
  event : GatewayWebhookEvent
  attributed : Option String
  authentic : authenticEvent? gateway rawBody headers brandId = some (event, attributed)
  named : payment.gatewayReference = some event.gatewayReference
  owned : ownedBy attributed payment = true
  modelled : event.type ≠ .unknown

def Delivery.operation {π : Type} {payment : Payment} (delivery : Delivery π payment) :
    NativeOperation π :=
  .handleWebhook delivery.gateway delivery.rawBody delivery.headers delivery.brandId

def Store.rowOf? (store : Store) (payment : Payment) : Option Payment :=
  store.payments.rows.find? fun row => row.gatewayReference = payment.gatewayReference

structure Shows (payment : Payment) (store : Store) (register : Register Seen Time) : Prop where
  row : ∃ row, store.rowOf? payment = some row ∧ row.brandId = payment.brandId ∧
    row.lastEventAt = some register.last ∧ row.status = register.state.status
  invoice : store.invoice = register.state.invoice

theorem rowOf?_apply {store : Store} {payment row : Payment} {result : GatewayResult}
    (found : store.rowOf? payment = some row) (about : result.payment = row) :
    (store.apply result).rowOf? payment = some (row.apply result.update) := by
  subst about
  have kept : ((fun other : Payment => decide (other.gatewayReference = payment.gatewayReference)) ∘
      fun other => if other.id = result.payment.id then other.apply result.update else other) =
        fun other => decide (other.gatewayReference = payment.gatewayReference) := by
    funext other
    by_cases same : other.id = result.payment.id
    · simp [same, Payment.apply]
    · simp [same]
  unfold Store.rowOf? at found ⊢
  rw [apply_rows, List.find?_map, kept, found]
  simp

section Simulation

variable {π : Type} (env : Env) {payment : Payment} {store : Store}
  {register : Register Seen Time}

theorem Delivery.simulates (delivery : Delivery π payment)
    (shows : Shows payment store register) :
    Shows payment (delivery.operation.perform env store)
      (deliver GatewayWebhookEvent.occurredAt Seen.applyEvent register delivery.event) := by
  obtain ⟨row, found, brand, last, status⟩ := shows.row
  have owned : ownedBy delivery.attributed row = true := by
    have owned := delivery.owned
    unfold ownedBy at owned ⊢
    rw [brand]
    exact owned
  have named : (store.payments.rows.find? fun other =>
      other.gatewayReference = some delivery.event.gatewayReference) = some row := by
    rw [← delivery.named]
    exact found
  have performed : delivery.operation.perform env store = afterResult store
      (webhookResult? delivery.gateway store delivery.rawBody delivery.headers delivery.brandId) :=
    handleWebhook_store _ _ _ _ _
  rw [performed]
  by_cases stale : delivery.event.occurredAt ≤ register.last
  · have dropped : isStale row delivery.event = true := by simpa [isStale, last] using stale
    have ignored : webhookResult? delivery.gateway store delivery.rawBody delivery.headers
        delivery.brandId = none := by
      simp [webhookResult?, delivery.authentic, named, dropped]
    rw [ignored, deliver_stale stale]
    exact shows
  · have kept : isStale row delivery.event = false := by
      simpa [isStale, last] using stale
    have applied : webhookResult? delivery.gateway store delivery.rawBody delivery.headers
        delivery.brandId = some {
          payment := row
          status := webhookStatus delivery.event.type
          occurredAt := delivery.event.occurredAt
          declineReason := delivery.event.declineReason } := by
      simp [webhookResult?, delivery.authentic, named, owned, delivery.modelled, kept]
    rw [applied, deliver_newer (not_le.mp stale)]
    refine ⟨⟨_, rowOf?_apply found rfl, brand, ?_, rfl⟩, ?_⟩
    · cases webhookStatus delivery.event.type <;> rfl
    · change store.invoice.afterResult _ _ = register.state.invoice.afterResult _ _
      rw [shows.invoice]

theorem run_simulates (deliveries : List (Delivery π payment))
    (shows : Shows payment store register) :
    Shows payment (NativeOperation.run env (deliveries.map Delivery.operation) store)
      (deliverEvents (deliveries.map Delivery.event) register) := by
  induction deliveries generalizing store register with
  | nil => exact shows
  | cons delivery rest ih => exact ih (delivery.simulates env shows)

end Simulation

/-! ## The state an attempt is opened in -/

theorem QuietStep.not_pending {recorded : Option Int} {store next : Store}
    (step : QuietStep store recorded next) (settled : store.invoice.status ≠ .pendingPayment) :
    next.invoice.status ≠ .pendingPayment := by
  cases step with
  | kept _ same =>
      rw [same]
      exact settled
  | issued => simp [InvoicesService.Store.issued]
  | viewed => simp [PublicInvoicesService.Store.viewed]
  | recorded paymentId uuid input amountMinor payments event _ granted rows same =>
      rw [same]
      simp only [InvoicesService.Store.recorded, InvoicesService.afterManualPayment,
        InvoicesService.recordOnInvoice]
      split <;> simp
  | cancelled => simp [InvoicesService.Store.cancelled]

/-- Only an attempt makes an invoice pending. -/
theorem NativeReachable.attempted_of_pending {π : Type} {env : Env} {store : Store}
    (reachable : NativeReachable π env store)
    (pending : store.invoice.status = .pendingPayment) :
    ∃ payment ∈ store.payments.rows, payment.gatewayReference.isSome = true := by
  refine reachable.invariant (fun store => store.invoice.status = .pendingPayment →
    ∃ payment ∈ store.payments.rows, payment.gatewayReference.isSome = true) ?_ ?_ ?_ ?_ pending
  · intro brand id publicToken input store created pending
    rw [(InvoicesService.create_ok created).draft] at pending
    cases pending
  · intro store recorded next holds step pending
    have before : store.invoice.status = .pendingPayment := by
      by_contra settled
      exact step.not_pending settled pending
    obtain ⟨payment, member, referenced⟩ := holds before
    refine ⟨payment, ?_, referenced⟩
    rcases step.ledger with ⟨_, rows, _⟩ | ⟨_, _, _, _, _, rows, _, _⟩
    · rw [rows]
      exact member
    · rw [rows]
      exact List.mem_append_left _ member
  · intro store method attempt holds opens _
    exact ⟨attempt.result.payment, by simp [Store.attempting, opens.rows], opens.referenced⟩
  · intro store result holds about _
    refine ⟨result.payment.apply result.update, ?_, about.referenced⟩
    rw [apply_rows]
    exact List.mem_map.mpr ⟨result.payment, about.member, if_pos rfl⟩

section FirstAttempt

variable {π : Type} {env : Env} {store : Store} {method : PaymentMethod} {attempt : OpenedAttempt}

def openedRegister (store : Store) (attempt : OpenedAttempt) : Register Seen Time where
  last := attempt.result.occurredAt
  state := {
    status := attempt.result.update.status
    invoice := ((store.attempting attempt.payments).apply attempt.result).invoice }

theorem shows_opened (opens : Opens store method attempt)
    (first : ∀ row ∈ store.payments.rows, row.gatewayReference = none) :
    Shows attempt.result.payment ((store.attempting attempt.payments).apply attempt.result)
      (openedRegister store attempt) := by
  have found : (store.attempting attempt.payments).rowOf? attempt.result.payment =
      some attempt.result.payment := by
    have others : store.payments.rows.find? (fun row =>
        row.gatewayReference = attempt.result.payment.gatewayReference) = none := by
      rw [List.find?_eq_none]
      intro row member same
      have referenced := opens.referenced
      simp only [decide_eq_true_eq] at same
      rw [← same, first row member] at referenced
      cases referenced
    simp [Store.rowOf?, Store.attempting, opens.rows, List.find?_append, others]
  refine ⟨⟨_, rowOf?_apply found rfl, rfl, ?_, rfl⟩, rfl⟩
  simp only [Payment.apply, GatewayResult.update, openedRegister]
  cases attempt.result.status <;> rfl

theorem opened_register (reachable : NativeReachable π env store)
    (opens : Opens store method attempt)
    (first : ∀ row ∈ store.payments.rows, row.gatewayReference = none) :
    Opened (openedRegister store attempt).state := by
  have settled : store.invoice.status ≠ .pendingPayment := by
    intro pending
    obtain ⟨row, member, referenced⟩ := reachable.attempted_of_pending pending
    rw [first row member] at referenced
    cases referenced
  have listed : store.invoice.status ∈ [InvoiceStatus.sent, .viewed, .partiallyPaid] := by
    have payable := opens.payable
    cases status : store.invoice.status <;> simp_all [isPayable, payableStatuses]
  have invoice : (openedRegister store attempt).state.invoice =
      (store.attempting attempt.payments).invoice.afterResult attempt.result.status
        attempt.result.occurredAt := rfl
  have returned : (store.attempting attempt.payments).invoice.afterDecline.status =
      store.invoice.status := by
    rw [afterDecline_of_pending rfl rfl settled]
  have success : ((store.attempting attempt.payments).invoice.afterSuccess
        attempt.result.occurredAt).status = .paid ∧
      ((store.attempting attempt.payments).invoice.afterSuccess
        attempt.result.occurredAt).balanceMinor = 0 :=
    afterSuccess_of_open (by simp [Store.attempting, allowed]) attempt.result.occurredAt
  refine ⟨?_, ?_, ?_⟩
  · intro status
    have succeeded : attempt.result.status = .succeeded := resultUpdate_settled.mp status
    rw [invoice, succeeded]
    exact success.1
  · rw [invoice]
    cases attempt.result.status with
    | succeeded => exact fun _ => success.2
    | failed =>
        intro paid
        rw [Invoice.afterResult, returned] at paid
        rw [paid] at listed
        simp at listed
    | requiresAction => exact fun paid => by cases paid
    | processing => exact fun paid => by cases paid
    | cancelled => exact fun paid => by cases paid
  · rw [invoice]
    cases attempt.result.status with
    | succeeded =>
        intro pending
        rw [Invoice.afterResult, success.1] at pending
        cases pending
    | failed =>
        intro pending
        rw [Invoice.afterResult, returned] at pending
        exact absurd pending settled
    | requiresAction => exact fun _ => ⟨store.invoice.status, listed, rfl⟩
    | processing => exact fun _ => ⟨store.invoice.status, listed, rfl⟩
    | cancelled => exact fun _ => ⟨store.invoice.status, listed, rfl⟩

end FirstAttempt

/-! ## The settlement of every order of deliveries -/

def Store.settlementOf? (store : Store) (payment : Payment) :
    Option (PaymentStatus × InvoiceStatus × Int) :=
  (store.rowOf? payment).map fun row =>
    (row.status, store.invoice.status, store.invoice.balanceMinor)

theorem Shows.settlementOf? {payment : Payment} {store : Store} {register : Register Seen Time}
    (shows : Shows payment store register) :
    store.settlementOf? payment = some register.state.settlement := by
  obtain ⟨row, found, _, _, status⟩ := shows.row
  simp [Store.settlementOf?, found, status, shows.invoice, Seen.settlement]

/-- However the events are delivered the settlement is the same, and a settled payment has
paid the invoice. -/
structure SettlesAlike (π : Type) (env : Env) (payment : Payment) (start : Store)
    (events : List GatewayWebhookEvent) : Prop where
  alike : ∀ first second : List (Delivery π payment),
    SameEvents (first.map Delivery.event) events → SameEvents (second.map Delivery.event) events →
      (NativeOperation.run env (first.map Delivery.operation) start).settlementOf? payment =
        (NativeOperation.run env (second.map Delivery.operation) start).settlementOf? payment
  paid : ∀ deliveries : List (Delivery π payment),
    SameEvents (deliveries.map Delivery.event) events →
      ∀ status invoiceStatus balanceMinor,
        (NativeOperation.run env (deliveries.map Delivery.operation) start).settlementOf? payment =
          some (status, invoiceStatus, balanceMinor) →
        status = .settled → invoiceStatus = .paid ∧ balanceMinor = 0

theorem exists_newest {events : List GatewayWebhookEvent} (some_ : events ≠ [])
    (distinct : ∀ first ∈ events, ∀ second ∈ events,
      first.occurredAt = second.occurredAt → first = second) :
    ∃ newest, Newest newest events := by
  have nonempty : events.toFinset.Nonempty := by
    rw [List.toFinset_nonempty_iff]
    exact some_
  obtain ⟨newest, member, above⟩ :=
    events.toFinset.exists_max_image GatewayWebhookEvent.occurredAt nonempty
  have listed := List.mem_toFinset.mp member
  refine ⟨newest, listed, ?_⟩
  intro event here
  rcases (above event (List.mem_toFinset.mpr here)).lt_or_eq with older | same
  · exact .inr older
  · exact .inl (distinct event here newest listed same)

theorem exists_deliveries {π : Type} {payment : Payment} {events : List GatewayWebhookEvent}
    (deliverable : ∀ event ∈ events, ∃ delivery : Delivery π payment, delivery.event = event) :
    ∃ deliveries : List (Delivery π payment), deliveries.map Delivery.event = events := by
  induction events with
  | nil => exact ⟨[], rfl⟩
  | cons event rest ih =>
      obtain ⟨delivery, same⟩ := deliverable event (by simp)
      obtain ⟨others, restSame⟩ := ih fun other member => deliverable other (by simp [member])
      exact ⟨delivery :: others, by rw [List.map_cons, same, restSame]⟩

section Orders

variable {π : Type} {env : Env} {payment : Payment} {start : Store}
  {register : Register Seen Time} {events : List GatewayWebhookEvent}

theorem settlesAlike_of_safe (shows : Shows payment start register)
    (opened : Opened register.state)
    (distinct : ∀ first ∈ events, ∀ second ∈ events,
      first.occurredAt = second.occurredAt → first = second)
    (newer : ∀ event ∈ events, register.last < event.occurredAt)
    (safe : ∀ newest, Newest newest events → SafeAfter start.invoice newest events) :
    SettlesAlike π env payment start events := by
  by_cases none_ : events = []
  · have unmoved : ∀ deliveries : List (Delivery π payment),
        SameEvents (deliveries.map Delivery.event) events → deliveries = [] := by
      intro deliveries same
      cases deliveries with
      | nil => rfl
      | cons delivery rest =>
          have member := (same delivery.event).mp (by simp)
          rw [none_] at member
          cases member
    refine ⟨?_, ?_⟩
    · intro first second firstSame secondSame
      rw [unmoved first firstSame, unmoved second secondSame]
    · intro deliveries same status invoiceStatus balanceMinor settlement settled
      rw [unmoved deliveries same] at settlement
      have shown := shows.settlementOf?.symm.trans settlement
      cases shown
      have paid := opened.settled settled
      exact ⟨paid, opened.paid paid⟩
  · obtain ⟨newest, last⟩ := exists_newest none_ distinct
    have safe := safe newest last
    rw [shows.invoice] at safe
    have settles : ∀ deliveries : List (Delivery π payment),
        SameEvents (deliveries.map Delivery.event) events →
          (NativeOperation.run env (deliveries.map Delivery.operation) start).settlementOf?
              payment = some (register.state.applyEvent newest).settlement := by
      intro deliveries same
      rw [(run_simulates env deliveries shows).settlementOf?,
        settlement_deliverAll last (newer newest last.member) safe same]
    refine ⟨?_, ?_⟩
    · intro first second firstSame secondSame
      rw [settles first firstSame, settles second secondSame]
    · intro deliveries same status invoiceStatus balanceMinor settlement settled
      have shown := (settles deliveries same).symm.trans settlement
      cases shown
      exact paid_of_safe opened safe settled

theorem safe_of_settlesAlike (shows : Shows payment start register)
    (opened : Opened register.state)
    (deliverable : ∀ event ∈ events, ∃ delivery : Delivery π payment, delivery.event = event)
    (newer : ∀ event ∈ events, register.last < event.occurredAt)
    (settles : SettlesAlike π env payment start events) {newest : GatewayWebhookEvent}
    (last : Newest newest events) : SafeAfter start.invoice newest events := by
  have delivered : ∀ order, SameEvents order events →
      ∃ deliveries : List (Delivery π payment), deliveries.map Delivery.event = order ∧
        (NativeOperation.run env (deliveries.map Delivery.operation) start).settlementOf? payment =
          some (deliverEvents order register).state.settlement := by
    intro order same
    have listed : ∃ deliveries : List (Delivery π payment),
        deliveries.map Delivery.event = order :=
      exists_deliveries fun event member => deliverable event ((same event).mp member)
    obtain ⟨deliveries, exact_⟩ := listed
    refine ⟨deliveries, exact_, ?_⟩
    rw [(run_simulates env deliveries shows).settlementOf?, exact_]
  rw [shows.invoice]
  by_cases succeeded : webhookStatus newest.type = .succeeded
  · apply safe_of_success opened last newer succeeded
    intro order same settled
    obtain ⟨deliveries, exact_, settlement⟩ := delivered order same
    exact (settles.paid deliveries (exact_ ▸ same) _ _ _ settlement settled).1
  · apply safe_of_alike opened last newer succeeded
    intro order same
    have direct := sameEvents_cons last.member
    obtain ⟨deliveries, exact_, settlement⟩ := delivered order same
    obtain ⟨others, otherExact, otherSettlement⟩ := delivered (newest :: events) direct
    have alike := settles.alike deliveries others (exact_ ▸ same) (otherExact ▸ direct)
    rw [settlement, otherSettlement] at alike
    exact Option.some.inj alike

end Orders

/-- Events about the first attempt on an invoice, pairwise at different times and newer
than the attempt, come to the same in every order and number, with a settled payment
paying the invoice, exactly when the newest of them meets the condition. -/
theorem settles_alike_iff {π : Type} {env : Env} {gateway : PaymentGatewayPort π} {store : Store}
    {paymentId : String} {scope : PublicScope} {method : PaymentMethod} {attemptNonce : String}
    {attempt : OpenedAttempt} {events : List GatewayWebhookEvent}
    (reachable : NativeReachable π env store)
    (first : ∀ row ∈ store.payments.rows, row.gatewayReference = none)
    (opened : attempt? env gateway store paymentId scope method attemptNonce = some attempt)
    (deliverable : ∀ event ∈ events,
      ∃ delivery : Delivery π attempt.result.payment, delivery.event = event)
    (distinct : ∀ first ∈ events, ∀ second ∈ events,
      first.occurredAt = second.occurredAt → first = second)
    (newer : ∀ event ∈ events, attempt.result.occurredAt < event.occurredAt) :
    let start := (NativeOperation.createIntent gateway paymentId scope method
      attemptNonce).perform env store
    SettlesAlike π env attempt.result.payment start events ↔
      ∀ newest, Newest newest events → SafeAfter start.invoice newest events := by
  intro start
  have opens := attempt?_opens env gateway opened
  have done : start = (store.attempting attempt.payments).apply attempt.result := by
    have performed : start = afterAttempt store
        (attempt? env gateway store paymentId scope method attemptNonce) :=
      createIntent_store env gateway store paymentId scope method attemptNonce
    rw [performed, opened]
    rfl
  rw [done]
  have shows := shows_opened opens first
  have after := opened_register reachable opens first
  exact ⟨fun settles newest last =>
      safe_of_settlesAlike shows after deliverable newer settles last,
    fun safe => settlesAlike_of_safe shows after distinct newer safe⟩

/-! ## A decline before a success -/

def sampleIssued : Store := (sampleIssue GatewayWebhookEvent).perform sampleEnv sampleInvoice

def sampleOpened : OpenedAttempt :=
  (attempt? sampleEnv (sampleGateway "pi" .processing 1) sampleIssued "pi" samplePayer .ach
    "pi").get (by decide)

def sampleDelivered (type : GatewayEventType) (occurredAt : Time) (modelled : type ≠ .unknown) :
    Delivery GatewayWebhookEvent sampleOpened.result.payment where
  gateway := sampleGateway "pi" .processing 0
  rawBody := sampleEvent "pi" type occurredAt
  headers := []
  brandId := none
  event := sampleEvent "pi" type occurredAt
  attributed := none
  authentic := rfl
  named := rfl
  owned := rfl
  modelled := modelled

def sampleDeclineThenSuccess : List GatewayWebhookEvent :=
  [sampleEvent "pi" .paymentFailed 2, sampleEvent "pi" .paymentSucceeded 3]

theorem settles_alike_iff_sample :
    SettlesAlike GatewayWebhookEvent sampleEnv sampleOpened.result.payment
        ((sampleAttempt "pi" .processing 1).perform sampleEnv sampleIssued)
        sampleDeclineThenSuccess ↔
      ∀ newest, Newest newest sampleDeclineThenSuccess →
        SafeAfter ((sampleAttempt "pi" .processing 1).perform sampleEnv sampleIssued).invoice newest
          sampleDeclineThenSuccess := by
  refine settles_alike_iff (.performed _ _ (sampleInvoice_reachable _)) (by decide)
    (Option.some_get _).symm ?_ (by decide) (by decide)
  intro event member
  simp only [sampleDeclineThenSuccess, List.mem_cons, List.not_mem_nil, or_false] at member
  rcases member with rfl | rfl
  · exact ⟨sampleDelivered .paymentFailed 2 (by decide), rfl⟩
  · exact ⟨sampleDelivered .paymentSucceeded 3 (by decide), rfl⟩

/-- Delivered in the order they occurred in, the payment is settled and the invoice is
back to sent, owing everything. -/
theorem success_after_decline_unpaid :
    ¬SettlesAlike GatewayWebhookEvent sampleEnv sampleOpened.result.payment
      ((sampleAttempt "pi" .processing 1).perform sampleEnv sampleIssued)
      sampleDeclineThenSuccess := by
  intro settles
  have unpaid := settles.paid
    [sampleDelivered .paymentFailed 2 (by decide), sampleDelivered .paymentSucceeded 3 (by decide)]
    (fun _ => Iff.rfl) .settled .sent 10000 (by decide) rfl
  cases unpaid.1

end MultiBrandInvoicing
