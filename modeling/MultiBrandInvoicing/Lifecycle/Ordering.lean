import MultiBrandInvoicing.Lifecycle.DoublePayment

/-!
# The ordering key of a payment

`lastEventAt` is the only thing that keeps an event from being applied.  It lets newer
events of every kind through, so a settled payment can be taken back; and it holds local
times and ties as well, so a success can be dropped although nothing later happened.
-/

set_option autoImplicit false

namespace MultiBrandInvoicing

open ReadCommitted PaymentsService

inductive GatewayReport (π : Type) where
  | webhook (gateway : PaymentGatewayPort π) (rawBody : π) (headers : List (String × String))
      (brandId : Option String)
  | confirmation (gateway : PaymentGatewayPort π) (now : Time) (scope : PublicScope)
      (gatewayReference : String)

namespace GatewayReport

variable {π : Type}

def operation : GatewayReport π → NativeOperation π
  | webhook gateway rawBody headers brandId => .handleWebhook gateway rawBody headers brandId
  | confirmation gateway now scope gatewayReference =>
      .confirmClientResult gateway now scope gatewayReference

def perform (env : Env) (store : Store) (report : GatewayReport π) : Store :=
  report.operation.perform env store

def result? (store : Store) : GatewayReport π → Option GatewayResult
  | webhook gateway rawBody headers brandId => webhookResult? gateway store rawBody headers brandId
  | confirmation gateway now scope gatewayReference =>
      confirmedResult? gateway store now scope gatewayReference

theorem perform_eq (env : Env) (store : Store) (report : GatewayReport π) :
    report.perform env store = afterResult store (report.result? store) := by
  cases report with
  | webhook gateway rawBody headers brandId => exact handleWebhook_store gateway _ _ _ store
  | confirmation gateway now scope gatewayReference =>
      exact confirmClientResult_store gateway now scope gatewayReference store

theorem operation_result? (env : Env) (store : Store) (report : GatewayReport π) :
    report.operation.result? env store =
      (report.result? store).map fun result => (store, result) := by
  cases report <;> rfl

theorem result?_about {store : Store} {report : GatewayReport π} {result : GatewayResult}
    (brings : report.result? store = some result) : About store result := by
  cases report with
  | webhook gateway rawBody headers brandId => exact webhookResult?_about brings
  | confirmation gateway now scope gatewayReference => exact confirmedResult?_about brings

/-- The report is an authentic event about this payment, attributed to its brand or to
none. -/
def Delivers (payment : Payment) (event : GatewayWebhookEvent) : GatewayReport π → Prop
  | webhook gateway rawBody headers brandId =>
      ∃ attributed, authenticEvent? gateway rawBody headers brandId = some (event, attributed) ∧
        payment.gatewayReference = some event.gatewayReference ∧
        ownedBy attributed payment = true
  | confirmation _ _ _ _ => False

end GatewayReport

theorem find?_reference {store : Store} {payment : Payment} {reference : String}
    (member : payment ∈ store.payments.rows) (named : payment.gatewayReference = some reference) :
    (store.payments.rows.find? fun row => row.gatewayReference = some reference) =
      some payment := by
  cases found : store.payments.rows.find? fun row => row.gatewayReference = some reference with
  | none =>
      have absent := List.find?_eq_none.mp found payment member
      simp [named] at absent
  | some row =>
      have rowNamed : row.gatewayReference = some reference := by
        simpa using List.find?_some found
      have distinct := store.payments.distinct Payment.gatewayReference (by simp [paymentIndexes])
      rw [UniqueTable.eq_of_index distinct (List.mem_of_find?_eq_some found) member rowNamed named]

theorem eq_of_id {store : Store} {first second : Payment}
    (firstMember : first ∈ store.payments.rows) (secondMember : second ∈ store.payments.rows)
    (same : first.id = second.id) : first = second :=
  UniqueTable.eq_of_index (store.payments.distinct (fun payment => some payment.id)
    (by simp [paymentIndexes])) firstMember secondMember (congrArg some same) rfl

/-- An authentic event of a known type is applied exactly when the key lets it through. -/
theorem GatewayReport.result?_of_delivers {π : Type} {store : Store} {report : GatewayReport π}
    {payment : Payment} {event : GatewayWebhookEvent} (member : payment ∈ store.payments.rows)
    (delivers : report.Delivers payment event) (modelled : event.type ≠ .unknown) :
    report.result? store = if isStale payment event then none else some {
      payment
      status := webhookStatus event.type
      occurredAt := event.occurredAt
      declineReason := event.declineReason } := by
  cases report with
  | webhook gateway rawBody headers brandId =>
      obtain ⟨attributed, authentic, named, owned⟩ := delivers
      have found := find?_reference member named
      cases stale : isStale payment event <;>
        simp [result?, webhookResult?, authentic, found, owned, modelled, stale]
  | confirmation => exact delivers.elim

/-- A result about a settled payment comes from an event that the key let through. -/
theorem GatewayReport.delivers_of_settled {π : Type} {store : Store} {report : GatewayReport π}
    {result : GatewayResult} (brings : report.result? store = some result)
    (settled : result.payment.status = .settled) :
    ∃ event, report.Delivers result.payment event ∧ event.type ≠ .unknown ∧
      isStale result.payment event = false ∧ result.status = webhookStatus event.type := by
  cases report with
  | webhook gateway rawBody headers brandId =>
      simp only [result?, webhookResult?, Option.bind_eq_bind, Option.bind_eq_some_iff] at brings
      obtain ⟨⟨event, attributed⟩, authentic, payment, found, _, guarded, same⟩ := brings
      cases same
      simp only [Option.guard_eq_some', Bool.and_eq_true, Bool.not_eq_true', decide_eq_true_eq]
        at guarded
      obtain ⟨⟨owned, modelled⟩, fresh⟩ := guarded
      have named : payment.gatewayReference = some event.gatewayReference := by
        simpa using List.find?_some found
      exact ⟨event, ⟨attributed, authentic, named, owned⟩, modelled, fresh, rfl⟩
  | confirmation gateway now scope gatewayReference =>
      simp only [result?, confirmedResult?, Option.bind_eq_bind, Option.bind_eq_some_iff] at brings
      obtain ⟨payment, found, _, waiting, intent, _, _, _, same⟩ := brings
      cases same
      simp only [Option.guard_eq_some', Bool.or_eq_true, decide_eq_true_eq] at waiting
      rcases waiting with initiated | processing
      · rw [initiated] at settled
        cases settled
      · rw [processing] at settled
        cases settled

/-! ## A settled payment -/

/-- The report takes a settled payment back: an event that is no success and is newer than
what the payment has seen. -/
def Demotes {π : Type} (payment : Payment) (report : GatewayReport π) : Prop :=
  ∃ event, report.Delivers payment event ∧ event.type ≠ .unknown ∧
    event.type ≠ .paymentSucceeded ∧ isStale payment event = false

/-- The payment with this id is neither processing nor failed. -/
def Unregressed (id : String) (store : Store) : Prop :=
  ∀ payment ∈ store.payments.rows, payment.id = id →
    payment.status ≠ .processing ∧ payment.status ≠ .failed

/-- The statuses a settled payment can come to by reports. -/
def Reported (id : String) (store : Store) : Prop :=
  ∃ payment ∈ store.payments.rows, payment.id = id ∧
    (payment.status = .settled ∨ payment.status = .processing ∨ payment.status = .failed)

theorem resultUpdate_cases (status : PaymentIntentStatus) (occurredAt : Time)
    (declineReason : Option String) :
    (resultUpdate status occurredAt declineReason).status = .settled ∨
      (resultUpdate status occurredAt declineReason).status = .processing ∨
        (resultUpdate status occurredAt declineReason).status = .failed := by
  cases status <;> simp [resultUpdate]

theorem webhookStatus_succeeded {type : GatewayEventType} :
    webhookStatus type = .succeeded ↔ type = .paymentSucceeded := by
  cases type <;> simp [webhookStatus]

section Reports

variable {π : Type} {env : Env} {id : String} {store : Store} {report : GatewayReport π}

theorem Reported.perform (reported : Reported id store) :
    Reported id (report.perform env store) := by
  rw [GatewayReport.perform_eq]
  cases brings : report.result? store with
  | none => exact reported
  | some result =>
      obtain ⟨payment, member, same, status⟩ := reported
      by_cases about : payment.id = result.payment.id
      · refine ⟨payment.apply result.update, ?_, same, resultUpdate_cases _ _ _⟩
        rw [PaymentsService.afterResult, apply_rows]
        exact List.mem_map.mpr ⟨payment, member, if_pos about⟩
      · refine ⟨payment, ?_, same, status⟩
        rw [PaymentsService.afterResult, apply_rows]
        exact List.mem_map.mpr ⟨payment, member, if_neg about⟩

/-- A settled payment regresses under a report exactly when the report demotes it. -/
theorem unregressed_perform_iff (reported : Reported id store)
    (unregressed : Unregressed id store) :
    Unregressed id (report.perform env store) ↔
      ∀ payment ∈ store.payments.rows, payment.id = id → ¬Demotes payment report := by
  obtain ⟨payment, member, named, status⟩ := reported
  have settled : payment.status = .settled :=
    status.resolve_right fun either =>
      either.elim (unregressed payment member named).1 (unregressed payment member named).2
  have only : ∀ other ∈ store.payments.rows, other.id = id → other = payment :=
    fun other otherMember otherNamed =>
      eq_of_id otherMember member (otherNamed.trans named.symm)
  rw [GatewayReport.perform_eq]
  constructor
  · intro kept other otherMember otherNamed demotes
    rw [only other otherMember otherNamed] at demotes
    obtain ⟨event, delivers, modelled, unsuccessful, fresh⟩ := demotes
    have brings := GatewayReport.result?_of_delivers member delivers modelled
    rw [fresh] at brings
    simp only [Bool.false_eq_true, if_false] at brings
    rw [brings, PaymentsService.afterResult] at kept
    have after := kept (payment.apply (resultUpdate (webhookStatus event.type) event.occurredAt
      event.declineReason)) (by
        rw [apply_rows]
        exact List.mem_map.mpr ⟨payment, member, if_pos rfl⟩) named
    have taken : webhookStatus event.type ≠ .succeeded :=
      fun succeeded => unsuccessful (webhookStatus_succeeded.mp succeeded)
    rcases resultUpdate_cases (webhookStatus event.type) event.occurredAt event.declineReason with
      kept_ | processing | failed
    · exact taken (resultUpdate_settled.mp kept_)
    · exact after.1 processing
    · exact after.2 failed
  · intro undemoted
    cases brings : report.result? store with
    | none => exact unregressed
    | some result =>
        have about := GatewayReport.result?_about brings
        intro other otherMember otherNamed
        rw [PaymentsService.afterResult, apply_rows] at otherMember
        obtain ⟨row, rowMember, rfl⟩ := List.mem_map.mp otherMember
        by_cases same : row.id = result.payment.id
        · rw [if_pos same] at otherNamed ⊢
          have rowNamed : row.id = id := otherNamed
          have rowIs := only row rowMember rowNamed
          have resultIs : result.payment = payment :=
            only result.payment about.member (same.symm.trans rowNamed)
          obtain ⟨event, delivers, modelled, fresh, outcome⟩ :=
            GatewayReport.delivers_of_settled brings (resultIs ▸ settled)
          have succeeded : event.type = .paymentSucceeded := by
            by_contra unsuccessful
            exact undemoted result.payment about.member (same.symm.trans rowNamed)
              ⟨event, delivers, modelled, unsuccessful, fresh⟩
          have kept : (row.apply result.update).status = .settled := by
            apply resultUpdate_settled.mpr
            rw [outcome, succeeded]
            rfl
          rw [kept]
          exact ⟨by simp, by simp⟩
        · rw [if_neg same] at otherNamed ⊢
          exact unregressed row rowMember otherNamed

theorem invoice_of_paid_perform (paid : store.invoice.status = .paid) :
    (report.perform env store).invoice = store.invoice := by
  rw [GatewayReport.perform_eq]
  cases report.result? store with
  | none => rfl
  | some result => exact afterResult_of_paid paid result.status result.occurredAt

end Reports

/-- A native invoice over a safe amount is paid only with nothing left to pay. -/
theorem NativeReachable.balance_of_paid {π : Type} {env : Env} {store : Store}
    (reachable : NativeReachable π env store)
    (safe : isSafeInteger store.invoice.totalMinor = true)
    (paid : store.invoice.status = .paid) : store.invoice.balanceMinor = 0 := by
  by_cases positive : 0 < store.invoice.totalMinor
  · exact (reachable.coherent positive safe).agrees.paid.mp paid
  · rcases (reachable.dormant (by omega)).status with draft | cancelled
    · rw [paid] at draft
      cases draft
    · rw [paid] at cancelled
      cases cancelled

/-- An invoice that was paid is still paid, with nothing left to pay. -/
def StaysPaid (before after : Store) : Prop :=
  before.invoice.status = .paid → after.invoice.status = .paid ∧ after.invoice.balanceMinor = 0

/-- Reports keep a settled payment from becoming processing or failed, and a paid invoice paid with
nothing left to pay, exactly as long as none of them demotes the payment and the invoice had nothing
left to pay before.  On a native invoice over a safe amount it had not. -/
theorem settled_unregressed_iff {π : Type} (env : Env) {store : Store} {payment : Payment}
    (member : payment ∈ store.payments.rows) (settled : payment.status = .settled)
    (reports : List (GatewayReport π)) :
    (Runs.Always (GatewayReport.perform env)
          (fun next => Unregressed payment.id next ∧ StaysPaid store next) reports store ↔
        Runs.Throughout (GatewayReport.perform env) (fun store report =>
            ∀ row ∈ store.payments.rows, row.id = payment.id → ¬Demotes row report) reports store ∧
          (store.invoice.status = .paid → store.invoice.balanceMinor = 0)) ∧
      (NativeReachable π env store → isSafeInteger store.invoice.totalMinor = true →
        store.invoice.status = .paid → store.invoice.balanceMinor = 0) := by
  have undemoted : Runs.Always (GatewayReport.perform env) (Unregressed payment.id) reports store ↔
      Runs.Throughout (GatewayReport.perform env) (fun store report =>
        ∀ row ∈ store.payments.rows, row.id = payment.id → ¬Demotes row report) reports store := by
    apply Runs.always_iff_throughout (Reported payment.id)
    · intro next report reported
      exact reported.perform
    · intro next report reported unregressed
      exact unregressed_perform_iff reported unregressed
    · exact ⟨payment, member, rfl, .inl settled⟩
    · intro row rowMember same
      rw [eq_of_id rowMember member same, settled]
      exact ⟨by simp, by simp⟩
  have kept : Runs.Always (GatewayReport.perform env)
      (fun next => store.invoice.status = .paid → next.invoice = store.invoice) reports store := by
    apply Runs.always_of_keeps
    · intro next report same paid
      have before := same paid
      rw [invoice_of_paid_perform (before ▸ paid), before]
    · exact fun _ => rfl
  refine ⟨⟨?_, ?_⟩, fun reachable safe paid => reachable.balance_of_paid safe paid⟩
  · intro always
    exact ⟨undemoted.mp (always.mono fun _ both => both.1), fun paid => (always.first.2 paid).2⟩
  · rintro ⟨throughout, cleared⟩
    refine ((undemoted.mpr throughout).and kept).mono fun next both => ⟨both.1, fun paid => ?_⟩
    rw [both.2 paid]
    exact ⟨paid, cleared paid⟩

def sampleSettled : Store :=
  NativeOperation.run sampleEnv [sampleIssue _, sampleAttempt "pi" .succeeded 1000] sampleInvoice

def sampleSettledPayment : Payment where
  id := "pi"
  brandId := "brand"
  method := .ach
  amountMinor := 10000
  currency := "USD"
  status := .settled
  gatewayReference := some "pi"
  idempotencyKey := "invoice:10000:pi"
  lastEventAt := some 1000
  settledAt := some 1000

def sampleRefund : GatewayReport GatewayWebhookEvent :=
  .webhook (sampleGateway "pi" .succeeded 1000)
    (StripeGatewayAdapter.parseWebhook {
      id := "evt", type := "charge.refunded", created := 2, account := none, objectId := "ch"
      paymentIntent := some "pi", lastPaymentErrorMessage := none }) [] none

theorem settled_unregressed_iff_sample :
    (Runs.Always (GatewayReport.perform sampleEnv)
          (fun next => Unregressed "pi" next ∧ StaysPaid sampleSettled next) [sampleRefund]
          sampleSettled ↔
        Runs.Throughout (GatewayReport.perform sampleEnv) (fun store report =>
            ∀ row ∈ store.payments.rows, row.id = "pi" → ¬Demotes row report) [sampleRefund]
            sampleSettled ∧
          (sampleSettled.invoice.status = .paid → sampleSettled.invoice.balanceMinor = 0)) ∧
      (NativeReachable GatewayWebhookEvent sampleEnv sampleSettled →
        isSafeInteger sampleSettled.invoice.totalMinor = true →
        sampleSettled.invoice.status = .paid → sampleSettled.invoice.balanceMinor = 0) :=
  settled_unregressed_iff sampleEnv
    (show sampleSettledPayment ∈ sampleSettled.payments.rows by decide) rfl [sampleRefund]

/-- A refund makes the settled payment processing again. -/
theorem refund_regresses :
    sampleSettledPayment ∈ sampleSettled.payments.rows ∧
      { sampleSettledPayment with status := .processing, lastEventAt := some 2000 } ∈
        (sampleRefund.perform sampleEnv sampleSettled).payments.rows ∧
      ¬Runs.Always (GatewayReport.perform sampleEnv) (Unregressed sampleSettledPayment.id)
        [sampleRefund] sampleSettled := by
  have after : { sampleSettledPayment with status := .processing, lastEventAt := some 2000 } ∈
      (sampleRefund.perform sampleEnv sampleSettled).payments.rows := by decide
  refine ⟨by decide, after, ?_⟩
  intro always
  exact (always.last _ after rfl).1 rfl

end MultiBrandInvoicing
