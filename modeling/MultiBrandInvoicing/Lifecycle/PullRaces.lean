import MultiBrandInvoicing.Integrations.PullEffects
import MultiBrandInvoicing.Lifecycle.SuccessKey
import MultiBrandInvoicing.ReadCommitted.Outlines

/-!
# Pulls beside a payment

A pull writes Zoho's status and balance over whatever the row has, at any moment between
the start of an attempt and its result.  What a success finds afterwards is therefore
the status of the attempt or one that a pull reported.
-/

set_option autoImplicit false

namespace MultiBrandInvoicing

open ReadCommitted Program PaymentsService ZohoPullService

/-! ## An attempt beside pulls -/

def Awaiting (statuses : List InvoiceStatus) (paymentId : String) (store : Store) : Prop :=
  ∀ row ∈ store.payments.rows, row.id = paymentId →
    row.status = .initiated ∨ row.status = .processing → store.invoice.status ∈ statuses

def pulledStatus {ν : Type} (item : ZohoInvoiceListItem ν) : InvoiceStatus :=
  (invoiceStatusMap item.status).getD .sent

section Attempt

variable {statuses : List InvoiceStatus} {paymentId : String}

theorem Awaiting.of_status {store : Store} (listed : store.invoice.status ∈ statuses) :
    Awaiting statuses paymentId store := fun _ _ _ _ => listed

/-- The payment has its result. -/
def Answered (paymentId : String) (store : Store) : Prop :=
  ∀ row ∈ store.payments.rows, row.id = paymentId →
    row.status ≠ .initiated ∧ row.status ≠ .processing

theorem Answered.awaiting {store : Store} (answered : Answered paymentId store) :
    Awaiting statuses paymentId store := by
  rintro row member same (initiated | processing)
  · exact absurd initiated (answered row member same).1
  · exact absurd processing (answered row member same).2

theorem answered_applyUpdate (store : Store) {data : PaymentUpdate}
    (ended : data.status ≠ .initiated ∧ data.status ≠ .processing) :
    Answered paymentId { store with payments := store.payments.applyUpdate paymentId data } := by
  intro row member same
  simp only [PaymentTable.applyUpdate, UniqueTable.modify_rows, List.mem_map] at member
  obtain ⟨earlier, _, rfl⟩ := member
  by_cases named : earlier.id = paymentId
  · simp only [named, decide_true, if_true]
    exact ended
  · simp only [named, decide_false, Bool.false_eq_true, if_false] at same

theorem outline_orThrow {I P : Store → Prop} (after : Store → Prop) {α : Type}
    {Q : α → Store → Prop} {label : Effect} {rows : List RowKey} {applies : Store → Bool}
    {change : Store → Store} {error : ServiceError} {next : Unit → Tx α}
    (leads : ∀ view, P view → after (change view)) (rest : (next ()).Outline I Q after) :
    ((writeRows label rows applies change >>= fun found =>
      if found then pure () else .throw error) >>= next).Outline I Q P :=
  ⟨⟨after, leads, rest⟩, trivial⟩

theorem outline_require {I P : Store → Prop} {α : Type} {Q : α → Store → Prop}
    {condition : Bool} {error : ServiceError} {next : Unit → Tx α}
    (rest : condition = true → (next ()).Outline I Q P) :
    (require condition error >>= next).Outline I Q P := by
  cases holds : condition with
  | true => exact rest holds
  | false => trivial

theorem startIntent_outline {π : Type} {I P : Store → Prop} (gateway : PaymentGatewayPort π)
    (input : CreateIntentInput) : (startIntent gateway input).Outline I (fun _ => P) P := by
  unfold startIntent
  cases gateway.createIntent input with
  | error failure => trivial
  | ok intent => exact fun _ holds => holds

theorem logged_outline (label : Effect) (id : String) (change : Invoice → Invoice)
    (event : InvoiceEvent) :
    (updateInvoice label id change >>= fun _ => createInvoiceEvent event).Outline
      (Awaiting statuses paymentId) (fun _ => Awaiting statuses paymentId)
      (Answered paymentId) := by
  refine outline_orThrow (Answered paymentId) (fun _ answered => answered) ?_
  exact ⟨⟨_, fun _ answered => answered, fun _ answered => Answered.awaiting answered⟩,
    fun _ answered => Answered.awaiting answered⟩

/-- Applied to a pending invoice, a result closes the payment or leaves the invoice
pending. -/
theorem applySettlement_outline (listed : .pendingPayment ∈ statuses)
    (input : SettlementInput) (named : input.paymentId = paymentId) :
    (applySettlement input).Outline (Awaiting statuses paymentId)
      (fun _ => Awaiting statuses paymentId)
      fun store => store.invoice.status = .pendingPayment := by
  subst named
  have closes : ∀ data : PaymentUpdate,
      data.status ≠ .initiated ∧ data.status ≠ .processing → ∀ store : Store,
        Answered input.paymentId
          { store with payments := store.payments.applyUpdate input.paymentId data } :=
    fun data ended store => answered_applyUpdate store ended
  unfold applySettlement
  split
  · refine outline_orThrow (Answered input.paymentId) (fun store _ => closes _ (by simp) store) ?_
    simp only
    split
    · exact fun store answered => answered.awaiting
    · exact logged_outline ..
  · refine outline_orThrow (Answered input.paymentId) (fun store _ => closes _ (by simp) store) ?_
    simp only
    split
    · exact fun store answered => answered.awaiting
    · exact logged_outline ..
  · have stays : ∀ store : Store, store.invoice.status = .pendingPayment →
        Awaiting statuses input.paymentId store :=
      fun store pending => .of_status (pending ▸ listed)
    exact ⟨⟨fun store => store.invoice.status = .pendingPayment, fun _ pending => pending, stays⟩,
      trivial⟩

variable {π : Type} (env : Env)

theorem createIntent_outline (listed : .pendingPayment ∈ statuses)
    (gateway : PaymentGatewayPort π) (scope : PublicScope) (method : PaymentMethod)
    (attemptNonce : String) :
    (createIntent env gateway paymentId scope method attemptNonce).Outline
      (Awaiting statuses paymentId) (fun _ => Awaiting statuses paymentId)
      (Awaiting statuses paymentId) := by
  unfold createIntent
  refine Outline.read fun store _ => ?_
  refine outline_require fun _ => ?_
  refine Outline.read fun _ _ => ?_
  refine outline_require fun _ => ?_
  refine Outline.ofExcept fun quote _ => ?_
  refine Outline.read fun _ _ => ?_
  simp only
  split
  · exact fun _ waiting => waiting
  · unfold startAttempt
    rcases initiatePayment_decision store with ⟨code, message, refused, _⟩ | ⟨granted, _⟩
    · simp only [transitionOrConflict, refused]
      trivial
    · simp only [transitionOrConflict, granted]
      -- the row is inserted before the status is set, so nothing is known in between
      refine outline_orThrow (fun _ => True) (fun _ _ => trivial) ?_
      refine outline_orThrow (fun store => store.invoice.status = .pendingPayment)
        (fun _ _ => rfl) ?_
      refine Outline.bind (Q := fun _ store => store.invoice.status = .pendingPayment) ?_
        fun intent => ?_
      · exact startIntent_outline gateway _
      refine outline_orThrow (fun store => store.invoice.status = .pendingPayment)
        (fun _ pending => pending) ?_
      refine Outline.bind (applySettlement_outline listed _ rfl) fun _ => ?_
      refine Outline.read fun final _ => ⟨fun _ waiting => waiting, ?_⟩
      by_cases succeeded : intent.status = .succeeded
      · simp only [succeeded, if_true]
        exact fun _ waiting => waiting
      · simp only [succeeded, if_false]
        exact fun _ waiting => waiting

/-- Writing a listed status, a pull keeps a waiting payment's invoice in the list. -/
theorem pullOneInvoice_outline {ν : Type} (numbers : ZohoNumbers ν)
    {item : ZohoInvoiceListItem ν} (answers : PullAnswers ν) (reported : pulledStatus item ∈ statuses) :
    (discard (pullOneInvoice numbers item answers)).Outline (Awaiting statuses paymentId)
      (fun _ => Awaiting statuses paymentId) (Awaiting statuses paymentId) := by
  apply Outline.of_writes
  refine Writes.bind ?_ fun _ => trivial
  obtain ⟨rest, text, after⟩ := pullOneInvoice_text numbers item answers
  rw [text]
  intro existing
  refine (after existing).writes.mono fun _ _ change written store waiting => ?_
  cases written store with
  | detail only =>
      rw [only]
      exact waiting
  | header customer currency supported same =>
      rw [same]
      exact .of_status reported

end Attempt

def attemptBesidePulls {ι ν : Type} (numbers : ZohoNumbers ν) (attempt : Tx PaymentAttemptResult)
    (pulls : ι → ZohoInvoiceListItem ν × PullAnswers ν) : Option ι → Tx Unit
  | none => discard attempt
  | some pull => discard (pullOneInvoice numbers (pulls pull).1 (pulls pull).2)

/-! ## The gateway's success -/

def GatewayReport.Succeeds {π : Type} (store : Store) (payment : Payment) :
    GatewayReport π → Prop
  | webhook gateway rawBody headers brandId =>
      ∃ event, (webhook gateway rawBody headers brandId).Delivers payment event ∧
        event.type = .paymentSucceeded
  | confirmation gateway _ scope gatewayReference =>
      store.invoice.id = scope.invoiceId ∧ payment.gatewayReference = some gatewayReference ∧
        ∃ intent, gateway.retrieve gatewayReference payment.brandId = .ok intent ∧
          intent.status = .succeeded

def GatewayReport.Timely {π : Type} (payment : Payment) : GatewayReport π → Prop
  | webhook gateway rawBody headers brandId =>
      ∀ event, (webhook gateway rawBody headers brandId).Delivers payment event →
        isStale payment event = false
  | confirmation _ _ _ _ => True

/-- The payment is settled and the invoice is paid with it. -/
def RecordedInFull (payment : Payment) (store : Store) : Prop :=
  (∃ row ∈ store.payments.rows, row.id = payment.id ∧ row.status = .settled) ∧
    store.invoice.status = .paid ∧ store.invoice.balanceMinor = 0

theorem GatewayReport.result?_of_succeeds {π : Type} {store : Store} {payment : Payment}
    {report : GatewayReport π} (member : payment ∈ store.payments.rows)
    (waiting : payment.status = .initiated ∨ payment.status = .processing)
    (succeeds : report.Succeeds store payment) :
    report.Timely payment ∧ (∃ result, report.result? store = some result ∧
        result.payment = payment ∧ result.status = .succeeded) ∨
      ¬report.Timely payment ∧ report.result? store = none := by
  cases report with
  | webhook gateway rawBody headers brandId =>
      obtain ⟨event, delivers, succeeded⟩ := succeeds
      have brings := GatewayReport.result?_of_delivers member delivers (by simp [succeeded])
      have only : ∀ other,
          (GatewayReport.webhook gateway rawBody headers brandId).Delivers payment other →
            other = event := by
        rintro other ⟨_, authentic, _⟩
        obtain ⟨_, first, _⟩ := delivers
        rw [first] at authentic
        cases authentic
        rfl
      cases stale : isStale payment event with
      | true =>
          refine .inr ⟨fun timely => ?_, by rw [brings, stale]; rfl⟩
          rw [timely event delivers] at stale
          cases stale
      | false =>
          refine .inl ⟨fun other also => only other also ▸ stale, ?_⟩
          refine ⟨_, by rw [brings, stale]; rfl, rfl, ?_⟩
          rw [succeeded]
          rfl
  | confirmation gateway now scope gatewayReference =>
      obtain ⟨invoice, named, intent, retrieved, succeeded⟩ := succeeds
      refine .inl ⟨trivial, ?_⟩
      have found := find?_reference member named
      refine ⟨⟨payment, intent.status, now, intent.declineReason⟩, ?_, rfl, succeeded⟩
      simp [result?, confirmedResult?, invoice, found, retrieved, waiting, succeeded, Except.toOption]

/-- A success is recorded in full exactly when the key lets it through and SETTLE_FULL may
start from the status it finds. -/
theorem recorded_iff {π : Type} (env : Env) {store : Store} {payment : Payment}
    {report : GatewayReport π} (member : payment ∈ store.payments.rows)
    (waiting : payment.status = .initiated ∨ payment.status = .processing)
    (unpaid : store.invoice.status ∈ payableStatuses) (succeeds : report.Succeeds store payment) :
    RecordedInFull payment (report.perform env store) ↔
      report.Timely payment ∧ store.invoice.status ∈ allowed .settleFull := by
  rw [GatewayReport.perform_eq]
  have different : store.invoice.status ≠ .paid := by
    intro paid
    simp [paid, payableStatuses] at unpaid
  rcases GatewayReport.result?_of_succeeds member waiting succeeds with
    ⟨timely, result, brings, about, succeeded⟩ | ⟨late, none_⟩
  · rw [brings, PaymentsService.afterResult]
    have invoice : (store.apply result).invoice = store.invoice.afterSuccess result.occurredAt := by
      rw [Store.apply, succeeded]
      rfl
    constructor
    · rintro ⟨_, paid, _⟩
      refine ⟨timely, ?_⟩
      by_contra closed
      have kept : store.invoice.afterSuccess result.occurredAt = store.invoice :=
        afterResult_of_closed closed .succeeded result.occurredAt
      rw [invoice, kept] at paid
      exact different paid
    · rintro ⟨_, listed⟩
      refine ⟨?_, invoice ▸ afterSuccess_of_open listed result.occurredAt⟩
      refine ⟨payment.apply result.update, ?_, rfl, ?_⟩
      · rw [apply_rows]
        exact List.mem_map.mpr ⟨payment, member, by rw [if_pos (by rw [about])]⟩
      · exact resultUpdate_settled.mpr succeeded
  · rw [none_, PaymentsService.afterResult]
    constructor
    · rintro ⟨_, paid, _⟩
      exact absurd paid different
    · rintro ⟨timely, _⟩
      exact absurd timely late

/-- Beside pulls that report the invoice as open, an attempt's success is recorded in full
exactly when the key lets it through and it finds the invoice PENDING_PAYMENT or
PARTIALLY_PAID; it finds it so whenever the pulls report nothing but these. -/
theorem attempt_recorded_iff {ι π ν : Type} [DecidableEq ι] (env : Env) (numbers : ZohoNumbers ν)
    {gateway : PaymentGatewayPort π} {paymentId attemptNonce : String} {scope : PublicScope}
    {method : PaymentMethod} {pulls : ι → ZohoInvoiceListItem ν × PullAnswers ν} {store : Store}
    (fresh : ∀ row ∈ store.payments.rows, row.id ≠ paymentId)
    (reported : ∀ pull, pulledStatus (pulls pull).1 ∈ payableStatuses)
    {schedule : List (Action (Option ι))}
    {final : Config (Option ι) Store RowKey Effect ServiceError Unit}
    (run : (Config.start store (attemptBesidePulls numbers
      (createIntent env gateway paymentId scope method attemptNonce) pulls)).run? schedule =
        some final)
    {payment : Payment} (member : payment ∈ final.committed.payments.rows)
    (named : payment.id = paymentId)
    (waiting : payment.status = .initiated ∨ payment.status = .processing)
    {report : GatewayReport π} (succeeds : report.Succeeds final.committed payment) :
    (RecordedInFull payment (report.perform env final.committed) ↔
        report.Timely payment ∧ final.committed.invoice.status ∈ allowed .settleFull) ∧
      ((∀ pull, pulledStatus (pulls pull).1 ∈ allowed .settleFull) →
        final.committed.invoice.status ∈ allowed .settleFull) := by
  have among : ∀ statuses : List InvoiceStatus, .pendingPayment ∈ statuses →
      (∀ pull, pulledStatus (pulls pull).1 ∈ statuses) →
        final.committed.invoice.status ∈ statuses := by
    intro statuses listed within
    have initial : Awaiting statuses paymentId store := fun row here same _ =>
      absurd same (fresh row here)
    refine Config.restored initial (fun session => ?_) run payment member named waiting
    cases session with
    | none =>
        exact (createIntent_outline env listed gateway scope method attemptNonce).bind
          fun _ _ holds => holds
    | some pull => exact pullOneInvoice_outline numbers _ (within pull)
  refine ⟨recorded_iff env member waiting (among _ (by decide) reported) succeeds, ?_⟩
  exact among _ (by decide)

def samplePulledAttempt (status : String) :
    Config (Option Unit) Store RowKey Effect ServiceError Unit :=
  Config.start sampleLinked (attemptBesidePulls sampleDecimals
    (createIntent sampleEnv (sampleGateway "pi" .processing 1000) "pi" samplePayer .ach "pi")
    fun _ => (sampleItem status "2", sampleAnswers none))

def sampleAttemptThenPull : List (Action (Option Unit)) :=
  List.replicate 11 (.advance none) ++ List.replicate 7 (.advance (some ()))

def sampleSuccessReport : GatewayReport GatewayWebhookEvent :=
  .webhook (sampleGateway "pi" .processing 1000) (sampleEvent "pi" .paymentSucceeded 2000) [] none

theorem attempt_recorded_iff_sample :
    ∃ final, (samplePulledAttempt "partially_paid").run? sampleAttemptThenPull = some final ∧
      final.sessions none = .returned (.ok ()) ∧ final.sessions (some ()) = .returned (.ok ()) ∧
      RecordedInFull sampleOpenPayment (sampleSuccessReport.perform sampleEnv final.committed) := by
  have runs : ∃ final, (samplePulledAttempt "partially_paid").run? sampleAttemptThenPull =
        some final ∧ final.sessions none = .returned (.ok ()) ∧
      final.sessions (some ()) = .returned (.ok ()) ∧
      sampleOpenPayment ∈ final.committed.payments.rows := ⟨_, rfl, rfl, rfl, by decide⟩
  obtain ⟨final, run, attempted, pulled, member⟩ := runs
  refine ⟨final, run, attempted, pulled, ?_⟩
  have delivers : sampleSuccessReport.Succeeds final.committed sampleOpenPayment :=
    ⟨_, ⟨none, rfl, rfl, rfl⟩, rfl⟩
  obtain ⟨exactly, open_⟩ := attempt_recorded_iff sampleEnv sampleDecimals
    (by decide) (fun _ => by decide) run member rfl (.inr rfl) delivers
  refine exactly.mpr ⟨?_, open_ fun _ => by decide⟩
  rintro event ⟨_, authentic, _⟩
  cases authentic
  rfl

/-- A pull that reports the invoice as sent makes the captured payment settled on an invoice
that still asks for all of it. -/
theorem sent_pull_loses_success :
    ∃ final, (samplePulledAttempt "sent").run? sampleAttemptThenPull = some final ∧
      sampleOpenPayment ∈ final.committed.payments.rows ∧
      (∃ row ∈ (sampleSuccessReport.perform sampleEnv final.committed).payments.rows,
        row.id = "pi" ∧ row.status = .settled) ∧
      (sampleSuccessReport.perform sampleEnv final.committed).invoice.status = .sent ∧
      (sampleSuccessReport.perform sampleEnv final.committed).invoice.balanceMinor = 10000 ∧
      ¬RecordedInFull sampleOpenPayment (sampleSuccessReport.perform sampleEnv final.committed) := by
  have runs : ∃ final, (samplePulledAttempt "sent").run? sampleAttemptThenPull = some final ∧
      sampleOpenPayment ∈ final.committed.payments.rows ∧
      (∃ row ∈ (sampleSuccessReport.perform sampleEnv final.committed).payments.rows,
        row.id = "pi" ∧ row.status = .settled) ∧
      (sampleSuccessReport.perform sampleEnv final.committed).invoice.status = .sent ∧
      (sampleSuccessReport.perform sampleEnv final.committed).invoice.balanceMinor = 10000 :=
    ⟨_, rfl, by decide, by decide, rfl, rfl⟩
  obtain ⟨final, run, member, settled, sent, owing⟩ := runs
  refine ⟨final, run, member, settled, sent, owing, ?_⟩
  rintro ⟨_, paid, _⟩
  rw [sent] at paid
  cases paid

end MultiBrandInvoicing
