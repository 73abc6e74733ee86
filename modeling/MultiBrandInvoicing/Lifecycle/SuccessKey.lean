import MultiBrandInvoicing.Lifecycle.Ordering
import MultiBrandInvoicing.Lifecycle.StatusWrites
import MultiBrandInvoicing.ReadCommitted.Interference

/-!
# Successes and the ordering key

The key of a payment is written by three clocks: the gateway's, in whole seconds, at the
creation of the attempt and by its events, and the server's by a confirmation.  A success
that finds the key at its own time or later is dropped, whoever wrote it.
-/

set_option autoImplicit false

namespace MultiBrandInvoicing

open ReadCommitted Program PaymentsService

def Stands (invoiceId paymentId : String) (store : Store) : Prop :=
  store.invoice.id = invoiceId ∧ ∃ row ∈ store.payments.rows, row.id = paymentId

def Settles (paymentId : String) (_before after : Store) : Prop :=
  ∃ row ∈ after.payments.rows, row.id = paymentId ∧ row.status = .settled

section Settling

variable {invoiceId paymentId : String}

theorem updatePayment_achieves {data : PaymentUpdate} (settled : data.status = .settled) :
    (updatePayment paymentId data).Achieves (Stands invoiceId paymentId) (Settles paymentId)
      False := by
  intro view stands
  refine ⟨fun _ => .inr ?_, fun absent => ?_⟩
  · obtain ⟨row, member, same⟩ := stands.2
    refine ⟨row.apply data, ?_, same, settled⟩
    simp only [PaymentTable.applyUpdate, UniqueTable.modify_rows, List.mem_map]
    exact ⟨row, member, by simp [same]⟩
  · obtain ⟨row, member, same⟩ := stands.2
    exact absurd same (by simpa using List.any_eq_false.mp absent row member)

theorem updateInvoice_achieves {label : Effect} {change : Invoice → Invoice} {made : Prop}
    (already : made) :
    (updateInvoice label invoiceId change).Achieves (Stands invoiceId paymentId)
      (Settles paymentId) made := by
  intro view stands
  refine ⟨fun _ => .inl already, fun absent => ?_⟩
  exact absurd stands.1 (by simpa using absent)

theorem createInvoiceEvent_achieves {event : InvoiceEvent} {made : Prop} (already : made) :
    (createInvoiceEvent event).Achieves (Stands invoiceId paymentId) (Settles paymentId)
      made :=
  fun _ _ => ⟨fun _ => .inl already, fun _ => already⟩

/-- Settling a payment whose rows stand marks it settled and returns, whether or not the
invoice can be settled too. -/
theorem applySettlement_achieves {input : SettlementInput}
    (invoice : input.invoiceId = invoiceId) (payment : input.paymentId = paymentId)
    (succeeded : input.gatewayStatus = .succeeded) :
    (applySettlement input).Achieves (Stands invoiceId paymentId) (Settles paymentId) False := by
  subst invoice payment
  unfold applySettlement
  simp only [succeeded]
  refine (updatePayment_achieves rfl).bind fun _ made already => ?_
  split
  · exact already
  · refine (updateInvoice_achieves already).bind fun _ made already => ?_
    exact createInvoiceEvent_achieves already

end Settling

/-! ## A delivery, once it has read the rows -/

section Deliveries

variable {π : Type} {gateway : PaymentGatewayPort π} {rawBody : π}
  {headers : List (String × String)} {brandId : Option String} {payment : Payment}
  {event : GatewayWebhookEvent}

/-- A delivery reads the rows; a stale one is then done, and a fresh success goes on to
settle. -/
theorem handleWebhook_select
    (delivers : (GatewayReport.webhook gateway rawBody headers brandId).Delivers payment event)
    (succeeded : event.type = .paymentSucceeded) :
    ∃ next, handleWebhook gateway rawBody headers brandId = .select next ∧
      ∀ view, payment ∈ view.payments.rows →
        (isStale payment event = true → next view = .done ()) ∧
          (isStale payment event = false →
            (next view).Achieves (Stands view.invoice.id payment.id) (Settles payment.id)
              False) := by
  obtain ⟨attributed, authentic, named, owned⟩ := delivers
  simp only [authenticEvent?, Option.bind_eq_bind, Option.bind_eq_some_iff,
    Option.guard_eq_some', Option.pure_def, Option.some.injEq, Prod.mk.injEq] at authentic
  obtain ⟨_, verified, read_, parsed, brand, attribution, rfl, rfl⟩ := authentic
  have parsed : gateway.parseWebhook rawBody brandId = .ok read_ := by
    cases outcome : gateway.parseWebhook rawBody brandId with
    | error failure => simp [outcome, Except.toOption] at parsed
    | ok event => simpa [outcome, Except.toOption] using parsed
  unfold handleWebhook
  simp only [verified, parsed, attribution, require, if_true, pure_eq_done, done_bind, ofExcept_ok,
    read_bind]
  refine ⟨_, rfl, ?_⟩
  intro view member
  have found := find?_reference member named
  have modelled : read_.type ≠ .unknown := by simp [succeeded]
  constructor
  · intro stale
    simp [found, owned, modelled, stale]
  · intro fresh
    simp only [found, owned, modelled, fresh, Bool.not_true, if_false, Bool.false_eq_true]
    refine Achieves.bind (applySettlement_achieves rfl rfl ?_) fun _ made already => ?_
    · simp [webhookStatus, succeeded]
    · simp only [webhookStatus, succeeded, commitNow_bind, if_true]
      exact already

end Deliveries

/-! ## When a success is dropped -/

/-- An event the gateway created later than `time` has been applied to the payment: its
delivery has stamped the row with the time of the event and committed. -/
def LaterApplied {ι π ν : Type} (operations : ι → StatusOperation π ν)
    (history : List (Event ι Store Effect ServiceError Unit)) (payment : Payment) (time : Time) :
    Prop :=
  ∃ session gateway rawBody headers brandId event attributed label before after row,
    operations session = .handleWebhook gateway rawBody headers brandId ∧
      authenticEvent? gateway rawBody headers brandId = some (event, attributed) ∧
      time < event.occurredAt ∧
      Event.wrote session label before after ∈ history ∧
      Event.committed session ∈ history ∧
      row ∈ after.payments.rows ∧ row.id = payment.id ∧
      row.gatewayReference = some event.gatewayReference ∧
      row.lastEventAt = some event.occurredAt

theorem program_tame {ι π ν : Type} [DecidableEq ι] (env : Env)
    (operations : ι → StatusOperation π ν) {store : Store} {schedule : List (Action ι)}
    {final : Config ι Store RowKey Effect ServiceError Unit}
    (run : (Config.start store fun session => (operations session).program env).run? schedule =
      some final) : Config.Tame KeepsRows final := by
  refine Config.Tame.run ?_ ?_ ?_ run
  · exact fun store => ⟨rfl, fun _ here => here⟩
  · intro first second keepsFirst keepsSecond store
    refine ⟨(keepsSecond _).1.trans (keepsFirst store).1, ?_⟩
    exact fun id here => (keepsSecond _).2 id ((keepsFirst store).2 id here)
  · intro session program pending running
    cases running
    exact ⟨fun store => ⟨rfl, fun _ here => here⟩,
      (program_writes env (operations session)).mono fun _ _ _ modest => modest.2⟩

/-- In every interleaving a delivered success settles its payment, or a later event of the
gateway has been applied before, exactly when the key it finds is older than its event, or
a later event of the gateway has been applied before. -/
theorem success_settles_iff {ι π ν : Type} [DecidableEq ι] (env : Env)
    (operations : ι → StatusOperation π ν) {store : Store} {earlier later : List (Action ι)}
    {before final : Config ι Store RowKey Effect ServiceError Unit} {session : ι}
    (reached : (Config.start store fun session => (operations session).program env).run?
      earlier = some before)
    (waiting : ∀ action ∈ earlier, action.session ≠ session)
    (delivered : before.run? (.advance session :: later) = some final)
    {outcome : Except ServiceError Unit}
    (ended : final.sessions session = .returned outcome)
    {gateway : PaymentGatewayPort π} {rawBody : π} {headers : List (String × String)}
    {brandId : Option String}
    (delivery : operations session = .handleWebhook gateway rawBody headers brandId)
    {payment : Payment} (member : payment ∈ before.committed.payments.rows)
    {event : GatewayWebhookEvent}
    (delivers : (GatewayReport.webhook gateway rawBody headers brandId).Delivers payment event)
    (succeeded : event.type = .paymentSucceeded) :
    (((∃ value, outcome = .ok value) ∧ Config.Made (Settles payment.id) session final) ∨
        LaterApplied operations before.history payment event.occurredAt) ↔
      isStale payment event = false ∨
        LaterApplied operations before.history payment event.occurredAt := by
  obtain ⟨next, text, reads⟩ := handleWebhook_select delivers succeeded
  obtain ⟨stale, fresh⟩ := reads before.committed member
  have begins : (operations session).program env = .select next := by
    rw [delivery]
    exact text
  by_cases late : isStale payment event = true
  · have silent : Config.Writeless session final :=
      Config.writeless_of_read reached waiting begins delivered (by rw [stale late]; trivial)
    have unsettled : ¬Config.Made (Settles payment.id) session final := by
      rintro ⟨label, found, left, wrote, _⟩
      exact silent.behind label found left wrote
    simp [late, unsettled]
  · have early : isStale payment event = false := by simpa using late
    obtain ⟨step, rest⟩ := Config.first_read reached waiting begins delivered
    have stands : Stands before.committed.invoice.id payment.id before.committed :=
      ⟨rfl, payment, member, rfl⟩
    have run : (Config.start store fun session => (operations session).program env).run?
        (earlier ++ [.advance session]) = some (before.proceed session
          (.running (next before.committed) id) (.read session)) := by
      rw [Config.run?_append, reached]
      simp [Config.run?, step]
    have tame : Config.Tame (Config.Keeps (Stands before.committed.invoice.id payment.id))
        (before.proceed session (.running (next before.committed) id) (.read session)) := by
      refine (program_tame env operations run).mono ?_
      intro change keeps store stands
      exact ⟨(keeps store).1.trans stands.1, (keeps store).2 payment.id stands.2⟩
    have achieving : Config.Achieving (Stands before.committed.invoice.id payment.id)
        (Settles payment.id) session
        (before.proceed session (.running (next before.committed) id) (.read session)) :=
      .running _ id False (Config.proceed_self ..) (fresh early) False.elim
    have settled := Config.achieved achieving ⟨stands, tame⟩ rest ended
    simp [early, settled]

/-! ## A success in the second the attempt was created in -/

def sampleSuccess (occurredAt : Time) : Bool → StatusOperation GatewayWebhookEvent Unit
  | true =>
      .createIntent (sampleGateway "pi" .processing 1000) "pi" samplePayer .ach "pi"
  | false =>
      .handleWebhook (sampleGateway "pi" .processing 1000)
        (sampleEvent "pi" .paymentSucceeded occurredAt) [] none

def sampleOpenPayment : Payment where
  id := "pi"
  brandId := "brand"
  method := .ach
  amountMinor := 10000
  currency := "USD"
  status := .processing
  gatewayReference := some "pi"
  idempotencyKey := "invoice:10000:pi"
  lastEventAt := some 1000

def sampleSuccessStart (occurredAt : Time) : Config Bool Store RowKey Effect ServiceError Unit :=
  Config.start ((sampleIssue GatewayWebhookEvent).perform sampleEnv sampleInvoice)
    fun session => (sampleSuccess occurredAt session).program sampleEnv

theorem success_settles_iff_sample :
    ∃ before final,
      (sampleSuccessStart 2000).run? (List.replicate 11 (.advance true)) = some before ∧
      before.run? (List.replicate 7 (.advance false)) = some final ∧
      ((((∃ value, (Except.ok () : Except ServiceError Unit) = .ok value) ∧
            Config.Made (Settles sampleOpenPayment.id) false final) ∨
          LaterApplied (sampleSuccess 2000) before.history sampleOpenPayment 2000) ↔
        isStale sampleOpenPayment (sampleEvent "pi" .paymentSucceeded 2000) = false ∨
          LaterApplied (sampleSuccess 2000) before.history sampleOpenPayment 2000) := by
  refine ⟨_, _, rfl, rfl, ?_⟩
  have waiting : ∀ action ∈ List.replicate 11 (Action.advance true), action.session ≠ false := by
    decide
  exact success_settles_iff sampleEnv (sampleSuccess 2000)
    (show (sampleSuccessStart 2000).run? (List.replicate 11 (.advance true)) = some _ from rfl)
    waiting
    (show Config.run? _ (.advance false :: List.replicate 6 (.advance false)) = some _ from rfl)
    rfl rfl (by decide) ⟨none, rfl, rfl, rfl⟩ rfl

def deliveryLabel? : Event Bool Store Effect ServiceError Unit → Option Effect
  | .wrote false label _ _ => some label
  | _ => none

/-- A success of the same second is dropped for good: its delivery returns, the payment is
still processing, and nothing later has happened. -/
theorem same_second_success_dropped :
    ∃ before final,
      (sampleSuccessStart 1000).run? (List.replicate 11 (.advance true)) = some before ∧
      before.run? (List.replicate 2 (.advance false)) = some final ∧
      sampleOpenPayment ∈ before.committed.payments.rows ∧
      final.committed.payments.rows = [sampleOpenPayment] ∧
      ¬Config.Made (Settles "pi") false final ∧
      ¬LaterApplied (sampleSuccess 1000) before.history sampleOpenPayment 1000 := by
  refine ⟨_, _, rfl, rfl, by decide, by decide, ?_, ?_⟩
  · rintro ⟨label, before, after, wrote, _⟩
    have listed : label ∈ List.filterMap deliveryLabel? _ :=
      List.mem_filterMap.mpr ⟨_, wrote, rfl⟩
    exact List.not_mem_nil (show label ∈ [] from listed)
  · rintro ⟨session, gateway, rawBody, headers, brandId, event, attributed, label, before, after,
      row, delivery, authentic, later, _⟩
    cases session with
    | true => cases delivery
    | false =>
        cases delivery
        cases authentic
        exact absurd later (by decide)

end MultiBrandInvoicing
