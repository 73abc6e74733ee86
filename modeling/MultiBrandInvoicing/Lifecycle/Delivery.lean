import MultiBrandInvoicing.Lifecycle.DoublePayment
import MultiBrandInvoicing.Ordering.NewestWins

/-!
# Webhook deliveries about one attempt

The payment keeps the newest event; the invoice takes each applied event through its
state machine.  What the invoice ends as therefore depends on the order in which the
events arrive, except where the conditions of `SafeAfter` hold.
-/

set_option autoImplicit false

namespace MultiBrandInvoicing

open ReadCommitted PaymentsService NewestWins

/-! ## What deliveries do to an attempt and its invoice -/

/-- What a delivery can change, apart from the time of the last event. -/
structure Seen where
  status : PaymentStatus
  invoice : Invoice

def Seen.applyEvent (seen : Seen) (event : GatewayWebhookEvent) : Seen where
  status := (resultUpdate (webhookStatus event.type) event.occurredAt event.declineReason).status
  invoice := seen.invoice.afterResult (webhookStatus event.type) event.occurredAt

/-- Events delivered in this order, each applied if it is newer than the last one applied. -/
abbrev deliverEvents (events : List GatewayWebhookEvent) (register : Register Seen Time) :
    Register Seen Time :=
  deliverAll GatewayWebhookEvent.occurredAt Seen.applyEvent events register

def Seen.settlement (seen : Seen) : PaymentStatus × InvoiceStatus × Int :=
  (seen.status, seen.invoice.status, seen.invoice.balanceMinor)

structure Opened (seen : Seen) : Prop where
  settled : seen.status = .settled → seen.invoice.status = .paid
  paid : seen.invoice.status = .paid → seen.invoice.balanceMinor = 0
  pending : seen.invoice.status = .pendingPayment → ∃ before,
    before ∈ [InvoiceStatus.sent, .viewed, .partiallyPaid] ∧
      seen.invoice.previousStatus = some before

theorem Opened.declined {seen : Seen} (opened : Opened seen)
    (pending : seen.invoice.status = .pendingPayment) :
    ∃ before, before ∈ [InvoiceStatus.sent, .viewed, .partiallyPaid] ∧
      seen.invoice.previousStatus = some before ∧ seen.invoice.afterDecline.status = before := by
  obtain ⟨before, listed, previous⟩ := opened.pending pending
  have different : before ≠ .pendingPayment := by
    rintro rfl
    simp at listed
  refine ⟨before, listed, previous, ?_⟩
  rw [afterDecline_of_pending pending previous different]

/-- When the events, of which `newest` is the newest, come to the same whatever their
order.  A success that is the newest must find the invoice open to SETTLE_FULL even
after any decline; anything else must not be preceded by what it cannot undo. -/
def SafeAfter (invoice : Invoice) (newest : GatewayWebhookEvent)
    (events : List GatewayWebhookEvent) : Prop :=
  match webhookStatus newest.type with
  | .succeeded =>
      invoice.status = .paid ∨ invoice.status = .partiallyPaid ∨
        invoice.status = .pendingPayment ∧ (invoice.previousStatus = some .partiallyPaid ∨
          ∀ event ∈ events, webhookStatus event.type ≠ .failed)
  | .failed =>
      invoice.status ∈ allowed .settleFull →
        ∀ event ∈ events, webhookStatus event.type ≠ .succeeded
  | _ =>
      (invoice.status ∈ allowed .settleFull →
        ∀ event ∈ events, webhookStatus event.type ≠ .succeeded) ∧
      (invoice.status = .pendingPayment →
        ∀ event ∈ events, webhookStatus event.type ≠ .failed)

/-! ## Under the condition the order does not matter -/

def StaysOpen (first invoice : Invoice) : Prop :=
  invoice = first ∨ invoice.status = .partiallyPaid ∨
    invoice.status = .paid ∧ invoice.balanceMinor = 0

theorem StaysOpen.afterSuccess {first invoice : Invoice}
    (listed : first.status ∈ allowed .settleFull) (open_ : StaysOpen first invoice)
    (occurredAt : Time) :
    (invoice.afterSuccess occurredAt).status = .paid ∧
      (invoice.afterSuccess occurredAt).balanceMinor = 0 := by
  rcases open_ with rfl | partly | ⟨paid, cleared⟩
  · exact afterSuccess_of_open listed occurredAt
  · exact afterSuccess_of_open (by simp [partly, allowed]) occurredAt
  · have kept : invoice.afterSuccess occurredAt = invoice :=
      afterResult_of_paid paid .succeeded occurredAt
    rw [kept]
    exact ⟨paid, cleared⟩

theorem StaysOpen.afterDecline {first invoice : Invoice}
    (returns : first.status = .partiallyPaid ∨
      first.status = .pendingPayment ∧ first.previousStatus = some .partiallyPaid)
    (open_ : StaysOpen first invoice) : StaysOpen first invoice.afterDecline := by
  rcases open_ with rfl | partly | ⟨paid, cleared⟩
  · rcases returns with partly | ⟨pending, previous⟩
    · exact .inl (afterDecline_of_not_pending (by simp [partly]))
    · right
      left
      rw [afterDecline_of_pending pending previous (by simp)]
  · rw [afterDecline_of_not_pending (by simp [partly])]
    exact .inr (.inl partly)
  · rw [afterDecline_of_not_pending (by simp [paid])]
    exact .inr (.inr ⟨paid, cleared⟩)

theorem webhookStatus_cases (type : GatewayEventType) :
    webhookStatus type = .succeeded ∨ webhookStatus type = .failed ∨
      webhookStatus type = .processing := by
  cases type <;> simp [webhookStatus]

section Orders

variable {register : Register Seen Time} {events : List GatewayWebhookEvent}
  {newest : GatewayWebhookEvent}

theorem invoice_kept
    (kept : ∀ event ∈ events, register.state.invoice.afterResult (webhookStatus event.type)
      event.occurredAt = register.state.invoice) :
    (deliverEvents events register).state.invoice =
      register.state.invoice := by
  apply deliverAll_keeps (fun seen : Seen => seen.invoice = register.state.invoice)
  · intro event member seen same
    simp only [Seen.applyEvent, same]
    exact kept event member
  · rfl

theorem staysOpen_deliverAll (listed : register.state.invoice.status ∈ allowed .settleFull)
    (returns : register.state.invoice.status = .partiallyPaid ∨
      register.state.invoice.status = .pendingPayment ∧
          register.state.invoice.previousStatus = some .partiallyPaid ∨
      ∀ event ∈ events, webhookStatus event.type ≠ .failed) :
    StaysOpen register.state.invoice
      (deliverEvents events register).state.invoice := by
  apply deliverAll_keeps (fun seen : Seen => StaysOpen register.state.invoice seen.invoice)
  · intro event member seen open_
    simp only [Seen.applyEvent]
    rcases webhookStatus_cases event.type with succeeded | failed | waiting
    · rw [succeeded]
      exact .inr (.inr (open_.afterSuccess listed event.occurredAt))
    · rw [failed]
      apply open_.afterDecline
      rcases returns with partly | back | none_
      · exact .inl partly
      · exact .inr back
      · exact absurd failed (none_ event member)
    · rw [waiting]
      exact open_
  · exact .inl rfl

theorem declined_deliverAll
    (unpaid : ∀ event ∈ events, webhookStatus event.type ≠ .succeeded) :
    (deliverEvents events register).state.invoice.afterDecline =
      register.state.invoice.afterDecline := by
  apply deliverAll_keeps
    (fun seen : Seen => seen.invoice.afterDecline = register.state.invoice.afterDecline)
  · intro event member seen same
    simp only [Seen.applyEvent]
    rcases webhookStatus_cases event.type with succeeded | failed | waiting
    · exact absurd succeeded (unpaid event member)
    · rw [failed]
      exact (afterDecline_afterDecline _).trans same
    · rw [waiting]
      exact same
  · rfl

/-- Under the condition the newest event finds an invoice it settles just as it would
have settled the first one. -/
theorem settlement_of_safe (safe : SafeAfter register.state.invoice newest events)
    {earlier : List GatewayWebhookEvent} (among : ∀ event ∈ earlier, event ∈ events) :
    ((deliverEvents earlier register).state.applyEvent newest).settlement =
      (register.state.applyEvent newest).settlement := by
  by_cases listed : register.state.invoice.status ∈ allowed .settleFull
  · unfold SafeAfter at safe
    rcases webhookStatus_cases newest.type with succeeded | failed | waiting
    · simp only [succeeded] at safe
      have open_ : StaysOpen register.state.invoice
          (deliverEvents earlier register).state.invoice := by
        apply staysOpen_deliverAll listed
        rcases safe with paid | partly | ⟨pending, back | none_⟩
        · rw [paid] at listed
          simp [allowed] at listed
        · exact .inl partly
        · exact .inr (.inl ⟨pending, back⟩)
        · exact .inr (.inr fun event member => none_ event (among event member))
      have first := afterSuccess_of_open listed newest.occurredAt
      have last := open_.afterSuccess listed newest.occurredAt
      simp [Seen.settlement, Seen.applyEvent, succeeded, Invoice.afterResult, first, last]
    · simp only [failed] at safe
      have back : (deliverEvents earlier
          register).state.invoice.afterDecline = register.state.invoice.afterDecline :=
        declined_deliverAll fun event member => safe listed event (among event member)
      simp [Seen.settlement, Seen.applyEvent, failed, Invoice.afterResult, back]
    · simp only [waiting] at safe
      have kept : (deliverEvents earlier register).state.invoice =
          register.state.invoice := by
        apply invoice_kept
        intro event member
        rcases webhookStatus_cases event.type with paid | declined | open_
        · exact absurd paid (safe.1 listed event (among event member))
        · rw [declined]
          apply afterDecline_of_not_pending
          intro pending
          exact safe.2 pending event (among event member) declined
        · rw [open_]
          rfl
      simp [Seen.settlement, Seen.applyEvent, kept]
  · have kept : (deliverEvents earlier register).state.invoice =
        register.state.invoice :=
      invoice_kept fun event _ => afterResult_of_closed listed _ _
    simp [Seen.settlement, Seen.applyEvent, kept]

/-- `newest` is one of the events and every other one is older. -/
structure Newest (newest : GatewayWebhookEvent) (events : List GatewayWebhookEvent) : Prop where
  member : newest ∈ events
  others : ∀ event ∈ events, event = newest ∨ event.occurredAt < newest.occurredAt

/-- The deliveries are of exactly these events, in any order and any number. -/
def SameEvents (deliveries events : List GatewayWebhookEvent) : Prop :=
  ∀ event, event ∈ deliveries ↔ event ∈ events

theorem settlement_deliverAll (last : Newest newest events)
    (fresh : register.last < newest.occurredAt)
    (safe : SafeAfter register.state.invoice newest events)
    {deliveries : List GatewayWebhookEvent} (same : SameEvents deliveries events) :
    (deliverEvents deliveries register).state.settlement =
      (register.state.applyEvent newest).settlement := by
  have met : ∃ earlier, (∀ event ∈ earlier, event ∈ deliveries) ∧
      deliverEvents deliveries register =
        ⟨newest.occurredAt, (deliverEvents earlier register).state.applyEvent newest⟩ :=
    deliverAll_newest ((same newest).mpr last.member)
      (fun event member => last.others event ((same event).mp member)) fresh
  obtain ⟨earlier, among, done⟩ := met
  rw [done]
  exact settlement_of_safe safe fun event member => (same event).mp (among event member)

/-- Under the condition a success that is the newest has paid the invoice. -/
theorem paid_of_safe (opened : Opened register.state)
    (safe : SafeAfter register.state.invoice newest events)
    (settled : (register.state.applyEvent newest).status = .settled) :
    (register.state.applyEvent newest).invoice.status = .paid ∧
      (register.state.applyEvent newest).invoice.balanceMinor = 0 := by
  have succeeded : webhookStatus newest.type = .succeeded := resultUpdate_settled.mp settled
  simp only [SafeAfter, succeeded] at safe
  simp only [Seen.applyEvent, succeeded]
  rcases safe with paid | partly | ⟨pending, _⟩
  · rw [afterResult_of_paid paid]
    exact ⟨paid, opened.paid paid⟩
  · exact afterSuccess_of_open (by simp [partly, allowed]) newest.occurredAt
  · exact afterSuccess_of_open (by simp [pending, allowed]) newest.occurredAt

/-! ## Without it two orders differ, or a settled payment has not paid -/

theorem deliverAll_newest_first (last : Newest newest events)
    (fresh : register.last < newest.occurredAt) :
    (deliverEvents (newest :: events) register).state =
      register.state.applyEvent newest := by
  have applied : deliver GatewayWebhookEvent.occurredAt Seen.applyEvent register newest =
      ⟨newest.occurredAt, register.state.applyEvent newest⟩ := deliver_newer fresh
  have rest : deliverEvents events
      ⟨newest.occurredAt, register.state.applyEvent newest⟩ =
        ⟨newest.occurredAt, register.state.applyEvent newest⟩ := by
    apply deliverAll_stale
    intro event member
    rcases last.others event member with same | older
    · exact le_of_eq (congrArg GatewayWebhookEvent.occurredAt same)
    · exact le_of_lt older
  change (deliverEvents events
    (deliver GatewayWebhookEvent.occurredAt Seen.applyEvent register newest)).state = _
  rw [applied, rest]

theorem deliverAll_older_first {older : GatewayWebhookEvent} (last : Newest newest events)
    (fresh : register.last < older.occurredAt)
    (before : older.occurredAt < newest.occurredAt) :
    ∃ earlier, (deliverEvents (older :: events) register).state =
      (deliverEvents earlier
        ⟨older.occurredAt, register.state.applyEvent older⟩).state.applyEvent newest := by
  have applied : deliver GatewayWebhookEvent.occurredAt Seen.applyEvent register older =
      ⟨older.occurredAt, register.state.applyEvent older⟩ := deliver_newer fresh
  have met : ∃ earlier, (∀ event ∈ earlier, event ∈ events) ∧
      deliverEvents events ⟨older.occurredAt, register.state.applyEvent older⟩ =
        ⟨newest.occurredAt, (deliverEvents earlier
          ⟨older.occurredAt, register.state.applyEvent older⟩).state.applyEvent newest⟩ :=
    deliverAll_newest last.member last.others before
  obtain ⟨earlier, _, done⟩ := met
  refine ⟨earlier, ?_⟩
  change (deliverEvents events
    (deliver GatewayWebhookEvent.occurredAt Seen.applyEvent register older)).state = _
  rw [applied, done]

theorem sameEvents_cons {first : GatewayWebhookEvent} (member : first ∈ events) :
    SameEvents (first :: events) events := by
  intro event
  simp only [List.mem_cons, or_iff_right_iff_imp]
  rintro rfl
  exact member

/-- An older success delivered first pays the invoice for good. -/
theorem paid_of_success_first {older : GatewayWebhookEvent} (last : Newest newest events)
    (fresh : register.last < older.occurredAt) (before : older.occurredAt < newest.occurredAt)
    (listed : register.state.invoice.status ∈ allowed .settleFull)
    (succeeded : webhookStatus older.type = .succeeded) :
    (deliverEvents (older :: events) register).state.invoice.status = .paid := by
  obtain ⟨earlier, done⟩ := deliverAll_older_first last fresh before
  have first : (register.state.applyEvent older).invoice.status = .paid := by
    simp only [Seen.applyEvent, succeeded]
    exact (afterSuccess_of_open listed older.occurredAt).1
  have kept : (deliverEvents earlier
      ⟨older.occurredAt, register.state.applyEvent older⟩).state.invoice =
        (register.state.applyEvent older).invoice :=
    invoice_kept fun event _ => afterResult_of_paid first _ _
  rw [done, Seen.applyEvent, kept, afterResult_of_paid first]
  exact first

/-- The condition on a newest success is needed: a decline delivered first closes the
invoice to it, and the payment ends settled all the same. -/
theorem safe_of_success (opened : Opened register.state) (last : Newest newest events)
    (newer : ∀ event ∈ events, register.last < event.occurredAt)
    (succeeded : webhookStatus newest.type = .succeeded)
    (pays : ∀ deliveries, SameEvents deliveries events →
      (deliverEvents deliveries register).state.status = .settled →
        (deliverEvents deliveries register).state.invoice.status = .paid) :
    SafeAfter register.state.invoice newest events := by
  have fresh := newer newest last.member
  have settles : ∀ seen : Seen, (seen.applyEvent newest).status = .settled :=
    fun _ => resultUpdate_settled.mpr succeeded
  have direct := deliverAll_newest_first last fresh
  have paid := pays (newest :: events) (sameEvents_cons last.member) (by
    rw [direct]
    exact settles _)
  rw [direct] at paid
  simp only [Seen.applyEvent, succeeded] at paid
  simp only [SafeAfter, succeeded]
  by_cases listed : register.state.invoice.status ∈ allowed .settleFull
  · have open_ : register.state.invoice.status = .pendingPayment ∨
        register.state.invoice.status = .partiallyPaid := by simpa [allowed] using listed
    rcases open_ with pending | partly
    · obtain ⟨before, listedBefore, previous, returned⟩ := opened.declined pending
      refine .inr (.inr ⟨pending, ?_⟩)
      by_cases back : before = .partiallyPaid
      · exact .inl (back ▸ previous)
      · right
        intro event member failed
        have different : event ≠ newest := by
          rintro rfl
          rw [succeeded] at failed
          cases failed
        have older := (last.others event member).resolve_left different
        obtain ⟨earlier, done⟩ := deliverAll_older_first last (newer event member) older
        have returned : (register.state.applyEvent event).invoice.status = before := by
          simp only [Seen.applyEvent, failed, Invoice.afterResult]
          exact returned
        have closed : (register.state.applyEvent event).invoice.status ∉ allowed .settleFull := by
          rw [returned]
          rintro open_
          cases before <;> simp [allowed] at listedBefore open_ back
        have kept : (deliverEvents earlier
            ⟨event.occurredAt, register.state.applyEvent event⟩).state.invoice =
              (register.state.applyEvent event).invoice :=
          invoice_kept fun _ _ => afterResult_of_closed closed _ _
        have late := pays (event :: events) (sameEvents_cons member) (by
          rw [done]
          exact settles _)
        rw [done, Seen.applyEvent, kept, afterResult_of_closed closed, returned] at late
        rw [late] at listedBefore
        simp at listedBefore
    · exact .inr (.inl partly)
  · left
    have kept := afterResult_of_closed listed .succeeded newest.occurredAt
    rwa [kept] at paid

/-- So are the conditions on what comes before any other newest event. -/
theorem safe_of_alike (opened : Opened register.state) (last : Newest newest events)
    (newer : ∀ event ∈ events, register.last < event.occurredAt)
    (unsuccessful : webhookStatus newest.type ≠ .succeeded)
    (alike : ∀ deliveries, SameEvents deliveries events →
      (deliverEvents deliveries register).state.settlement =
        (deliverEvents (newest :: events) register).state.settlement) :
    SafeAfter register.state.invoice newest events := by
  have fresh := newer newest last.member
  have direct := deliverAll_newest_first last fresh
  have older : ∀ event ∈ events, webhookStatus event.type ≠ webhookStatus newest.type →
      event.occurredAt < newest.occurredAt := by
    intro event member different
    apply (last.others event member).resolve_left
    rintro rfl
    exact different rfl
  have statusAlike : ∀ event ∈ events,
      (deliverEvents (event :: events) register).state.invoice.status =
        (register.state.applyEvent newest).invoice.status := by
    intro event member
    have same := alike (event :: events) (sameEvents_cons member)
    rw [direct] at same
    exact congrArg (fun settlement => settlement.2.1) same
  have unpaid : register.state.invoice.status ∈ allowed .settleFull →
      (register.state.applyEvent newest).invoice.status ≠ .paid →
        ∀ event ∈ events, webhookStatus event.type ≠ .succeeded := by
    intro listed notPaid event member succeeded
    have before := older event member (by
      rw [succeeded]
      exact fun same => unsuccessful same.symm)
    have paid := paid_of_success_first last (newer event member) before listed succeeded
    rw [statusAlike event member] at paid
    exact notPaid paid
  rcases webhookStatus_cases newest.type with succeeded | failed | waiting
  · exact absurd succeeded unsuccessful
  · simp only [SafeAfter, failed]
    intro listed
    apply unpaid listed
    simp only [Seen.applyEvent, failed, Invoice.afterResult]
    have open_ : register.state.invoice.status = .pendingPayment ∨
        register.state.invoice.status = .partiallyPaid := by simpa [allowed] using listed
    rcases open_ with pending | partly
    · obtain ⟨before, listedBefore, _, returned⟩ := opened.declined pending
      rw [returned]
      rintro rfl
      simp at listedBefore
    · rw [afterDecline_of_not_pending (by simp [partly]), partly]
      simp
  · have kept : (register.state.applyEvent newest).invoice = register.state.invoice := by
      simp only [Seen.applyEvent, waiting, Invoice.afterResult]
    simp only [SafeAfter, waiting]
    refine ⟨fun listed => unpaid listed ?_, ?_⟩
    · rw [kept]
      intro paid
      rw [paid] at listed
      simp [allowed] at listed
    · intro pending event member failed
      obtain ⟨before, listedBefore, _, returned⟩ := opened.declined pending
      have returned : (register.state.applyEvent event).invoice.status ≠ .pendingPayment := by
        simp only [Seen.applyEvent, failed, Invoice.afterResult]
        rw [returned]
        rintro rfl
        simp at listedBefore
      obtain ⟨earlier, done⟩ := deliverAll_older_first last (newer event member)
        (older event member (by simp [failed, waiting]))
      have stays : (deliverEvents earlier ⟨event.occurredAt,
          register.state.applyEvent event⟩).state.invoice.status ≠ .pendingPayment := by
        apply deliverAll_keeps (fun seen : Seen => seen.invoice.status ≠ .pendingPayment)
        · intro other _ seen settled
          exact afterResult_not_pending settled _ _
        · exact returned
      have same := statusAlike event member
      rw [done, kept, pending] at same
      exact afterResult_not_pending stays _ _ same

end Orders

end MultiBrandInvoicing
