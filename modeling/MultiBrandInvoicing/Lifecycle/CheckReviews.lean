import MultiBrandInvoicing.Lifecycle.AcceptedChecks

/-!
# One check, one payment

A submission is over the balance its customer saw, and the calls that run beside its reviews
never take the balance above a safe amount it is not above.  So a payment over the amount of the
submission takes the whole balance, and what stands in for a lock is that nothing can be recorded
after it.  Its closing is a transaction of
its own, and may be lost.
-/

set_option autoImplicit false

namespace MultiBrandInvoicing

open ReadCommitted Program

inductive CheckCall where
  | submitCheck (scope : PublicScope) (id : String) (input : CreateCheckSubmissionInput)
  | approve (scope : Scope) (brandId id paymentId uuid : String) (note : Option String)
      (now : Time)
  | reject (scope : Scope) (brandId id : String) (note : Option String) (now : Time)
  | recordManualPayment (scope : Scope) (brandId id paymentId uuid : String)
      (input : RecordManualPaymentInput)

namespace CheckCall

def program : CheckCall → Tx Unit
  | submitCheck scope id input =>
      PublicInvoicesService.submitCheck scope id input >>= fun _ => pure ()
  | approve scope brandId id paymentId uuid note now =>
      ChecksService.approve scope brandId id paymentId uuid note now
  | reject scope brandId id note now => ChecksService.reject scope brandId id note now
  | recordManualPayment scope brandId id paymentId uuid input =>
      InvoicesService.recordManualPayment scope brandId id paymentId uuid input >>= fun _ => pure ()

def approves? : CheckCall → Option String
  | approve _ _ id _ _ _ _ => some id
  | _ => none

def paymentId? : CheckCall → Option String
  | approve _ _ _ paymentId _ _ _ => some paymentId
  | recordManualPayment _ _ _ paymentId _ _ => some paymentId
  | _ => none

end CheckCall

/-! ## What the calls rely on -/

def filed (id : String) (store : Store) : List CheckSubmission :=
  store.checkSubmissions.filter fun submission => submission.id = id

/-- The part of the rows that a row name stands for. -/
structure Cell where
  invoice : Option Invoice
  payments : List Payment
  submissions : List CheckSubmission

def cellOf : RowKey → Store → Cell
  | .invoice, store => ⟨some store.invoice, [], []⟩
  | .lineItem _, _ => ⟨none, [], []⟩
  | .payment id, store =>
      ⟨none, store.payments.rows.filter fun payment => payment.id = id, []⟩
  | .paymentIdempotencyKey value, store =>
      ⟨none, store.payments.rows.filter fun payment => payment.idempotencyKey = value, []⟩
  | .paymentGatewayReference value, store =>
      ⟨none, store.payments.rows.filter fun payment => payment.gatewayReference = some value, []⟩
  | .checkSubmission id, store => ⟨none, [], filed id store⟩

/-- The submission is filed at most once, over no less than what is owed where its amount is
safe. -/
structure Covered (id : String) (store : Store) : Prop where
  once : (filed id store).length ≤ 1
  covers : ∀ submission ∈ filed id store, isSafeInteger submission.amountMinor = true →
    store.invoice.balanceMinor ≤ submission.amountMinor

theorem Covered.filed_eq {id : String} {store : Store} (covered : Covered id store)
    {row : CheckSubmission} (member : row ∈ filed id store) : filed id store = [row] := by
  have once := covered.once
  cases rows : filed id store with
  | nil =>
      rw [rows] at member
      cases member
  | cons first rest =>
      rw [rows, List.length_cons] at once
      have empty : rest = [] := List.eq_nil_of_length_eq_zero (by omega)
      rw [rows, empty, List.mem_singleton] at member
      rw [empty, member]

/-- What is owed stays below every safe amount it was below, and a submission keeps its amount and,
once it is closed, its verdict. -/
structure Lowers (id : String) (before after : Store) : Prop where
  balance : ∀ limit, isSafeInteger limit = true → before.invoice.balanceMinor ≤ limit →
    after.invoice.balanceMinor ≤ limit
  kept : ∀ submission ∈ filed id before, ∃ next ∈ filed id after,
    next.amountMinor = submission.amountMinor ∧
      (ChecksService.isPending submission = false → next = submission)

def checkRely (id : String) : Rely Store RowKey Cell where
  holds := Covered id
  leads := Lowers id
  cell := cellOf

/-! ## What a call does where it commits -/

def isRecording : Effect → Bool
  | .statusWrite .recordPayment _ _ => true
  | _ => false

def Records (journal : Journal Store Effect) : Prop :=
  ∃ label ∈ journal.writing, isRecording label = true

/-- The session has recorded a payment. -/
def HasRecorded (journal : Journal Store Effect) : Prop :=
  ∃ label ∈ journal.settled, isRecording label = true

inductive Leaves (id : String) (call : CheckCall) (journal : Journal Store Effect)
    (before after : Store) : Prop where
  | kept (quiet : ¬Records journal) (payments : after.payments.rows = before.payments.rows)
      (balance : after.invoice.balanceMinor = before.invoice.balanceMinor)
      (same : filed id after = filed id before)
  | filed (quiet : ¬Records journal) (payments : after.payments.rows = before.payments.rows)
      (balance : after.invoice.balanceMinor = before.invoice.balanceMinor)
      (row : CheckSubmission) (none_ : filed id before = []) (added : filed id after = [row])
      (waiting : row.status = .submitted)
      (covers : isSafeInteger row.amountMinor = true →
        before.invoice.balanceMinor ≤ row.amountMinor)
  | recorded (now : Records journal) (first : ¬HasRecorded journal) (payment : Payment)
      (drawn : call.paymentId? = some payment.id) (positive : 0 < payment.amountMinor)
      (owing : 0 < before.invoice.balanceMinor)
      (payments : after.payments.rows = before.payments.rows ++ [payment])
      (balance : after.invoice.balanceMinor =
        InvoicesService.newBalance before.invoice payment.amountMinor)
      (same : filed id after = filed id before)
      (wanted : call.approves? = some id → ∃ submission ∈ filed id before,
        isSafeInteger submission.amountMinor = true ∧
          payment.amountMinor = submission.amountMinor)
  | closed (quiet : ¬Records journal) (payments : after.payments.rows = before.payments.rows)
      (balance : after.invoice.balanceMinor = before.invoice.balanceMinor)
      (row revised : CheckSubmission) (was : filed id before = [row])
      (waiting : ChecksService.isPending row = true) (is : filed id after = [revised])
      (amount : revised.amountMinor = row.amountMinor)
      (verdict : revised.status = .approved ∧ call.approves? = some id ∧ HasRecorded journal ∨
        revised.status = .rejected)

structure Returns (id : String) (call : CheckCall) (journal : Journal Store Effect) : Prop where
  recorded : call.paymentId?.isSome = true → HasRecorded journal
  approved : call.approves? = some id → ∃ store, .left store ∈ journal ∧
    ∃ submission ∈ filed id store, submission.status = .approved

def checkConduct (id : String) (call : CheckCall) : Conduct Store Effect ServiceError Unit where
  leaves := Leaves id call
  tells := fun _ _ _ => True
  ends := fun journal outcome => outcome = .ok () → Returns id call journal

section Commits

variable {checkId : String} {call : CheckCall} {journal : Journal Store Effect}
  {before after : Store}

theorem Lowers.of_same (balance : after.invoice.balanceMinor = before.invoice.balanceMinor)
    (same : filed checkId after = filed checkId before) : Lowers checkId before after := by
  refine ⟨fun limit _ within => balance ▸ within, fun submission member => ⟨submission, ?_, rfl, fun _ => rfl⟩⟩
  rw [same]
  exact member

theorem Covered.of_same (covered : Covered checkId before) (lowers : Lowers checkId before after)
    (same : filed checkId after = filed checkId before) : Covered checkId after := by
  refine ⟨?_, fun submission member safe => ?_⟩
  · rw [same]
    exact covered.once
  · rw [same] at member
    exact lowers.balance _ safe (covered.covers submission member safe)

theorem Leaves.lowers (leaves : Leaves checkId call journal before after) :
    Lowers checkId before after := by
  cases leaves with
  | kept quiet payments balance same => exact .of_same balance same
  | filed quiet payments balance row none_ added waiting covers =>
      refine ⟨fun limit _ within => balance ▸ within, ?_⟩
      rw [none_]
      simp
  | recorded now first payment drawn positive owing payments balance same wanted =>
      refine ⟨fun limit safe within => ?_, fun submission member => ⟨submission, ?_, rfl,
        fun _ => rfl⟩⟩
      · rw [balance]
        exact InvoicesService.newBalance_le (isDouble_of_safe safe) within positive
      · rw [same]
        exact member
  | closed quiet payments balance row revised was waiting is amount verdict =>
      refine ⟨fun limit _ within => balance ▸ within, ?_⟩
      rw [was, is]
      intro submission member
      rw [List.mem_singleton.mp member]
      exact ⟨revised, List.mem_singleton.mpr rfl, amount, fun closed => by
        rw [waiting] at closed
        cases closed⟩

theorem Leaves.covered (leaves : Leaves checkId call journal before after)
    (covered : Covered checkId before) : Covered checkId after := by
  have lowers := leaves.lowers
  cases leaves with
  | kept quiet payments balance same => exact covered.of_same lowers same
  | filed quiet payments balance row none_ added waiting covers =>
      refine ⟨by simp [added], ?_⟩
      intro submission member
      rw [added] at member
      rw [List.mem_singleton.mp member, balance]
      exact covers
  | recorded now first payment drawn positive owing payments balance same wanted =>
      exact covered.of_same lowers same
  | closed quiet payments balance row revised was waiting is amount verdict =>
      refine ⟨by simp [is], ?_⟩
      intro submission member
      rw [is] at member
      rw [List.mem_singleton.mp member, balance, amount]
      exact covered.covers row (by simp [was])

theorem Leaves.honoured {rows : List RowKey} (leaves : Leaves checkId call journal before after)
    (covered : Covered checkId before)
    (within : ∀ row, row ∉ rows → cellOf row after = cellOf row before) :
    (checkRely checkId).Honoured (checkConduct checkId call) journal rows before after :=
  ⟨leaves.covered covered, leaves.lowers, within, leaves⟩

end Commits

/-! ## The statements of the calls -/

section Statements

variable {checkId : String} {call : CheckCall} {α : Type}
  {last : α → Journal Store Effect → (Store → Store) → List RowKey → (Store → Prop) → Prop}
  {journal : Journal Store Effect} {pending : Store → Store} {rows : List RowKey}
  {knows : Store → Prop}

theorem ends_error {error : ServiceError} :
    (checkConduct checkId call).ends journal (.error error) :=
  fun same => by cases same

/-- Whether a payment can be inserted is for the holder of its two keys to say. -/
theorem stable_insert? (payment : Payment) (referenced : payment.gatewayReference = none) :
    (checkRely checkId).Stable [.payment payment.id, .paymentIdempotencyKey payment.idempotencyKey]
      fun store => (store.payments.insert? payment).isSome = true := by
  intro before after _ _ same free
  have byId := congrArg Cell.payments (same (.payment payment.id) (by simp))
  have byKey := congrArg Cell.payments
    (same (.paymentIdempotencyKey payment.idempotencyKey) (by simp))
  simp only [checkRely, cellOf] at byId byKey
  rw [UniqueTable.isSome_insert?] at free ⊢
  intro index listed value named other member equal
  simp only [paymentIndexes, List.mem_cons, List.not_mem_nil, or_false] at listed
  rcases listed with rfl | rfl | rfl
  · cases named
    have there : other ∈ before.payments.rows.filter fun row => row.id = payment.id := by
      rw [← byId]
      exact List.mem_filter.mpr ⟨member, by simpa using equal⟩
    exact free (fun row => some row.id) (by simp [paymentIndexes]) payment.id rfl other
      (List.mem_filter.mp there).1 equal
  · cases named
    have there : other ∈ before.payments.rows.filter fun row =>
        row.idempotencyKey = payment.idempotencyKey := by
      rw [← byKey]
      exact List.mem_filter.mpr ⟨member, by simpa using equal⟩
    exact free (fun row => some row.idempotencyKey) (by simp [paymentIndexes])
      payment.idempotencyKey rfl other (List.mem_filter.mp there).1 equal
  · rw [referenced] at named
    cases named

theorem stable_submissions (key : String) (P : List CheckSubmission → Prop) :
    (checkRely checkId).Stable [.checkSubmission key] fun store => P (filed key store) := by
  intro before after _ _ same known
  have kept := congrArg Cell.submissions (same (.checkSubmission key) (by simp))
  simp only [checkRely, cellOf] at kept
  rwa [kept]

theorem stable_invoice (invoice : Invoice) :
    (checkRely checkId).Stable [.invoice] fun store => store.invoice = invoice := by
  intro before after _ _ same known
  have kept := congrArg Cell.invoice (same .invoice (by simp))
  simp only [checkRely, cellOf, Option.some.injEq] at kept
  rw [kept, known]

theorem stable_owing (bound : Int) :
    (checkRely checkId).Stable [] fun store => isSafeInteger bound = true →
      store.invoice.balanceMinor ≤ bound := by
  intro before after _ leads _ known safe
  exact leads.balance bound safe (known safe)

theorem stable_amount (amount : Int) :
    (checkRely checkId).Stable [] fun store => ∃ submission ∈ filed checkId store,
      amount = submission.amountMinor := by
  rintro before after _ leads _ ⟨submission, member, rfl⟩
  obtain ⟨next, there, same, _⟩ := leads.kept submission member
  exact ⟨next, there, same.symm⟩

end Statements

/-! ## The texts of the calls -/

section Texts

variable {checkId : String} {call : CheckCall} {journal : Journal Store Effect}
  {knows : Store → Prop} {rows : List RowKey}

theorem cells_recorded {before after : Store} {payment : Payment}
    (payments : after.payments.rows = before.payments.rows ++ [payment])
    (referenced : payment.gatewayReference = none)
    (submissions : after.checkSubmissions = before.checkSubmissions)
    (locked : ∀ row ∈ [RowKey.payment payment.id,
      .paymentIdempotencyKey payment.idempotencyKey, .invoice], row ∈ rows) :
    ∀ row, row ∉ rows → cellOf row after = cellOf row before := by
  intro row unlocked
  have other : ∀ taken ∈ [RowKey.payment payment.id,
      .paymentIdempotencyKey payment.idempotencyKey, .invoice], row ≠ taken :=
    fun taken member same => unlocked (same ▸ locked taken member)
  cases row with
  | invoice => exact absurd rfl (other .invoice (by simp))
  | lineItem position => rfl
  | payment key =>
      have different : payment.id ≠ key := by
        intro same
        exact other (.payment payment.id) (by simp) (by rw [same])
      simp [cellOf, payments, List.filter_append, different]
  | paymentIdempotencyKey value =>
      have different : payment.idempotencyKey ≠ value := by
        intro same
        exact other (.paymentIdempotencyKey payment.idempotencyKey) (by simp) (by rw [same])
      simp [cellOf, payments, List.filter_append, different]
  | paymentGatewayReference value =>
      simp [cellOf, payments, List.filter_append, referenced]
  | checkSubmission key => simp [cellOf, filed, submissions]

def AfterRecording (checkId : String) (journal : Journal Store Effect) (pending : Store → Store)
    (rows : List RowKey) (knows : Store → Prop) : Prop :=
  pending = id ∧ rows = [] ∧ journal.writing = [] ∧ HasRecorded journal ∧
    (checkRely checkId).Stable [] knows

theorem CheckCall.recordManualPayment_follows (scope : Scope) (brandId invoiceId : String)
    {paymentId : String} (uuid : String) {input : RecordManualPaymentInput}
    (first : ¬HasRecorded journal) (drawn : call.paymentId? = some paymentId)
    (stable : (checkRely checkId).Stable [] knows)
    (wanted : ∀ store amountMinor currency, knows store →
      parseMinor input.amount currency = .ok amountMinor → call.approves? = some checkId →
        ∃ submission ∈ filed checkId store, isSafeInteger submission.amountMinor = true ∧
          amountMinor = submission.amountMinor) :
    (InvoicesService.recordManualPayment scope brandId invoiceId paymentId uuid input).Follows
      (checkRely checkId) (checkConduct checkId call)
      (fun _ journal pending rows knows => AfterRecording checkId journal pending rows knows)
      journal id [] knows := by
  unfold InvoicesService.recordManualPayment
  refine Follows.read stable fun store holds known => ?_
  refine follows_require (fun _ => ends_error) fun found => ?_
  refine Follows.ofExcept (fun _ _ => ends_error) fun amountMinor parsed => ?_
  refine follows_transitionOrConflict (fun _ => ends_error) fun target decided => ?_
  obtain ⟨granted, _⟩ := InvoicesService.recordPayment_decision.mp decided
  intro current _ currentKnown
  refine ⟨fun hit => ?_, fun miss => ?_⟩
  case refine_2 =>
    exact ⟨knows, stable, currentKnown, ends_error⟩
  have balance : current.invoice.balanceMinor = store.invoice.balanceMinor := by
    simp only [Bool.and_eq_true, decide_eq_true_eq] at hit
    exact hit.2
  let label : Effect :=
    .statusWrite .recordPayment (InvoicesService.recordContext store amountMinor) target
  have locked := (stable.locked [RowKey.invoice]).and (stable_invoice current.invoice)
  refine ⟨_, locked, ⟨currentKnown, rfl⟩, ?_⟩
  refine follows_require (fun _ => ends_error) fun _ => ?_
  let payment := InvoicesService.manualPayment store paymentId uuid input amountMinor
  let keys : List RowKey := [.payment payment.id, .paymentIdempotencyKey payment.idempotencyKey]
  intro inserting _ insertingKnown
  refine ⟨fun free => ?_, fun taken => ?_⟩
  case refine_2 =>
    exact ⟨_, locked, insertingKnown, ends_error⟩
  have insertable : (checkRely checkId).Stable (keys ++ [RowKey.invoice]) fun store =>
      (store.payments.insert? payment).isSome = true :=
    (stable_insert? payment rfl).mono fun row member => List.mem_append_left _ member
  have ready := (locked.locked keys).and insertable
  refine ⟨_, ready, ⟨insertingKnown, free⟩, ?_⟩
  intro logging _ loggingKnown
  refine ⟨fun _ => ⟨_, ready, loggingKnown, ?_⟩, fun never => by cases never⟩
  refine Follows.read ready fun reading _ _ => ?_
  refine Follows.commitNow (fun before covered known => ?_) fun before _ _ => ?_
  · obtain ⟨⟨still, same⟩, insertable⟩ := known
    have payments := UniqueTable.rows_of_insert?_isSome insertable
    have owed : before.invoice.balanceMinor = store.invoice.balanceMinor := by
      rw [same]
      exact balance
    refine Leaves.honoured ?_ covered (cells_recorded payments rfl rfl (by simp [payment]))
    refine .recorded ⟨label, by simp [Journal.writing, label], rfl⟩ first payment drawn
      granted.positive ?_ payments ?_ rfl ?_
    · rw [owed]
      exact granted.owing
    · exact congrArg (fun balance => subtractNumbers (toNumber balance) amountMinor) owed.symm
    · exact wanted before amountMinor _ still parsed
  · exact ⟨fun _ _ _ => trivial, rfl, rfl, rfl,
      ⟨label, by simp [Journal.settled, Journal.writing, label], rfl⟩, Rely.stable_true⟩

structure AfterReading (checkId reviewed : String) (submission : CheckSubmission)
    (journal : Journal Store Effect) (pending : Store → Store) (rows : List RowKey)
    (knows : Store → Prop) : Prop where
  fresh : pending = id ∧ rows = []
  quiet : journal.writing = []
  unrecorded : ¬HasRecorded journal
  stable : (checkRely checkId).Stable [] knows
  amount : ∀ store, knows store → reviewed = checkId →
    ∃ row ∈ filed checkId store, submission.amountMinor = row.amountMinor

theorem requirePending_follows (brandId reviewed : String) :
    (ChecksService.requirePending brandId reviewed).Follows (checkRely checkId)
      (checkConduct checkId call)
      (fun found journal pending rows knows =>
        AfterReading checkId reviewed found.1 journal pending rows knows)
      [] id [] fun _ => True := by
  rw [ChecksService.requirePending, read_bind]
  intro store _ _
  cases row : ChecksService.submission? store brandId reviewed with
  | none =>
      refine ⟨_, Rely.stable_true, trivial, ?_⟩
      simp only [id_eq, row]
      exact ends_error
  | some submission =>
      let learns : Store → Prop := fun store => reviewed = checkId →
        ∃ row ∈ filed checkId store, submission.amountMinor = row.amountMinor
      have stable : (checkRely checkId).Stable [] learns := by
        intro before after holds leads same known here
        exact stable_amount submission.amountMinor before after holds leads same (known here)
      have learnt : learns store := by
        intro here
        have named := List.find?_some row
        simp only [Bool.and_eq_true, decide_eq_true_eq] at named
        exact ⟨submission, List.mem_filter.mpr ⟨List.mem_of_find?_eq_some row,
          by simpa [here] using named.1⟩, rfl⟩
      refine ⟨learns, stable, learnt, ?_⟩
      simp only [id_eq, row]
      intro before covered known
      refine ⟨Leaves.honoured ?_ covered fun _ _ => rfl, learns, stable, known, ?_⟩
      · exact .kept (by simp [Records, Journal.writing]) rfl rfl rfl
      · refine follows_require (fun _ => ends_error) fun pending => ?_
        exact ⟨⟨rfl, rfl⟩, rfl, by simp [HasRecorded, Journal.settled, Journal.writing], stable,
          fun store known => known⟩

theorem filed_reviseSubmissions (checkId : String) (store : Store)
    (applies : CheckSubmission → Bool) {change : CheckSubmission → CheckSubmission}
    (named : ∀ submission, (change submission).id = submission.id) :
    filed checkId (store.reviseSubmissions applies change) =
      (filed checkId store).map fun submission =>
        if applies submission then change submission else submission := by
  have kept : ∀ submission : CheckSubmission,
      (if applies submission then change submission else submission).id = submission.id := by
    intro submission
    split
    · exact named submission
    · rfl
  simp only [filed, Store.reviseSubmissions, List.filter_map, Function.comp_def, kept]

theorem filed_of_other {reviewed key : String} (different : reviewed ≠ key) {store : Store}
    {applies : CheckSubmission → Bool} {change : CheckSubmission → CheckSubmission}
    (names : ∀ submission, applies submission = true → submission.id = reviewed)
    (named : ∀ submission, (change submission).id = submission.id) :
    filed key (store.reviseSubmissions applies change) = filed key store := by
  rw [filed_reviseSubmissions key store applies named]
  refine (List.map_congr_left fun submission member => ?_).trans (List.map_id _)
  have here : submission.id = key := by simpa using (List.mem_filter.mp member).2
  have spared : ¬applies submission = true := by
    intro applied
    exact different ((names submission applied).symm.trans here)
  rw [if_neg spared, id_eq]

theorem any_filed {reviewed : String} {store : Store} {applies : CheckSubmission → Bool}
    (names : ∀ submission, applies submission = true → submission.id = reviewed) :
    (filed reviewed store).any applies = store.checkSubmissions.any applies := by
  rw [Bool.eq_iff_iff, List.any_eq_true, List.any_eq_true]
  constructor
  · rintro ⟨submission, member, here⟩
    exact ⟨submission, (List.mem_filter.mp member).1, here⟩
  · rintro ⟨submission, member, here⟩
    exact ⟨submission, List.mem_filter.mpr ⟨member, by simpa using names submission here⟩, here⟩

def Verdict (checkId reviewed : String) (call : CheckCall) (journal : Journal Store Effect)
    (status : CheckStatus) : Prop :=
  reviewed = checkId → status = .approved ∧ call.approves? = some checkId ∧ HasRecorded journal ∨
    status = .rejected

theorem leaves_closing {reviewed : String} {status : CheckStatus} {before : Store}
    (applies : CheckSubmission → Bool) (change : CheckSubmission → CheckSubmission)
    (quiet : ¬Records journal) (covered : Covered checkId before)
    (names : ∀ submission, applies submission = true →
      submission.id = reviewed ∧ ChecksService.isPending submission = true)
    (keeps : ∀ submission, (change submission).id = submission.id ∧
      (change submission).amountMinor = submission.amountMinor ∧
      (change submission).status = status)
    (some_ : (filed reviewed before).any applies = true)
    (verdict : Verdict checkId reviewed call journal status) :
    let after := before.reviseSubmissions applies change
    Leaves checkId call journal before after ∧
      (reviewed = checkId → ∃ revised ∈ filed checkId after, revised.status = status) := by
  intro after
  have rows := filed_reviseSubmissions checkId before applies fun submission =>
    (keeps submission).1
  by_cases here : reviewed = checkId
  · subst here
    obtain ⟨row, member, applied⟩ := List.any_eq_true.mp some_
    have only := covered.filed_eq member
    have changed : filed reviewed after = [change row] := by
      rw [rows, only]
      simp [applied]
    have there : change row ∈ filed reviewed after := by
      rw [changed]
      exact List.mem_singleton.mpr rfl
    refine ⟨.closed quiet rfl rfl row (change row) only (names row applied).2 changed
      (keeps row).2.1 ?_, fun _ => ⟨change row, there, (keeps row).2.2⟩⟩
    rw [(keeps row).2.2]
    exact verdict rfl
  · refine ⟨.kept quiet rfl rfl ?_, fun same => absurd same here⟩
    exact filed_of_other here (fun submission applied => (names submission applied).1)
      fun submission => (keeps submission).1

theorem finishReview_follows (scope : Scope) (brandId reviewed : String) {status : CheckStatus}
    (note : Option String) (now : Time) (quiet : journal.writing = [])
    (stable : (checkRely checkId).Stable [] knows)
    (recorded : call.paymentId?.isSome = true → HasRecorded journal)
    (verdict : Verdict checkId reviewed call journal status)
    (approves : call.approves? = some checkId → reviewed = checkId ∧ status = .approved) :
    (ChecksService.finishReview scope brandId reviewed status note now).Follows
      (checkRely checkId) (checkConduct checkId call)
      ((checkConduct checkId call).finishes (checkRely checkId)) journal id [] knows := by
  cases scope with
  | publicPayer payer => exact ends_error
  | user reviewerId =>
      let applies : CheckSubmission → Bool := fun submission =>
        submission.id = reviewed && submission.brandId = brandId &&
          ChecksService.isPending submission
      let change : CheckSubmission → CheckSubmission := fun submission =>
        { submission with
          status, reviewedBy := some reviewerId, reviewNote := note, reviewedAt := some now }
      have names : ∀ submission, applies submission = true →
          submission.id = reviewed ∧ ChecksService.isPending submission = true := by
        intro submission applied
        simp only [applies, Bool.and_eq_true, decide_eq_true_eq] at applied
        exact ⟨applied.1.1, applied.2⟩
      intro writing _ writingKnown
      refine ⟨fun hit => ?_, fun miss => ⟨knows, stable, writingKnown, ends_error⟩⟩
      have some_ : (filed reviewed writing).any applies = true :=
        (any_filed fun submission applied => (names submission applied).1).trans hit
      refine ⟨fun store => (filed reviewed store).any applies = true,
        stable_submissions reviewed fun rows => rows.any applies = true, some_, ?_⟩
      intro before covered found
      have unrecording : ¬Records (.wrote .rowWrite :: journal) := by
        simp [Records, Journal.writing, quiet, isRecording]
      obtain ⟨leaves, closed⟩ := leaves_closing applies change unrecording covered names
        (fun submission => ⟨rfl, rfl, rfl⟩) found verdict
      refine ⟨leaves.honoured covered fun row unlocked => ?_, fun _ => ⟨fun records => ?_, ?_⟩⟩
      · cases row with
        | checkSubmission key =>
            have different : reviewed ≠ key := by
              intro same
              exact unlocked (by simp [same])
            exact congrArg (Cell.mk none []) (filed_of_other different
              (fun submission applied => (names submission applied).1) fun submission => rfl)
        | _ => rfl
      · obtain ⟨label, settled, recording⟩ := recorded records
        exact ⟨label, Journal.mem_settled_cons _ (Journal.mem_settled_cons _ settled), recording⟩
      · intro here
        obtain ⟨same, approved⟩ := approves here
        obtain ⟨revised, member, given⟩ := closed same
        exact ⟨_, List.mem_cons_self, revised, member, given.trans approved⟩

theorem approve_follows (scope : Scope) (brandId reviewed paymentId uuid : String)
    (note : Option String) (now : Time) :
    let call := CheckCall.approve scope brandId reviewed paymentId uuid note now
    call.program.Follows (checkRely checkId) (checkConduct checkId call)
      ((checkConduct checkId call).finishes (checkRely checkId)) [] id [] fun _ => True := by
  intro call
  refine (requirePending_follows brandId reviewed).bind ?_
  rintro ⟨submission, invoice⟩ journal pending rows knows read
  obtain ⟨⟨rfl, rfl⟩, quiet, unrecorded, stable, amount⟩ := read
  refine Follows.ofExcept (fun _ _ => ends_error) fun text formatted => ?_
  refine Follows.bind (CheckCall.recordManualPayment_follows scope brandId invoice.id uuid
    unrecorded rfl stable ?_) ?_
  · intro store amountMinor currency known parsed here
    have safe := (formatMinor_toList formatted).1
    rw [isSafeInteger_toNumber] at safe
    rw [toNumber_of_safe safe] at formatted
    have written := parseMinor_formatMinor formatted currency
    obtain ⟨row, member, same⟩ := amount store known (Option.some.inj here)
    exact ⟨row, member, same ▸ safe, (Except.ok.inj (parsed.symm.trans written)).trans same⟩
  · intro invoice journal pending rows knows after
    obtain ⟨rfl, rfl, quiet, recorded, stable⟩ := after
    exact finishReview_follows scope brandId reviewed note now quiet stable (fun _ => recorded)
      (fun here => .inl ⟨rfl, congrArg some here, recorded⟩)
      fun here => ⟨Option.some.inj here, rfl⟩

theorem reject_follows (scope : Scope) (brandId reviewed : String) (note : Option String)
    (now : Time) :
    let call := CheckCall.reject scope brandId reviewed note now
    call.program.Follows (checkRely checkId) (checkConduct checkId call)
      ((checkConduct checkId call).finishes (checkRely checkId)) [] id [] fun _ => True := by
  intro call
  refine follows_require (fun _ => ends_error) fun _ => ?_
  refine (requirePending_follows brandId reviewed).bind ?_
  intro found journal pending rows knows read
  obtain ⟨⟨rfl, rfl⟩, quiet, unrecorded, stable, _⟩ := read
  exact finishReview_follows scope brandId reviewed note now quiet stable
    (fun drawn => by cases drawn) (fun _ => .inr rfl) fun here => by cases here

theorem recordCall_follows (scope : Scope) (brandId invoiceId paymentId uuid : String)
    (input : RecordManualPaymentInput) :
    let call := CheckCall.recordManualPayment scope brandId invoiceId paymentId uuid input
    call.program.Follows (checkRely checkId) (checkConduct checkId call)
      ((checkConduct checkId call).finishes (checkRely checkId)) [] id [] fun _ => True := by
  intro call
  refine Follows.bind (CheckCall.recordManualPayment_follows scope brandId invoiceId uuid
    (by simp [HasRecorded, Journal.settled]) rfl Rely.stable_true fun _ _ _ _ _ here => by
      cases here) ?_
  intro invoice journal pending rows knows after
  obtain ⟨rfl, rfl, quiet, recorded, stable⟩ := after
  intro before covered _
  refine ⟨Leaves.honoured ?_ covered fun _ _ => rfl, fun _ => ⟨fun _ => ?_, fun here => by
    cases here⟩⟩
  · exact .kept (by simp [Records, quiet]) rfl rfl rfl
  · obtain ⟨label, settled, recording⟩ := recorded
    exact ⟨label, Journal.mem_settled_cons _ settled, recording⟩

theorem leaves_filing {before : Store} (row : CheckSubmission) (quiet : ¬Records journal)
    (free : filed row.id before = []) (waiting : row.status = .submitted)
    (covers : isSafeInteger row.amountMinor = true →
      before.invoice.balanceMinor ≤ row.amountMinor) :
    Leaves checkId call journal before
      { before with checkSubmissions := before.checkSubmissions ++ [row] } := by
  by_cases here : row.id = checkId
  · subst here
    refine .filed quiet rfl rfl row free ?_ waiting covers
    have added : filed row.id
        { before with checkSubmissions := before.checkSubmissions ++ [row] } =
          filed row.id before ++ [row] := by
      simp [filed, List.filter_append]
    rw [added, free, List.nil_append]
  · refine .kept quiet rfl rfl ?_
    simp [filed, List.filter_append, here]

theorem filed_eq_nil_iff {key : String} {store : Store} :
    filed key store = [] ↔ ∀ other ∈ store.checkSubmissions, other.id ≠ key := by
  simp [filed, List.filter_eq_nil_iff]

theorem submitCheck_follows (scope : PublicScope) (submitted : String)
    (input : CreateCheckSubmissionInput) :
    let call := CheckCall.submitCheck scope submitted input
    call.program.Follows (checkRely checkId) (checkConduct checkId call)
      ((checkConduct checkId call).finishes (checkRely checkId)) [] id [] fun _ => True := by
  intro call
  have text : (PublicInvoicesService.submitCheck scope submitted input).Follows (checkRely checkId)
      (checkConduct checkId call)
      (fun _ => (checkConduct checkId call).finishes (checkRely checkId) ()) [] id []
      fun _ => True := by
    intro store _ _
    have owing : (checkRely checkId).Stable [] fun current =>
        isSafeInteger store.invoice.balanceMinor = true →
          current.invoice.balanceMinor ≤ store.invoice.balanceMinor :=
      stable_owing store.invoice.balanceMinor
    refine ⟨_, owing, fun _ => le_refl _, ?_⟩
    refine follows_require (fun _ => ends_error) fun _ => ?_
    refine Follows.read owing fun settings _ _ => ?_
    refine follows_require (fun _ => ends_error) fun _ => ?_
    refine follows_require (fun _ => ends_error) fun _ => ?_
    intro writing _ writingKnown
    refine ⟨fun hit => ?_, fun miss => ⟨_, owing, writingKnown, ends_error⟩⟩
    have free : filed submitted writing = [] := by
      rw [filed_eq_nil_iff]
      simpa using hit
    refine ⟨_, (owing.locked [.checkSubmission submitted]).and
      (stable_submissions submitted fun rows => rows = []), ⟨writingKnown, free⟩, ?_⟩
    intro before covered known
    refine ⟨Leaves.honoured (leaves_filing _ ?_ known.2 rfl known.1) covered fun row unlocked => ?_,
      fun _ => ⟨fun drawn => absurd drawn (by simp [call, CheckCall.paymentId?]), fun here =>
        absurd here (by simp [call, CheckCall.approves?])⟩⟩
    · simp [Records, Journal.writing, isRecording]
    · cases row with
      | checkSubmission key =>
          have different : submitted ≠ key := by
            intro same
            exact unlocked (by simp [same])
          exact congrArg (Cell.mk none []) (by simp [filed, List.filter_append, different])
      | _ => rfl
  refine text.bind ?_
  intro _ journal pending rows knows finishes
  exact finishes

theorem checkCall_follows (call : CheckCall) :
    call.program.Follows (checkRely checkId) (checkConduct checkId call)
      ((checkConduct checkId call).finishes (checkRely checkId)) [] id [] fun _ => True := by
  cases call with
  | submitCheck scope id input => exact submitCheck_follows scope id input
  | approve scope brandId id paymentId uuid note now =>
      exact approve_follows scope brandId id paymentId uuid note now
  | reject scope brandId id note now => exact reject_follows scope brandId id note now
  | recordManualPayment scope brandId id paymentId uuid input =>
      exact recordCall_follows scope brandId id paymentId uuid input

end Texts

end MultiBrandInvoicing
