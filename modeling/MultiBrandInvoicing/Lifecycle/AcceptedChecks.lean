import MultiBrandInvoicing.Lifecycle.Ledger

/-!
# Accepted checks

`submitCheck` takes a check for any invoice with a balance.  Approving it records a payment,
and that asks for a status RECORD_PAYMENT may start from, for an amount that can be written down and
for sums that stay within the total.  The two rules are compared here: a draft and a cancelled
invoice have a balance too, and beyond the safe integers a sum may be rounded.
-/

set_option autoImplicit false

namespace MultiBrandInvoicing

open ReadCommitted Program PaymentsService

theorem createCheckSubmission_execFrom {view : Store} (committed : Store)
    {submission : CheckSubmission}
    (fresh : ∀ other ∈ view.checkSubmissions, other.id ≠ submission.id) :
    (createCheckSubmission submission).execFrom committed view =
      ⟨.ok (), committed,
        { view with checkSubmissions := view.checkSubmissions ++ [submission] }, []⟩ := by
  have inserts : (view.checkSubmissions.all fun other => other.id ≠ submission.id) = true := by
    simpa using fresh
  simp only [createCheckSubmission, writeRows_bind, execFrom_write, inserts, if_true,
    pure_eq_done, execFrom_done]

theorem createCheckSubmission_execFrom_of_taken {view : Store} (committed : Store)
    {submission : CheckSubmission}
    (taken : ¬∀ other ∈ view.checkSubmissions, other.id ≠ submission.id) :
    (createCheckSubmission submission).execFrom committed view =
      ⟨.error .uniqueViolation, committed, committed, []⟩ := by
  have refuses : (view.checkSubmissions.all fun other => other.id ≠ submission.id) = false := by
    simpa using taken
  simp only [createCheckSubmission, writeRows_bind, execFrom_write, refuses, Bool.false_eq_true,
    if_false, execFrom_throw]

namespace PublicInvoicesService

def resolvedScope (invoice : Invoice) : PublicScope where
  brandId := invoice.brandId
  invoiceId := invoice.id

def submission (scope : PublicScope) (id : String) (input : CreateCheckSubmissionInput)
    (invoice : Invoice) : CheckSubmission where
  id := id
  brandId := scope.brandId
  checkNumber := input.checkNumber
  amountMinor := invoice.balanceMinor
  customerNote := input.customerNote
  status := .submitted

structure Submitted (scope : PublicScope) (id : String) (input : CreateCheckSubmissionInput)
    (store next : Store) : Prop where
  owing : 0 < store.invoice.balanceMinor
  fresh : ∀ other ∈ store.checkSubmissions, other.id ≠ id
  added : next = { store with
    checkSubmissions := store.checkSubmissions ++ [submission scope id input store.invoice] }

theorem submitCheck_exec {scope : PublicScope} (id : String)
    (input : CreateCheckSubmissionInput) {store : Store} (here : store.invoice.id = scope.invoiceId)
    (enabled : store.settings.any BrandSettings.checkEnabled = true)
    (owing : 0 < store.invoice.balanceMinor) :
    (submitCheck scope id input).exec store =
      ((createCheckSubmission (submission scope id input store.invoice)).execFrom store
        store).andThen fun _ => (done id : Tx String).execFrom := by
  simp only [exec, submitCheck, read_bind, execFrom_select, execFrom_bind, require_execFrom, here,
    enabled, owing, decide_true, if_true, Execution.andThen_ok, Execution.after_nil, submission,
    pure_eq_done]

theorem submitCheck_ok {scope : PublicScope} {id answer : String}
    {input : CreateCheckSubmissionInput} {store : Store}
    (accepted : ((submitCheck scope id input).exec store).outcome = .ok answer) :
    Submitted scope id input store ((submitCheck scope id input).exec store).store := by
  by_cases here : store.invoice.id = scope.invoiceId
  case neg => simp [exec, submitCheck, execFrom_bind, here] at accepted
  by_cases enabled : store.settings.any BrandSettings.checkEnabled = true
  case neg => simp [exec, submitCheck, execFrom_bind, here, enabled] at accepted
  by_cases owing : 0 < store.invoice.balanceMinor
  case neg => simp [exec, submitCheck, execFrom_bind, here, enabled, owing] at accepted
  rw [submitCheck_exec id input here enabled owing] at accepted ⊢
  by_cases fresh : ∀ other ∈ store.checkSubmissions, other.id ≠ id
  case neg =>
    have taken : ¬∀ other ∈ store.checkSubmissions,
        other.id ≠ (submission scope id input store.invoice).id := fresh
    rw [createCheckSubmission_execFrom_of_taken store taken] at accepted
    cases accepted
  have free : ∀ other ∈ store.checkSubmissions,
      other.id ≠ (submission scope id input store.invoice).id := fresh
  refine ⟨owing, fresh, ?_⟩
  rw [createCheckSubmission_execFrom store free]
  rfl

end PublicInvoicesService

/-- One review of a check: who makes it, the identifiers it draws, its note and its time. -/
structure Review where
  reviewerId : String
  paymentId : String
  uuid : String
  note : Option String
  now : Time

/-- The identifiers are drawn at random, so that no payment has them yet. -/
def Review.Fresh (review : Review) (store : Store) : Prop :=
  ∀ payment ∈ store.payments.rows,
    payment.id ≠ review.paymentId ∧ payment.idempotencyKey ≠ s!"manual:{review.uuid}"

def Review.approve (review : Review) (brandId id : String) : Tx Unit :=
  ChecksService.approve (.user review.reviewerId) brandId id review.paymentId review.uuid
    review.note review.now

namespace InvoicesService

/-- When a payment of this amount by hand is allowed. -/
theorem recordPayment_legal_iff {store : Store} {amountMinor : Int} :
    (∃ target, evaluateTransition .recordPayment (recordContext store amountMinor) = .ok target) ↔
      Grants store.invoice amountMinor :=
  ⟨fun ⟨_, decided⟩ => (recordPayment_decision.mp decided).1,
    fun granted => ⟨_, recordPayment_decision.mpr ⟨granted, rfl⟩⟩⟩

/-- A payment by hand that the state machine allows and whose identifiers are free goes through. -/
theorem recordManualPayment_ok (scope : Scope) {brandId id paymentId uuid : String}
    (input : RecordManualPaymentInput) {store : Store} {amountMinor : Int}
    (found : isInvoice store brandId id = true)
    (parsed : parseMinor input.amount (toCurrencyCode store.invoice.currency) = .ok amountMinor)
    (granted : Grants store.invoice amountMinor)
    (free : (store.payments.insert?
      (manualPayment store paymentId uuid input amountMinor)).isSome = true) :
    ∃ invoice, ((recordManualPayment scope brandId id paymentId uuid input).execFrom store
      store).outcome = .ok invoice := by
  obtain ⟨payments, inserted⟩ := Option.isSome_iff_exists.mp free
  obtain ⟨target, decided⟩ := recordPayment_legal_iff.mpr granted
  simp [recordManualPayment, execFrom_bind, found, parsed, transitionOrConflict_execFrom, decided,
    isInvoice_id found, createPayment_execFrom, inserted]

/-- What the payments so far come to is raised by the balance, and to no more than the total, as
the sums are computed. -/
def BalanceFits (invoice : Invoice) : Prop :=
  settledBefore invoice < settledWith invoice invoice.balanceMinor ∧
    settledWith invoice invoice.balanceMinor ≤ toNumber invoice.totalMinor

instance (invoice : Invoice) : Decidable (BalanceFits invoice) :=
  inferInstanceAs (Decidable (_ ∧ _))

theorem grants_balance_iff {invoice : Invoice} :
    Grants invoice invoice.balanceMinor ↔
      isPayable invoice.status = true ∧ BalanceFits invoice :=
  ⟨fun granted => ⟨granted.payable, granted.raises, granted.within⟩,
    fun both => ⟨both.1, both.2.1, both.2.2⟩⟩

theorem SafeFigures.balanceFits {invoice : Invoice} (figures : SafeFigures invoice)
    (owing : 0 < invoice.balanceMinor) : BalanceFits invoice := by
  have exact_ := figures.exactSums owing le_rfl
  have total : toNumber invoice.totalMinor = invoice.totalMinor := exact_.total
  unfold BalanceFits
  rw [exact_.settledBefore_eq, exact_.settledWith_eq, total]
  omega

end InvoicesService

theorem Review.Fresh.isSome_insert? {review : Review} {store : Store} (fresh : review.Fresh store)
    (input : RecordManualPaymentInput) (amountMinor : Int) :
    (store.payments.insert? (InvoicesService.manualPayment store review.paymentId review.uuid input
      amountMinor)).isSome = true := by
  rw [UniqueTable.isSome_insert?]
  intro index listed value named other member
  obtain ⟨differentId, differentKey⟩ := fresh other member
  simp only [paymentIndexes, List.mem_cons, List.not_mem_nil, or_false] at listed
  rcases listed with rfl | rfl | rfl
  · cases named
    exact fun same => differentId (Option.some.inj same)
  · cases named
    exact fun same => differentKey (Option.some.inj same)
  · cases named

namespace ChecksService

/-- The submission a review is about, as it is stored while it waits. -/
structure Waits (store : Store) (submission : CheckSubmission) : Prop where
  found : (store.checkSubmissions.find? fun other =>
    other.id = submission.id && other.brandId = store.invoice.brandId) = some submission
  pending : isPending submission = true

variable {store : Store} {submission : CheckSubmission} {review : Review}

theorem requirePending_waits (waits : Waits store submission) :
    (requirePending store.invoice.brandId submission.id).execFrom store store =
      ⟨.ok (submission, store.invoice), store, store, []⟩ := by
  simp [requirePending, submission?, execFrom_bind, waits.found, waits.pending]

theorem finishReview_waits (waits : Waits store submission) (reviewerId : String)
    (status : CheckStatus) (note : Option String) (now : Time) (recorded : Store)
    (same : recorded.checkSubmissions = store.checkSubmissions) :
    ((finishReview (.user reviewerId) store.invoice.brandId submission.id status note
      now).execFrom recorded recorded).outcome = .ok () := by
  have there := List.find?_some waits.found
  have matched : (recorded.checkSubmissions.any fun other =>
      other.id = submission.id && other.brandId = store.invoice.brandId &&
        isPending other) = true := by
    rw [same]
    refine List.any_eq_true.mpr ⟨submission, List.mem_of_find?_eq_some waits.found, ?_⟩
    rw [there, waits.pending]
    rfl
  simp [finishReview, updateManyCheckSubmissions, matched]

/-- A waiting submission is approved exactly if its amount can be written down and may be
recorded. -/
theorem approve_waits_iff (waits : Waits store submission) (fresh : review.Fresh store) :
    ((review.approve store.invoice.brandId submission.id).exec store).outcome = .ok () ↔
      isSafeInteger submission.amountMinor = true ∧
        InvoicesService.Grants store.invoice submission.amountMinor := by
  have asked := requirePending_waits waits
  have recordable : InvoicesService.isInvoice store store.invoice.brandId store.invoice.id =
      true := by
    simp [InvoicesService.isInvoice]
  cases formatted :
      formatMinor (toNumber submission.amountMinor) (toCurrencyCode store.invoice.currency) with
  | error error =>
      have unsafe_ : ¬isSafeInteger submission.amountMinor = true := by
        intro safe
        obtain ⟨text, ok⟩ :=
          formatMinor_of_isSafeInteger safe (toCurrencyCode store.invoice.currency)
        rw [toNumber_of_safe safe, ok] at formatted
        cases formatted
      simp [exec, Review.approve, approve, execFrom_bind, asked, formatted, unsafe_]
  | ok text =>
      have safe := (formatMinor_toList formatted).1
      rw [isSafeInteger_toNumber] at safe
      have whole := formatted
      rw [toNumber_of_safe safe] at whole
      have parsed := parseMinor_formatMinor whole (toCurrencyCode store.invoice.currency)
      let input := checkPayment submission text review.now
      rcases InvoicesService.recordManualPayment_cases (.user review.reviewerId)
          store.invoice.brandId store.invoice.id review.paymentId review.uuid input store with
        ⟨_, error, refused⟩ | ⟨amountMinor, payments, event, _, read, granted, _, _, recorded⟩
      · have denied : ¬InvoicesService.Grants store.invoice submission.amountMinor := by
          intro granted
          obtain ⟨invoice, ok⟩ := InvoicesService.recordManualPayment_ok
            (.user review.reviewerId) input recordable parsed granted
            (fresh.isSome_insert? input submission.amountMinor)
          rw [refused] at ok
          cases ok
        simp [exec, Review.approve, approve, execFrom_bind, asked, formatted, refused, input,
          denied]
      · obtain rfl : submission.amountMinor = amountMinor := Except.ok.inj (parsed.symm.trans read)
        have finished := finishReview_waits waits review.reviewerId .approved review.note review.now
          (InvoicesService.Store.recorded store payments submission.amountMinor input.paidAt event)
          rfl
        simp [exec, Review.approve, approve, execFrom_bind, asked, formatted, recorded, input,
          granted, safe]
        exact finished

end ChecksService

/-! ## What is accepted and what can be approved -/

/-- The review approves the submission, and for the reasons it should: RECORD_PAYMENT may start
from the status, and the amount is positive and within the balance. -/
structure Approves (review : Review) (store : Store) (submission : CheckSubmission) : Prop where
  legal : ∃ target, evaluateTransition .recordPayment
    (InvoicesService.recordContext store submission.amountMinor) = .ok target
  positive : 0 < submission.amountMinor
  within : submission.amountMinor ≤ store.invoice.balanceMinor
  returns : ((review.approve store.invoice.brandId submission.id).exec store).outcome = .ok ()

theorem approves_iff {review : Review} {store : Store} {submission : CheckSubmission}
    (waits : ChecksService.Waits store submission) (fresh : review.Fresh store)
    (within : submission.amountMinor ≤ store.invoice.balanceMinor) :
    Approves review store submission ↔
      isSafeInteger submission.amountMinor = true ∧
        InvoicesService.Grants store.invoice submission.amountMinor := by
  have returns := ChecksService.approve_waits_iff waits fresh
  constructor
  · intro approves
    exact returns.mp approves.returns
  · intro both
    exact ⟨InvoicesService.recordPayment_legal_iff.mpr both.2, both.2.positive, within,
      returns.mpr both⟩

/-- What was just accepted is what the next review finds. -/
theorem PublicInvoicesService.Submitted.waits {id : String} {input : CreateCheckSubmissionInput}
    {store next : Store}
    (submitted : Submitted (resolvedScope store.invoice) id input store next) :
    ChecksService.Waits next
      (submission (resolvedScope store.invoice) id input store.invoice) := by
  let row := submission (resolvedScope store.invoice) id input store.invoice
  have earlier : store.checkSubmissions.find? (fun other =>
      other.id = row.id && other.brandId = store.invoice.brandId) = none := by
    refine List.find?_eq_none.mpr fun other member found => submitted.fresh other member ?_
    simp only [Bool.and_eq_true, decide_eq_true_eq] at found
    exact found.1
  have found : (store.checkSubmissions ++ [row]).find? (fun other =>
      other.id = row.id && other.brandId = store.invoice.brandId) = some row := by
    rw [List.find?_append, earlier]
    simp [row, submission, resolvedScope]
  rw [submitted.added]
  exact ⟨found, rfl⟩

/-- A native invoice over a safe amount with a balance is payable, unless it is a draft or
cancelled. -/
theorem NativeReachable.isPayable_iff {π : Type} {env : Env} {store : Store}
    (reachable : NativeReachable π env store) (owing : 0 < store.invoice.balanceMinor)
    (safe : isSafeInteger store.invoice.totalMinor = true) :
    isPayable store.invoice.status = true ↔
      store.invoice.status ≠ .draft ∧ store.invoice.status ≠ .cancelled := by
  have positive : 0 < store.invoice.totalMinor := by
    by_contra worthless
    have whole := (reachable.dormant (by omega)).whole
    omega
  have unpaid : store.invoice.status ≠ .paid := by
    intro paid
    have zero := (reachable.coherent positive safe).agrees.paid.mp paid
    omega
  cases status : store.invoice.status with
  | draft => decide
  | sent => decide
  | viewed => decide
  | pendingPayment => decide
  | partiallyPaid => decide
  | paid => exact absurd status unpaid
  | cancelled => decide

/-! ## Issued and not cancelled -/

/-- A decline does not make a draft of the invoice. -/
def NotBackToDraft (store : Store) : Prop :=
  ∀ target, store.invoice.revertTarget? = some target → target ≠ .draft

/-- No step makes a draft of the invoice, now or by a later decline. -/
structure Onward (store next : Store) : Prop where
  returns : NotBackToDraft next
  issued : store.invoice.status ≠ .draft → next.invoice.status ≠ .draft

theorem NotBackToDraft.of_settled {store : Store}
    (settled : store.invoice.status ≠ .pendingPayment) : NotBackToDraft store :=
  fun target reverts => absurd reverts (revertTarget?_of_settled settled target)

theorem Onward.quiet {recorded : Option Int} {store next : Store}
    (returns : NotBackToDraft store) (step : QuietStep store recorded next) : Onward store next := by
  cases step with
  | kept _ same =>
      rw [same]
      exact ⟨returns, fun issued => issued⟩
  | issued scope now draft lines total =>
      exact ⟨.of_settled (by simp [InvoicesService.Store.issued]),
        fun issued => absurd draft issued⟩
  | viewed now sent =>
      exact ⟨.of_settled (by simp [PublicInvoicesService.Store.viewed]),
        fun _ => by simp [PublicInvoicesService.Store.viewed]⟩
  | recorded paymentId uuid input amountMinor payments event _ granted rows same =>
      have status : next.invoice.status = .paid ∨ next.invoice.status = .partiallyPaid := by
        rw [same]
        simp only [InvoicesService.Store.recorded, InvoicesService.afterManualPayment,
          InvoicesService.recordOnInvoice]
        split
        · exact .inl rfl
        · exact .inr rfl
      refine ⟨.of_settled ?_, fun _ => ?_⟩
      · rcases status with paid | partly
        · simp [paid]
        · simp [partly]
      · rcases status with paid | partly
        · simp [paid]
        · simp [partly]
  | cancelled scope now listed unpaid =>
      exact ⟨.of_settled (by simp [InvoicesService.Store.cancelled]),
        fun _ => by simp [InvoicesService.Store.cancelled]⟩

theorem Onward.attempting {store : Store} {method : PaymentMethod} {attempt : OpenedAttempt}
    (opens : Opens store method attempt) : Onward store (store.attempting attempt.payments) := by
  refine ⟨?_, fun _ => by simp [Store.attempting]⟩
  intro target reverts draft
  have payable := opens.payable
  simp only [Store.attempting, Invoice.revertTarget?, if_true, Option.filter_eq_some_iff] at reverts
  rw [Option.some.inj reverts.1, draft] at payable
  cases payable

theorem Onward.applying {store : Store} (returns : NotBackToDraft store) (result : GatewayResult) :
    Onward store (store.apply result) := by
  have invoice : (store.apply result).invoice =
      store.invoice.afterResult result.status result.occurredAt := rfl
  have kept (same : store.invoice.afterResult result.status result.occurredAt = store.invoice) :
      Onward store (store.apply result) := by
    rw [same] at invoice
    refine ⟨?_, fun issued => by rwa [invoice]⟩
    intro target reverts
    rw [invoice] at reverts
    exact returns target reverts
  cases outcome : result.status with
  | succeeded =>
      by_cases listed : store.invoice.status ∈ allowed .settleFull
      · have paid : (store.apply result).invoice.status = .paid := by
          rw [invoice, outcome]
          exact (afterSuccess_of_open listed result.occurredAt).1
        exact ⟨.of_settled (by simp [paid]), fun _ => by simp [paid]⟩
      · exact kept (afterResult_of_closed listed result.status result.occurredAt)
  | failed =>
      cases reverts : store.invoice.revertTarget? with
      | none => exact kept (by rw [outcome, Invoice.afterResult, Invoice.afterDecline, reverts])
      | some target =>
          have status : (store.apply result).invoice.status = target := by
            rw [invoice, outcome, Invoice.afterResult, Invoice.afterDecline, reverts]
          have settled : target ≠ .pendingPayment := by
            intro pending
            subst pending
            simp [Invoice.revertTarget?, Option.filter_eq_some_iff] at reverts
          exact ⟨.of_settled (by rwa [status]), fun _ => by
            rw [status]
            exact returns target reverts⟩
  | requiresAction =>
      exact kept (by
        rw [outcome]
        rfl)
  | processing =>
      exact kept (by
        rw [outcome]
        rfl)
  | cancelled =>
      exact kept (by
        rw [outcome]
        rfl)

section Runs

variable {π : Type} {env : Env}

theorem NativeReachable.notBackToDraft {store : Store} (reachable : NativeReachable π env store) :
    NotBackToDraft store := by
  refine reachable.invariant NotBackToDraft ?_ ?_ ?_ ?_
  · intro brand id publicToken input store created
    have new := InvoicesService.create_ok created
    exact .of_settled (by simp [new.draft])
  · intro store recorded next returns step
    exact (Onward.quiet returns step).returns
  · intro store method attempt _ opens
    exact (Onward.attempting opens).returns
  · intro store result returns _
    exact (Onward.applying returns result).returns

theorem perform_issued {store : Store} (operation : NativeOperation π)
    (reachable : NativeReachable π env store) (issued : store.invoice.status ≠ .draft) :
    (operation.perform env store).invoice.status ≠ .draft := by
  refine (NativeOperation.perform_invariant
    (fun store => NotBackToDraft store ∧ store.invoice.status ≠ .draft) operation store ?_ ?_ ?_
    reachable.native ⟨reachable.notBackToDraft, issued⟩).2
  · intro next both step
    have onward := Onward.quiet both.1 step
    exact ⟨onward.returns, onward.issued both.2⟩
  · intro store method attempt both opens
    have onward := Onward.attempting opens
    exact ⟨onward.returns, onward.issued both.2⟩
  · intro store result both _
    have onward := Onward.applying both.1 result
    exact ⟨onward.returns, onward.issued both.2⟩

/-- The step does not leave the invoice cancelled. -/
def LeavesUncancelled (env : Env) (store : Store) (operation : NativeOperation π) : Prop :=
  (operation.perform env store).invoice.status ≠ .cancelled

instance (env : Env) (store : Store) (operation : NativeOperation π) :
    Decidable (LeavesUncancelled env store operation) :=
  inferInstanceAs (Decidable (_ ≠ _))

theorem issued_run {store : Store} {operations : List (NativeOperation π)}
    (reachable : NativeReachable π env store)
    (issued : store.invoice.status ≠ .draft ∧ store.invoice.status ≠ .cancelled)
    (uncancelled : Runs.Throughout (NativeOperation.perform env) (LeavesUncancelled env) operations
      store) :
    Runs.Always (NativeOperation.perform env)
      (fun store => NativeReachable π env store ∧
        store.invoice.status ≠ .draft ∧ store.invoice.status ≠ .cancelled) operations store := by
  refine Runs.always_of_throughout ?_ ⟨reachable, issued⟩ uncancelled
  intro next operation holds leaves
  exact ⟨.performed operation next holds.1, perform_issued operation holds.1 holds.2.1, leaves⟩

end Runs

/-! ## What is accepted and what can be approved, over whole runs -/

/-- Whatever the rows, a check that is accepted can be approved at once exactly if the invoice is
payable, its balance can be written down and the sums with it stay within the total; with safe
figures, exactly if it is payable.  On a native invoice over a safe amount, wherever its operations
have taken it, that leaves out the drafts and the cancelled ones; so along a run from an issued
invoice that nothing cancels, every accepted check can be approved. -/
theorem accepted_check_approved_iff {store : Store} {id : String}
    {input : CreateCheckSubmissionInput} {review : Review} (fresh : review.Fresh store)
    (accepted : ((PublicInvoicesService.submitCheck
      (PublicInvoicesService.resolvedScope store.invoice) id input).exec store).outcome = .ok id) :
    let scope := PublicInvoicesService.resolvedScope store.invoice
    let next := ((PublicInvoicesService.submitCheck scope id input).exec store).store
    let check := PublicInvoicesService.submission scope id input store.invoice
    (Approves review next check ↔ isPayable store.invoice.status = true ∧
        isSafeInteger store.invoice.balanceMinor = true ∧
        InvoicesService.BalanceFits store.invoice) ∧
      (InvoicesService.SafeFigures store.invoice →
        (Approves review next check ↔ isPayable store.invoice.status = true)) ∧
      (∀ π env, NativeReachable π env store → isSafeInteger store.invoice.totalMinor = true →
        (Approves review next check ↔
          store.invoice.status ≠ .draft ∧ store.invoice.status ≠ .cancelled)) ∧
      ∀ π env start (operations : List (NativeOperation π)), NativeReachable π env start →
        start.invoice.status ≠ .draft ∧ start.invoice.status ≠ .cancelled →
        Runs.Throughout (NativeOperation.perform env) (LeavesUncancelled env) operations start →
        store ∈ Runs.visited (NativeOperation.perform env) operations start →
        isSafeInteger store.invoice.totalMinor = true → Approves review next check := by
  intro scope next check
  have submitted := PublicInvoicesService.submitCheck_ok accepted
  have added : next = { store with checkSubmissions := store.checkSubmissions ++ [check] } :=
    submitted.added
  have still : review.Fresh next := by
    rw [added]
    exact fresh
  have within : check.amountMinor ≤ next.invoice.balanceMinor := by
    rw [added]
    exact le_refl _
  have general : Approves review next check ↔ isPayable store.invoice.status = true ∧
      isSafeInteger store.invoice.balanceMinor = true ∧
      InvoicesService.BalanceFits store.invoice := by
    have approves := approves_iff submitted.waits still within
    have kept : next.invoice = store.invoice := by rw [added]
    rw [kept] at approves
    rw [approves, and_left_comm, ← InvoicesService.grants_balance_iff]
    rfl
  have exact_ : InvoicesService.SafeFigures store.invoice →
      (Approves review next check ↔ isPayable store.invoice.status = true) := by
    intro figures
    rw [general]
    exact and_iff_left ⟨figures.balance, figures.balanceFits submitted.owing⟩
  have native : ∀ π env, NativeReachable π env store →
      isSafeInteger store.invoice.totalMinor = true →
      (Approves review next check ↔
        store.invoice.status ≠ .draft ∧ store.invoice.status ≠ .cancelled) := by
    intro π env reachable safe
    rw [← reachable.isPayable_iff submitted.owing safe]
    exact exact_ (InvoicesService.safeFigures_of_within safe submitted.owing.le
      reachable.balance_le)
  refine ⟨general, exact_, native, ?_⟩
  intro π env start operations reachable issued uncancelled seen safe
  have always := Runs.always_iff_visited.mp (issued_run reachable issued uncancelled) store seen
  exact (native π env always.1 safe).mpr always.2

def sampleCheckInput : CreateCheckSubmissionInput where
  checkNumber := "1001"
  customerNote := none

def sampleReview : Review where
  reviewerId := "staff"
  paymentId := "m1"
  uuid := "m1"
  note := none
  now := 0

theorem accepted_check_approved_iff_sample :
    let store := (sampleIssue GatewayWebhookEvent).perform sampleEnv sampleInvoice
    let scope := PublicInvoicesService.resolvedScope store.invoice
    Approves sampleReview
      ((PublicInvoicesService.submitCheck scope "check" sampleCheckInput).exec store).store
      (PublicInvoicesService.submission scope "check" sampleCheckInput store.invoice) := by
  intro store scope
  have fresh : sampleReview.Fresh store := by
    intro payment member
    cases member
  have accepted : ((PublicInvoicesService.submitCheck scope "check" sampleCheckInput).exec
      store).outcome = .ok "check" := rfl
  exact (accepted_check_approved_iff fresh accepted).1.mpr
    ⟨rfl, by decide +kernel, by decide +kernel⟩

/-- An invoice is issued and cancelled.  The check its customer then hands in is accepted, and
nobody can approve it. -/
theorem cancelled_check_accepted :
    let operations := [sampleIssue GatewayWebhookEvent, sampleCancel GatewayWebhookEvent]
    let store := NativeOperation.run sampleEnv operations sampleInvoice
    let scope := PublicInvoicesService.resolvedScope store.invoice
    let submitted := (PublicInvoicesService.submitCheck scope "check" sampleCheckInput).exec store
    let approved := (sampleReview.approve store.invoice.brandId "check").exec submitted.store
    NativeReachable GatewayWebhookEvent sampleEnv store ∧ submitted.outcome = .ok "check" ∧
      approved.outcome = .error (.conflict "RECORD_PAYMENT is not permitted from CANCELLED") := by
  refine ⟨(sampleInvoice_reachable GatewayWebhookEvent).run _, rfl, ?_⟩
  rfl

end MultiBrandInvoicing
