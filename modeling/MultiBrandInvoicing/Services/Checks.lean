import MultiBrandInvoicing.Money.AmountText
import MultiBrandInvoicing.Services.Invoices

/-!
# Check review

`apps/api/src/checks/checks.service.ts`.  Approving a check records its payment in
one transaction and closes the submission in another, so that the payment stands
even where the review is lost to a concurrent one.
-/

set_option autoImplicit false

namespace MultiBrandInvoicing

open ReadCommitted Program

namespace ChecksService

def isPending (submission : CheckSubmission) : Bool :=
  submission.status = .submitted || submission.status = .underReview

def submission? (store : Store) (brandId id : String) : Option CheckSubmission :=
  store.checkSubmissions.find? fun submission =>
    submission.id = id && submission.brandId = brandId

def requirePending (brandId id : String) : Tx (CheckSubmission × Invoice) := do
  let store ← read
  match submission? store brandId id with
  | none => .throw (.notFound "check submission not found")
  | some submission => do
      commitNow
      require (isPending submission) (.conflict "this check has already been reviewed")
      pure (submission, store.invoice)

def finishReview (scope : Scope) (brandId id : String) (status : CheckStatus)
    (note : Option String) (now : Time) : Tx Unit :=
  match scope with
  | .publicPayer _ => .throw (.conflict "check review requires an authenticated session")
  | .user reviewerId => do
      let matched ← updateManyCheckSubmissions id
        (fun submission =>
          submission.id = id && submission.brandId = brandId && isPending submission)
        fun submission =>
          { submission with
            status, reviewedBy := some reviewerId, reviewNote := note, reviewedAt := some now }
      require matched (.conflict "this check changed while saving — reload and try again")

def checkPayment (submission : CheckSubmission) (amount : String) (now : Time) :
    RecordManualPaymentInput where
  amount := amount
  method := .check
  paidAt := now
  reference := some submission.checkNumber

def approve (scope : Scope) (brandId id paymentId uuid : String) (note : Option String)
    (now : Time) : Tx Unit := do
  let (submission, invoice) ← requirePending brandId id
  let amount ← ofExcept .money
    (formatMinor (toNumber submission.amountMinor) (toCurrencyCode invoice.currency))
  let _ ← InvoicesService.recordManualPayment scope brandId invoice.id paymentId uuid
    (checkPayment submission amount now)
  finishReview scope brandId id .approved note now

def reject (scope : Scope) (brandId id : String) (note : Option String) (now : Time) :
    Tx Unit := do
  require (note.any (· ≠ "")) (.conflict "a reason is required to reject a check")
  let _ ← requirePending brandId id
  finishReview scope brandId id .rejected note now

/-! ## What a review does to the rows -/

theorem finishReview_cases (scope : Scope) (brandId id : String) (status : CheckStatus)
    (note : Option String) (now : Time) (committed view : Store) :
    (∃ error, (finishReview scope brandId id status note now).execFrom committed view =
        ⟨.error error, committed, committed, []⟩) ∨
      ∃ reviewed, view.SameButSubmissions reviewed ∧
        (finishReview scope brandId id status note now).execFrom committed view =
          ⟨.ok (), committed, reviewed, []⟩ := by
  cases scope with
  | publicPayer payer => exact .inl ⟨_, rfl⟩
  | user reviewerId =>
      let applies := fun submission : CheckSubmission =>
        submission.id = id && submission.brandId = brandId && isPending submission
      by_cases pending : view.checkSubmissions.any applies = true
      · refine .inr ⟨view.reviseSubmissions applies fun submission =>
          { submission with
            status, reviewedBy := some reviewerId, reviewNote := note
            reviewedAt := some now }, rfl, ?_⟩
        simp [finishReview, updateManyCheckSubmissions, applies, pending]
      · refine .inl ⟨.conflict "this check changed while saving — reload and try again", ?_⟩
        simp [finishReview, updateManyCheckSubmissions, applies, pending]

theorem requirePending_cases (brandId id : String) (store : Store) :
    (∃ error, (requirePending brandId id).execFrom store store =
        ⟨.error error, store, store, []⟩ ∧
        ∀ submission ∈ submission? store brandId id, isPending submission = false) ∨
      ∃ submission, submission? store brandId id = some submission ∧
        isPending submission = true ∧
        (requirePending brandId id).execFrom store store =
          ⟨.ok (submission, store.invoice), store, store, []⟩ := by
  cases row : submission? store brandId id with
  | none => exact .inl ⟨_, by simp [requirePending, row]; rfl, by simp⟩
  | some submission =>
      by_cases pending : isPending submission = true
      · exact .inr ⟨submission, rfl, pending,
          by simp [requirePending, execFrom_bind, row, pending]⟩
      · exact .inl ⟨.conflict "this check has already been reviewed",
          by simp [requirePending, execFrom_bind, row, pending], by simpa using pending⟩

theorem reject_cases (scope : Scope) (brandId id : String) (note : Option String) (now : Time)
    (store : Store) :
    store.SameButSubmissions ((reject scope brandId id note now).exec store).store := by
  by_cases given : note.any (· ≠ "") = true
  · rcases requirePending_cases brandId id store with
      ⟨error, refused, _⟩ | ⟨submission, _, _, found⟩
    · simp only [exec, reject, execFrom_bind, require_execFrom, given, if_true,
        Execution.andThen_ok, Execution.after_nil, refused, Execution.andThen_error,
        Execution.store_error, Store.sameButSubmissions_self]
    · rcases finishReview_cases scope brandId id .rejected note now store store with
        ⟨error, refused⟩ | ⟨reviewed, same, finished⟩
      · simp only [exec, reject, execFrom_bind, require_execFrom, given, if_true,
          Execution.andThen_ok, Execution.after_nil, found, refused, Execution.store_error,
          Store.sameButSubmissions_self]
      · simp only [exec, reject, execFrom_bind, require_execFrom, given, if_true,
          Execution.andThen_ok, Execution.after_nil, found, finished, Execution.store_ok, same]
  · simp only [exec, reject, execFrom_bind, require_execFrom, given, if_false,
      Bool.false_eq_true, Execution.andThen_error, Execution.store_error,
      Store.sameButSubmissions_self]

/-- The payment an approval records, if it is not refused. -/
def recorded? (store : Store) (brandId id paymentId uuid : String) (now : Time) :
    Option InvoicesService.Recording := do
  let submission ← submission? store brandId id
  guard (isPending submission)
  let amount ← (formatMinor (toNumber submission.amountMinor)
    (toCurrencyCode store.invoice.currency)).toOption
  InvoicesService.recorded? store brandId store.invoice.id paymentId uuid
    (checkPayment submission amount now)

/-- An approval that changes anything has recorded its payment, whether or not it could
close the submission afterwards. -/
theorem approve_cases (scope : Scope) (brandId id paymentId uuid : String)
    (note : Option String) (now : Time) (store : Store) :
    (recorded? store brandId id paymentId uuid now = none ∧
        ((approve scope brandId id paymentId uuid note now).exec store).store = store) ∨
      ∃ input amountMinor payments event,
        recorded? store brandId id paymentId uuid now = some ⟨amountMinor, payments⟩ ∧
        InvoicesService.Grants store.invoice amountMinor ∧
        payments.rows = store.payments.rows ++
          [InvoicesService.manualPayment store paymentId uuid input amountMinor] ∧
        Store.SameButSubmissions
          (InvoicesService.Store.recorded store payments amountMinor input.paidAt event)
          ((approve scope brandId id paymentId uuid note now).exec store).store := by
  rcases requirePending_cases brandId id store with
    ⟨error, refused, reviewed⟩ | ⟨submission, row, pending, found⟩
  · left
    constructor
    · cases row : submission? store brandId id with
      | none => simp [recorded?, row]
      | some submission => simp [recorded?, row, reviewed submission row]
    · simp only [exec, approve, execFrom_bind, refused, Execution.andThen_error,
        Execution.store_error]
  · cases formatted :
        formatMinor (toNumber submission.amountMinor) (toCurrencyCode store.invoice.currency) with
    | error error =>
        left
        simp [exec, approve, execFrom_bind, recorded?, row, pending, found, formatted,
          Except.toOption]
    | ok amount =>
        have asked : recorded? store brandId id paymentId uuid now =
            InvoicesService.recorded? store brandId store.invoice.id paymentId uuid
              (checkPayment submission amount now) := by
          simp [recorded?, row, pending, formatted, Except.toOption]
        rcases InvoicesService.recordManualPayment_cases scope brandId store.invoice.id paymentId
            uuid (checkPayment submission amount now) store with
          ⟨records, error, refused⟩ |
            ⟨amountMinor, payments, event, records, _, granted, rows, _, recorded⟩
        · left
          refine ⟨asked.trans records, ?_⟩
          simp [exec, approve, execFrom_bind, found, formatted, refused]
        · right
          refine ⟨checkPayment submission amount now, amountMinor, payments, event,
            asked.trans records, granted, rows, ?_⟩
          let afterPayment := InvoicesService.Store.recorded store payments amountMinor
            (checkPayment submission amount now).paidAt event
          rcases finishReview_cases scope brandId id .approved note now afterPayment
              afterPayment with ⟨error, lost⟩ | ⟨reviewed, same, finished⟩
          · have kept := afterPayment.sameButSubmissions_self
            simpa [exec, approve, execFrom_bind, found, formatted, recorded, lost, afterPayment]
              using kept
          · simpa [exec, approve, execFrom_bind, found, formatted, recorded, finished,
              afterPayment] using same

/-! ## The amount an approval asks for -/

/-- What `approve` does with the submission it has found, `record` standing for its call of
`recordManualPayment`. -/
def approveFound (record : String → RecordManualPaymentInput → Tx Invoice) (scope : Scope)
    (brandId id : String) (note : Option String) (now : Time) (submission : CheckSubmission)
    (invoice : Invoice) : Tx Unit := do
  let amount ← ofExcept .money
    (formatMinor (toNumber submission.amountMinor) (toCurrencyCode invoice.currency))
  let _ ← record invoice.id (checkPayment submission amount now)
  finishReview scope brandId id .approved note now

/-- The request is for exactly the submitted amount, whatever currency it is read in. -/
def AsksFor (input : RecordManualPaymentInput) (submission : CheckSubmission) : Prop :=
  ∀ currency, parseMinor input.amount currency = .ok submission.amountMinor

/-- A safe amount is read back from its text.  So an approval asks for exactly the amount that
was submitted, or, where that is no safe integer, ends before it asks for anything. -/
theorem approval_asks_submitted_amount :
    (∀ amount currency, isSafeInteger amount = true →
      ∃ text, formatMinorInNumbers amount currency = .ok text ∧
        parseMinor text currency = .ok amount) ∧
      (∀ (scope : Scope) (brandId id paymentId uuid : String) (note : Option String) (now : Time),
        approve scope brandId id paymentId uuid note now =
          requirePending brandId id >>= fun found =>
            approveFound
              (fun invoiceId =>
                InvoicesService.recordManualPayment scope brandId invoiceId paymentId uuid)
              scope brandId id note now found.1 found.2) ∧
      ∀ (record : String → RecordManualPaymentInput → Tx Invoice) (scope : Scope)
        (brandId id : String) (note : Option String) (now : Time) (submission : CheckSubmission)
        (invoice : Invoice),
        (isSafeInteger submission.amountMinor = true ∧
          ∃ input, AsksFor input submission ∧
            approveFound record scope brandId id note now submission invoice =
              record invoice.id input >>= fun _ =>
                finishReview scope brandId id .approved note now) ∨
        (isSafeInteger submission.amountMinor = false ∧
          ∃ error, approveFound record scope brandId id note now submission invoice =
            .throw (.money error)) := by
  refine ⟨?_, fun _ _ _ _ _ _ _ => rfl, ?_⟩
  · intro amount currency safe
    obtain ⟨text, formatted⟩ := formatMinor_of_isSafeInteger safe currency
    exact ⟨text, (formatMinorInNumbers_eq amount currency).trans formatted,
      parseMinor_formatMinor formatted currency⟩
  · intro record scope brandId id note now submission invoice
    cases formatted : formatMinor (toNumber submission.amountMinor) (toCurrencyCode invoice.currency) with
    | ok text =>
        have safe := (formatMinor_toList formatted).1
        rw [isSafeInteger_toNumber] at safe
        refine .inl ⟨safe, checkPayment submission text now, ?_, ?_⟩
        · rw [toNumber_of_safe safe] at formatted
          exact parseMinor_formatMinor formatted
        · simp only [approveFound, formatted, ofExcept_ok, done_bind]
    | error error =>
        refine .inr ⟨?_, error, ?_⟩
        · by_contra unsafe_
          have safe : isSafeInteger (toNumber submission.amountMinor) = true := by
            simpa using unsafe_
          obtain ⟨text, ok⟩ := formatMinor_of_isSafeInteger safe (toCurrencyCode invoice.currency)
          rw [formatted] at ok
          cases ok
        · simp only [approveFound, formatted, ofExcept_error, throw_bind]

theorem approval_asks_submitted_amount_sample :
    ∃ text, formatMinorInNumbers (-905) .usd = .ok text ∧ parseMinor text .usd = .ok (-905) :=
  approval_asks_submitted_amount.1 (-905) .usd (by decide)

end ChecksService

end MultiBrandInvoicing
