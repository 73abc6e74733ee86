import MultiBrandInvoicing.Services.Checks
import MultiBrandInvoicing.Services.PaymentEffects
import MultiBrandInvoicing.Services.PublicInvoices

/-!
# The operations on a native invoice

Everything that can be asked of an invoice created here, as one alphabet.  Performed
one after another, an operation is a quiet step, or it applies one gateway result,
possibly to an attempt it has just opened.  `perform_cases` says which, and every
statement about runs is derived from it.
-/

set_option autoImplicit false

namespace MultiBrandInvoicing

open ReadCommitted Program PaymentsService

/-- An operation with everything it takes from outside the rows: the request, the
gateway as it answers this time, the clock and the identifiers it draws. -/
inductive NativeOperation (π : Type) where
  | issue (scope : Scope) (brandId id : String) (now : Time)
  | view (enrich : Tx Bool) (now : Time) (stripeAccountId : Option String) (scope : PublicScope)
  | createIntent (gateway : PaymentGatewayPort π) (paymentId : String) (scope : PublicScope)
      (method : PaymentMethod) (attemptNonce : String)
  | handleWebhook (gateway : PaymentGatewayPort π) (rawBody : π)
      (headers : List (String × String)) (brandId : Option String)
  | confirmClientResult (gateway : PaymentGatewayPort π) (now : Time) (scope : PublicScope)
      (gatewayReference : String)
  | recordManualPayment (scope : Scope) (brandId id paymentId uuid : String)
      (input : RecordManualPaymentInput)
  | submitCheck (scope : PublicScope) (id : String) (input : CreateCheckSubmissionInput)
  | approve (scope : Scope) (brandId id paymentId uuid : String) (note : Option String)
      (now : Time)
  | reject (scope : Scope) (brandId id : String) (note : Option String) (now : Time)
  | cancel (scope : Scope) (brandId id : String) (now : Time)

namespace NativeOperation

variable {π : Type} (env : Env)

/-- The rows after the operation, run with nothing beside it. -/
def perform (store : Store) (operation : NativeOperation π) : Store :=
  match operation with
  | issue scope brandId id now => ((InvoicesService.issue scope brandId id now).exec store).store
  | view enrich now account scope =>
      ((PublicInvoicesService.view enrich now account scope).exec store).store
  | createIntent gateway paymentId scope method attemptNonce =>
      ((PaymentsService.createIntent env gateway paymentId scope method attemptNonce).exec
        store).store
  | handleWebhook gateway rawBody headers brandId =>
      ((PaymentsService.handleWebhook gateway rawBody headers brandId).exec store).store
  | confirmClientResult gateway now scope gatewayReference =>
      ((PaymentsService.confirmClientResult gateway now scope gatewayReference).exec store).store
  | recordManualPayment scope brandId id paymentId uuid input =>
      ((InvoicesService.recordManualPayment scope brandId id paymentId uuid input).exec
        store).store
  | submitCheck scope id input =>
      ((PublicInvoicesService.submitCheck scope id input).exec store).store
  | approve scope brandId id paymentId uuid note now =>
      ((ChecksService.approve scope brandId id paymentId uuid note now).exec store).store
  | reject scope brandId id note now =>
      ((ChecksService.reject scope brandId id note now).exec store).store
  | cancel scope brandId id now =>
      ((InvoicesService.cancel scope brandId id now).exec store).store

def run (operations : List (NativeOperation π)) (store : Store) : Store :=
  operations.foldl (perform env) store

/-- The gateway result the operation applies, with the rows it applies it to. -/
def result? (store : Store) (operation : NativeOperation π) : Option (Store × GatewayResult) :=
  match operation with
  | createIntent gateway paymentId scope method attemptNonce =>
      (attempt? env gateway store paymentId scope method attemptNonce).map fun attempt =>
        (store.attempting attempt.payments, attempt.result)
  | handleWebhook gateway rawBody headers brandId =>
      (webhookResult? gateway store rawBody headers brandId).map fun result => (store, result)
  | confirmClientResult gateway now scope gatewayReference =>
      (confirmedResult? gateway store now scope gatewayReference).map fun result => (store, result)
  | _ => none

def recorded? (store : Store) : NativeOperation π → Option Int
  | recordManualPayment _ brandId id paymentId uuid input =>
      (InvoicesService.recorded? store brandId id paymentId uuid input).map
        InvoicesService.Recording.amountMinor
  | approve _ brandId id paymentId uuid _ now =>
      (ChecksService.recorded? store brandId id paymentId uuid now).map
        InvoicesService.Recording.amountMinor
  | _ => none

def recordsPayment : NativeOperation π → Bool
  | recordManualPayment _ _ _ _ _ _ => true
  | approve _ _ _ _ _ _ _ => true
  | _ => false

def isView : NativeOperation π → Bool
  | view _ _ _ _ => true
  | _ => false

def isCancel : NativeOperation π → Bool
  | cancel _ _ _ _ => true
  | _ => false

def Applies (R : Store → GatewayResult → Prop) (store : Store) (operation : NativeOperation π) :
    Prop :=
  ∀ applied ∈ operation.result? env store, R applied.1 applied.2

instance {R : Store → GatewayResult → Prop} [∀ store result, Decidable (R store result)]
    (store : Store) (operation : NativeOperation π) : Decidable (Applies env R store operation) :=
  inferInstanceAs (Decidable (∀ applied ∈ operation.result? env store, R applied.1 applied.2))

def Records (R : Invoice → Int → Prop) (store : Store) (operation : NativeOperation π) : Prop :=
  ∀ amountMinor ∈ operation.recorded? store, R store.invoice amountMinor

instance {R : Invoice → Int → Prop} [∀ invoice amountMinor, Decidable (R invoice amountMinor)]
    (store : Store) (operation : NativeOperation π) : Decidable (Records R store operation) :=
  inferInstanceAs (Decidable (∀ amountMinor ∈ operation.recorded? store,
    R store.invoice amountMinor))

theorem granted_of_recorded? {store : Store} {operation : NativeOperation π} {amountMinor : Int}
    (records : operation.recorded? store = some amountMinor) :
    InvoicesService.Grants store.invoice amountMinor := by
  cases operation with
  | recordManualPayment scope brandId id paymentId uuid input =>
      obtain ⟨recording, recorded, rfl⟩ := Option.map_eq_some_iff.mp records
      exact InvoicesService.granted_of_recorded? recorded
  | approve scope brandId id paymentId uuid note now =>
      obtain ⟨recording, recorded, rfl⟩ := Option.map_eq_some_iff.mp records
      simp only [ChecksService.recorded?, Option.bind_eq_bind, Option.bind_eq_some_iff] at recorded
      obtain ⟨_, _, _, _, _, _, recorded⟩ := recorded
      exact InvoicesService.granted_of_recorded? recorded
  | _ => cases records

theorem Records.of_granted {R S : Invoice → Int → Prop} {store : Store}
    {operation : NativeOperation π} (records : operation.Records R store)
    (implied : ∀ amountMinor, InvoicesService.Grants store.invoice amountMinor →
      R store.invoice amountMinor → S store.invoice amountMinor) : operation.Records S store :=
  fun amountMinor recorded =>
    implied amountMinor (granted_of_recorded? recorded) (records amountMinor recorded)

theorem recorded?_eq_none_of_result {store : Store} {operation : NativeOperation π}
    {applied : Store × GatewayResult} (brings : operation.result? env store = some applied) :
    operation.recorded? store = none := by
  cases operation <;> first | rfl | cases brings

end NativeOperation

/-! ## What an operation can do -/

/-- The steps that apply no gateway result, by the amount they record as paid. -/
inductive QuietStep (store : Store) : Option Int → Store → Prop where
  | kept (next : Store) (same : store.SameButSubmissions next) : QuietStep store none next
  | issued (scope : Scope) (now : Time) (draft : store.invoice.status = .draft)
      (lines : 0 < store.lineItems.length) (total : 0 < store.invoice.totalMinor) :
      QuietStep store none (InvoicesService.Store.issued store scope now)
  | viewed (now : Time) (sent : store.invoice.status = .sent) :
      QuietStep store none (PublicInvoicesService.Store.viewed store now)
  | recorded (paymentId uuid : String) (input : RecordManualPaymentInput) (amountMinor : Int)
      (payments : PaymentTable) (event : InvoiceEvent) (next : Store)
      (granted : InvoicesService.Grants store.invoice amountMinor)
      (rows : payments.rows = store.payments.rows ++
        [InvoicesService.manualPayment store paymentId uuid input amountMinor])
      (same : Store.SameButSubmissions
        (InvoicesService.Store.recorded store payments amountMinor input.paidAt event) next) :
      QuietStep store (some amountMinor) next
  | cancelled (scope : Scope) (now : Time) (listed : store.invoice.status ∈ allowed .cancel)
      (unpaid : store.invoice.totalMinor ≤ store.invoice.balanceMinor) :
      QuietStep store none (InvoicesService.Store.cancelled store scope now)

structure About (store : Store) (result : GatewayResult) : Prop where
  member : result.payment ∈ store.payments.rows
  referenced : result.payment.gatewayReference.isSome = true

theorem Store.SameButSubmissions.payments {store next : Store}
    (same : store.SameButSubmissions next) : next.payments = store.payments := by
  rw [same]

theorem Store.SameButSubmissions.invoice {store next : Store}
    (same : store.SameButSubmissions next) : next.invoice = store.invoice := by
  rw [same]

theorem QuietStep.of_eq {store next : Store} (same : next = store) : QuietStep store none next :=
  .kept next (same ▸ store.sameButSubmissions_self)

theorem webhookResult?_about {π : Type} {gateway : PaymentGatewayPort π} {store : Store}
    {rawBody : π} {headers : List (String × String)} {brandId : Option String}
    {result : GatewayResult}
    (delivered : webhookResult? gateway store rawBody headers brandId = some result) :
    About store result := by
  simp only [webhookResult?, Option.bind_eq_bind, Option.bind_eq_some_iff] at delivered
  obtain ⟨⟨event, attributed⟩, _, payment, named, _, _, same⟩ := delivered
  cases same
  have reference := List.find?_some named
  simp only [decide_eq_true_eq] at reference
  exact ⟨List.mem_of_find?_eq_some named, by simp [reference]⟩

theorem confirmedResult?_about {π : Type} {gateway : PaymentGatewayPort π} {store : Store}
    {now : Time} {scope : PublicScope} {gatewayReference : String} {result : GatewayResult}
    (confirmed : confirmedResult? gateway store now scope gatewayReference = some result) :
    About store result := by
  simp only [confirmedResult?, Option.bind_eq_bind, Option.bind_eq_some_iff] at confirmed
  obtain ⟨payment, named, _, _, intent, _, _, _, same⟩ := confirmed
  cases same
  have reference := List.find?_some named
  simp only [Bool.and_eq_true, decide_eq_true_eq] at reference
  exact ⟨List.mem_of_find?_eq_some named, by simp [reference.2]⟩

namespace NativeOperation

variable {π : Type} (env : Env)

/-- Where an operation's gateway result comes from. -/
inductive Resolves (store : Store) : Store → GatewayResult → Prop where
  | delivered (result : GatewayResult) (about : About store result) : Resolves store store result
  | attempted (method : PaymentMethod) (attempt : OpenedAttempt)
      (opens : Opens store method attempt) :
      Resolves store (store.attempting attempt.payments) attempt.result

/-- A view and a cancellation apart, an operation applies the result it brings, and is quiet and
cancels nothing when it brings none. -/
theorem perform_cases_otherwise (operation : NativeOperation π) (store : Store)
    (shows : operation.isView = false) (cancels : operation.isCancel = false) :
    (∃ before result, operation.result? env store = some (before, result) ∧
        Resolves store before result ∧ operation.perform env store = before.apply result) ∨
      operation.result? env store = none ∧
        QuietStep store (operation.recorded? store) (operation.perform env store) ∧
        ((operation.perform env store).payments = store.payments ∨
          operation.recordsPayment = true) ∧
        ((operation.perform env store).invoice = store.invoice ∨
          (operation.perform env store).invoice.status ≠ .cancelled) := by
  cases operation with
  | view enrich now account scope => cases shows
  | cancel scope brandId id now => cases cancels
  | issue scope brandId id now =>
      refine .inr ⟨rfl, ?_⟩
      rcases InvoicesService.issue_cases scope brandId id now store with
        same | ⟨draft, lines, total, done⟩
      · exact ⟨.of_eq same, .inl (congrArg Store.payments same),
          .inl (congrArg Store.invoice same)⟩
      · simp only [perform, done]
        exact ⟨.issued scope now draft lines total, .inl rfl,
          .inr (by simp [InvoicesService.Store.issued])⟩
  | createIntent gateway paymentId scope method attemptNonce =>
      simp only [perform, createIntent_store, result?]
      cases opened : attempt? env gateway store paymentId scope method attemptNonce with
      | none => exact .inr ⟨rfl, .of_eq rfl, .inl rfl, .inl rfl⟩
      | some attempt =>
          exact .inl ⟨_, _, rfl, .attempted method attempt (attempt?_opens env gateway opened), rfl⟩
  | handleWebhook gateway rawBody headers brandId =>
      simp only [perform, handleWebhook_store, result?]
      cases delivered : webhookResult? gateway store rawBody headers brandId with
      | none => exact .inr ⟨rfl, .of_eq rfl, .inl rfl, .inl rfl⟩
      | some result =>
          exact .inl ⟨_, _, rfl, .delivered result (webhookResult?_about delivered), rfl⟩
  | confirmClientResult gateway now scope gatewayReference =>
      simp only [perform, confirmClientResult_store, result?]
      cases confirmed : confirmedResult? gateway store now scope gatewayReference with
      | none => exact .inr ⟨rfl, .of_eq rfl, .inl rfl, .inl rfl⟩
      | some result =>
          exact .inl ⟨_, _, rfl, .delivered result (confirmedResult?_about confirmed), rfl⟩
  | recordManualPayment scope brandId id paymentId uuid input =>
      simp only [perform, exec, recorded?]
      refine .inr ⟨rfl, ?_⟩
      rcases InvoicesService.recordManualPayment_cases scope brandId id paymentId uuid input store
        with ⟨records, error, refused⟩ |
          ⟨amountMinor, payments, event, records, _, granted, rows, _, done⟩
      · rw [refused, records]
        exact ⟨.of_eq rfl, .inr rfl, .inl rfl⟩
      · rw [done, records]
        exact ⟨.recorded paymentId uuid input amountMinor payments event _ granted rows
          (Store.sameButSubmissions_self _), .inr rfl,
          .inr (InvoicesService.status_afterManualPayment _ _ _)⟩
  | submitCheck scope id input =>
      have same := PublicInvoicesService.submitCheck_cases scope id input store
      exact .inr ⟨rfl, .kept _ same, .inl same.payments, .inl same.invoice⟩
  | approve scope brandId id paymentId uuid note now =>
      refine .inr ⟨rfl, ?_⟩
      simp only [recorded?]
      rcases ChecksService.approve_cases scope brandId id paymentId uuid note now store with
        ⟨records, same⟩ | ⟨input, amountMinor, payments, event, records, granted, rows, done⟩
      · rw [records]
        exact ⟨.of_eq same, .inr rfl, .inl (congrArg Store.invoice same)⟩
      · rw [records]
        refine ⟨.recorded paymentId uuid input amountMinor payments event _ granted rows done,
          .inr rfl, .inr ?_⟩
        have recorded := Store.SameButSubmissions.invoice done
        simp only [perform, recorded]
        exact InvoicesService.status_afterManualPayment _ _ _
  | reject scope brandId id note now =>
      have same := ChecksService.reject_cases scope brandId id note now store
      exact .inr ⟨rfl, .kept _ same, .inl same.payments, .inl same.invoice⟩

/-- An operation applies the result it brings, and is quiet when it brings none; then it adds
no payment unless it records one. -/
theorem perform_cases_of_lines (operation : NativeOperation π) (store : Store)
    (lined : (store.invoice.isPushed && store.lineItems.isEmpty) = false) :
    (∃ before result, operation.result? env store = some (before, result) ∧
        Resolves store before result ∧ operation.perform env store = before.apply result) ∨
      operation.result? env store = none ∧
        QuietStep store (operation.recorded? store) (operation.perform env store) ∧
        ((operation.perform env store).payments = store.payments ∨
          operation.recordsPayment = true) := by
  cases shows : operation.isView with
  | true =>
      cases operation with
      | view enrich now account scope =>
          refine .inr ⟨rfl, ?_⟩
          rcases PublicInvoicesService.view_cases_of_lines enrich now account scope store lined
            with same | ⟨sent, done⟩
          · exact ⟨.of_eq same, .inl (congrArg Store.payments same)⟩
          · simp only [perform, done]
            exact ⟨.viewed now sent, .inl rfl⟩
      | _ => cases shows
  | false =>
      cases cancels : operation.isCancel with
      | true =>
          cases operation with
          | cancel scope brandId id now =>
              refine .inr ⟨rfl, ?_⟩
              rcases InvoicesService.cancel_cases scope brandId id now store with
                same | ⟨listed, unpaid, done⟩
              · exact ⟨.of_eq same, .inl (congrArg Store.payments same)⟩
              · simp only [perform, done]
                exact ⟨.cancelled scope now listed unpaid, .inl rfl⟩
          | _ => cases cancels
      | false =>
          rcases operation.perform_cases_otherwise env store shows cancels with
            applies | ⟨brings, step, adds, _⟩
          · exact .inl applies
          · exact .inr ⟨brings, step, adds⟩

theorem perform_cases (operation : NativeOperation π) (store : Store)
    (native : store.invoice.isPushed = false) :
    (∃ before result, operation.result? env store = some (before, result) ∧
        Resolves store before result ∧ operation.perform env store = before.apply result) ∨
      operation.result? env store = none ∧
        QuietStep store (operation.recorded? store) (operation.perform env store) := by
  rcases operation.perform_cases_of_lines env store (by rw [native, Bool.false_and]) with
    applies | ⟨brings, step, _⟩
  · exact .inl applies
  · exact .inr ⟨brings, step⟩

end NativeOperation

end MultiBrandInvoicing
