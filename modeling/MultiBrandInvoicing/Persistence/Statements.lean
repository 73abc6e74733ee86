import MultiBrandInvoicing.Persistence.Rows
import MultiBrandInvoicing.ReadCommitted.Journal

/-!
# The statements the services are written in

Each Prisma call of the source is one statement here, with the rows it locks, the
condition in its WHERE clause and the columns it sets.  `Effect` labels the writes,
so that a status change carries the transition it was computed from, and names the
messages that leave the database.
-/

set_option autoImplicit false

namespace MultiBrandInvoicing

open ReadCommitted Program

inductive SyncJob where
  | pushInvoice (brandId invoiceId : String)
  | pushPayment (brandId paymentId : String)
  deriving DecidableEq, Repr

inductive Effect where
  | statusWrite (transition : InvoiceTransition) (context : TransitionContext)
      (target : InvoiceStatus)
  | rowWrite
  | gatewayCreateIntent (input : CreateIntentInput)
  | enqueue (job : SyncJob)
  deriving DecidableEq, Repr

inductive RowKey where
  | invoice
  | lineItem (position : Nat)
  | payment (id : String)
  | paymentIdempotencyKey (value : String)
  | paymentGatewayReference (value : String)
  | checkSubmission (id : String)
  deriving DecidableEq, Repr

inductive ServiceError where
  | badRequest (message : String)
  | conflict (message : String)
  | notFound (message : String)
  | money (error : MoneyError)
  | gateway (failure : GatewayFailure)
  | integration (message : String)
  | database (message : String)
  | uniqueViolation
  | recordNotFound
  deriving DecidableEq, Repr

abbrev Tx := Program Store RowKey Effect ServiceError

structure PublicScope where
  brandId : String
  invoiceId : String
  deriving DecidableEq, Repr

inductive Scope where
  | publicPayer (scope : PublicScope)
  | user (userId : String)
  deriving DecidableEq, Repr

def Scope.actor : Scope → String
  | .publicPayer _ => "system"
  | .user userId => userId

def require (condition : Bool) (error : ServiceError) : Tx Unit :=
  if condition then pure () else .throw error

def transitionOrConflict (transition : InvoiceTransition) (context : TransitionContext) :
    Tx InvoiceStatus :=
  match evaluateTransition transition context with
  | .ok target => pure target
  | .refused _ message => .throw (.conflict message)

def updateInvoice (label : Effect) (id : String) (change : Invoice → Invoice) : Tx Unit := do
  let found ← writeRows label [.invoice] (fun store => store.invoice.id = id)
    fun store => { store with invoice := change store.invoice }
  if found then pure () else .throw .recordNotFound

def updateManyInvoices (label : Effect) (applies : Invoice → Bool)
    (change : Invoice → Invoice) : Tx Bool :=
  writeRows label [.invoice] (fun store => applies store.invoice)
    fun store => { store with invoice := change store.invoice }

def PaymentTable.applyUpdate (payments : PaymentTable) (id : String) (data : PaymentUpdate) :
    PaymentTable :=
  payments.modify (fun payment => payment.id = id) (fun payment => payment.apply data) (by
    intro index listed payment
    simp only [paymentIndexes, List.mem_cons, List.not_mem_nil, or_false] at listed
    rcases listed with rfl | rfl | rfl <;> rfl)

def PaymentTable.assignReference? (payments : PaymentTable) (id reference : String) :
    Option PaymentTable :=
  payments.update? (fun payment => payment.id = id)
    fun payment => { payment with gatewayReference := some reference }

/-- `lineItem.upsert` on the position; the list stays in position order. -/
def upsertLineItem (item : LineItem) : Tx Unit := do
  let _ ← writeRows .rowWrite [.lineItem item.position] (fun _ => true) fun store =>
    { store with
      lineItems := store.lineItems.filter (fun line => line.position < item.position) ++
        item :: store.lineItems.filter fun line => item.position < line.position }
  pure ()

def deleteLineItemsFrom (position : Nat) : Tx Unit := do
  let _ ← writeRows .rowWrite [] (fun _ => true) fun store =>
    { store with lineItems := store.lineItems.filter fun line => line.position < position }
  pure ()

def createPayment (payment : Payment) : Tx Unit := do
  let accepted ← writeRows .rowWrite
    [.payment payment.id, .paymentIdempotencyKey payment.idempotencyKey]
    (fun store => (store.payments.insert? payment).isSome)
    fun store => { store with payments := (store.payments.insert? payment).getD store.payments }
  if accepted then pure () else .throw .uniqueViolation

def updatePayment (id : String) (data : PaymentUpdate) : Tx Unit := do
  let found ← writeRows .rowWrite [.payment id]
    (fun store => store.payments.rows.any fun payment => payment.id = id)
    fun store => { store with payments := store.payments.applyUpdate id data }
  if found then pure () else .throw .recordNotFound

def updatePaymentReference (id reference : String) : Tx Unit := do
  let accepted ← writeRows .rowWrite [.payment id, .paymentGatewayReference reference]
    (fun store => (store.payments.assignReference? id reference).isSome)
    fun store =>
      { store with
        payments := (store.payments.assignReference? id reference).getD store.payments }
  if accepted then pure () else .throw .uniqueViolation

def createInvoiceEvent (event : InvoiceEvent) : Tx Unit := do
  let _ ← writeRows .rowWrite [] (fun _ => true)
    fun store => { store with events := store.events ++ [event] }
  pure ()

def createCheckSubmission (submission : CheckSubmission) : Tx Unit := do
  let accepted ← writeRows .rowWrite [.checkSubmission submission.id]
    (fun store => store.checkSubmissions.all fun other => other.id ≠ submission.id)
    fun store => { store with checkSubmissions := store.checkSubmissions ++ [submission] }
  if accepted then pure () else .throw .uniqueViolation

def Store.reviseSubmissions (store : Store) (applies : CheckSubmission → Bool)
    (change : CheckSubmission → CheckSubmission) : Store :=
  { store with
    checkSubmissions := store.checkSubmissions.map fun submission =>
      if applies submission then change submission else submission }

def updateManyCheckSubmissions (id : String) (applies : CheckSubmission → Bool)
    (change : CheckSubmission → CheckSubmission) : Tx Bool :=
  writeRows .rowWrite [.checkSubmission id]
    (fun store => store.checkSubmissions.any applies)
    fun store => store.reviseSubmissions applies change

/-! ## What a statement does when nothing runs beside it -/

section Execution

variable (committed view : Store)

@[simp] theorem require_execFrom (condition : Bool) (error : ServiceError) :
    (require condition error).execFrom committed view =
      if condition then ⟨.ok (), committed, view, []⟩
      else ⟨.error error, committed, committed, []⟩ := by
  cases condition <;> rfl

theorem transitionOrConflict_execFrom (transition : InvoiceTransition)
    (context : TransitionContext) :
    (transitionOrConflict transition context).execFrom committed view =
      match evaluateTransition transition context with
      | .ok target => ⟨.ok target, committed, view, []⟩
      | .refused _ message => ⟨.error (.conflict message), committed, committed, []⟩ := by
  cases decided : evaluateTransition transition context <;>
    simp [transitionOrConflict, decided]

@[simp] theorem updateInvoice_execFrom (label : Effect) (id : String)
    (change : Invoice → Invoice) (here : view.invoice.id = id) :
    (updateInvoice label id change).execFrom committed view =
      ⟨.ok (), committed, { view with invoice := change view.invoice }, []⟩ := by
  simp [updateInvoice, here]

@[simp] theorem updateManyInvoices_execFrom (label : Effect) (applies : Invoice → Bool)
    (change : Invoice → Invoice) :
    (updateManyInvoices label applies change).execFrom committed view =
      if applies view.invoice then
        ⟨.ok true, committed, { view with invoice := change view.invoice }, []⟩
      else ⟨.ok false, committed, view, []⟩ := rfl

@[simp] theorem updatePayment_execFrom (id : String) (data : PaymentUpdate)
    (here : ∃ payment ∈ view.payments.rows, payment.id = id) :
    (updatePayment id data).execFrom committed view =
      ⟨.ok (), committed, { view with payments := view.payments.applyUpdate id data }, []⟩ := by
  simp [updatePayment, here]

theorem createPayment_execFrom (payment : Payment) :
    (createPayment payment).execFrom committed view =
      match view.payments.insert? payment with
      | some payments => ⟨.ok (), committed, { view with payments }, []⟩
      | none => ⟨.error .uniqueViolation, committed, committed, []⟩ := by
  cases inserted : view.payments.insert? payment <;> simp [createPayment, inserted]

theorem updatePaymentReference_execFrom (id reference : String) :
    (updatePaymentReference id reference).execFrom committed view =
      match view.payments.assignReference? id reference with
      | some payments => ⟨.ok (), committed, { view with payments }, []⟩
      | none => ⟨.error .uniqueViolation, committed, committed, []⟩ := by
  cases assigned : view.payments.assignReference? id reference <;>
    simp [updatePaymentReference, assigned]

@[simp] theorem createInvoiceEvent_execFrom (event : InvoiceEvent) :
    (createInvoiceEvent event).execFrom committed view =
      ⟨.ok (), committed, { view with events := view.events ++ [event] }, []⟩ := rfl

end Execution

/-! ## What a statement asks of a session that others run beside -/

section Sessions

variable {α β γ : Type} {rely : Rely Store RowKey γ} {conduct : Conduct Store Effect ServiceError β}
  {last : α → Journal Store Effect → (Store → Store) → List RowKey → (Store → Prop) → Prop}
  {journal : Journal Store Effect} {pending : Store → Store} {rows : List RowKey}
  {knows : Store → Prop}

theorem follows_require {condition : Bool} {error : ServiceError} {next : Unit → Tx α}
    (refused : condition = false → conduct.ends (.dropped :: journal) (.error error))
    (rest : condition = true →
      (next ()).Follows rely conduct last journal pending rows knows) :
    (require condition error >>= next).Follows rely conduct last journal pending rows knows := by
  cases condition with
  | false => exact refused rfl
  | true => exact rest rfl

theorem follows_transitionOrConflict {transition : InvoiceTransition}
    {context : TransitionContext} {next : InvoiceStatus → Tx α}
    (refused : ∀ message, conduct.ends (.dropped :: journal) (.error (.conflict message)))
    (rest : ∀ target, evaluateTransition transition context = .ok target →
      (next target).Follows rely conduct last journal pending rows knows) :
    (transitionOrConflict transition context >>= next).Follows rely conduct last journal pending
      rows knows := by
  unfold transitionOrConflict
  cases decided : evaluateTransition transition context with
  | refused code message => exact refused message
  | ok target => exact rest target decided

end Sessions

end MultiBrandInvoicing
