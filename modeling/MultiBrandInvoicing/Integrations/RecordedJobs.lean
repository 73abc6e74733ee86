import MultiBrandInvoicing.Integrations.PushJobs

/-!
# The push jobs with what is recorded of them

`runJob`, `recordFailure` and `resolveConnection` of `zoho-sync.service.ts` with the rows they
write: a sync job for every push and the failure reason of the connection.  The jobs are those of
`PushJobs`, whose calls for these writes now leave something; `Forgets` says that nothing else is
different.
-/

set_option autoImplicit false

namespace MultiBrandInvoicing

namespace RecordedJobs

open Faults Work PushJobs

inductive SyncJobStatus where
  | running | succeeded
  | failed (errorClass : ErrorClass) (lastError : String)
  deriving DecidableEq, Repr

structure SyncJobRow where
  objectType : Kind
  objectId : String
  status : SyncJobStatus
  attemptCount : Nat := 1
  deriving DecidableEq, Repr

structure Recorded where
  world : World
  syncJobs : List SyncJobRow
  failureReason : Option String

abbrev Job (α : Type) := Work Recorded PushError α

/-- A push on the brand, which records nothing. -/
def lift {α : Type} (push : Push α) : Job α := fun state fates =>
  let ran := push state.world fates
  ⟨ran.ending, { state with world := ran.state }, ran.fates⟩

/-! ## The writes -/

def Recorded.begin (state : Recorded) (objectType : Kind) (objectId : String) : Recorded :=
  { state with syncJobs := state.syncJobs ++ [{ objectType, objectId, status := .running }] }

/-- The answer is what the sync job is found by. -/
def createSyncJob (objectType : Kind) (objectId : String) : Job Nat :=
  call fun state => .ok (state.syncJobs.length, state.begin objectType objectId)

/-- No sync job is ever deleted. -/
def Recorded.finish (state : Recorded) (job : Nat) (status : SyncJobStatus) : Recorded :=
  { state with syncJobs := state.syncJobs.modify job fun row => { row with status } }

def updateSyncJob (job : Nat) (status : SyncJobStatus) : Job Unit :=
  call fun state => .ok ((), state.finish job status)

def markUnhealthy (reason : String) : Job Unit :=
  call fun state => .ok ((), { state with failureReason := some reason })

/-- The time of the run is not kept here. -/
def recordSyncRun : Job Unit :=
  call fun state => .ok ((), { state with failureReason := none })

/-- `integrationError?.errorClass ?? 'PERMANENT'`. -/
def recordedClass : PushError → ErrorClass
  | .integration errorClass _ => errorClass
  | _ => .permanent

/-- The message, which here is the provider's own where there is one. -/
def lastError : PushError → String
  | .integration _ message => message
  | .unrecoverable message => message
  | .other message => message

def failedWith (error : PushError) : SyncJobStatus :=
  .failed (recordedClass error) (lastError error)

/-! ## The service -/

def recordUnhealthy : PushError → Job Unit
  | .integration .authentication message => guarded (markUnhealthy message)
  | _ => pure ()

def recordFailure {α : Type} (job : Nat) (error : PushError) : Job α := do
  guarded (updateSyncJob job (failedWith error))
  recordUnhealthy error
  throw error.rethrown

def runJob (objectType : Kind) (objectId : String) (work : Job Unit) : Job Unit := do
  let job ← createSyncJob objectType objectId
  attempt (do
    work
    guarded (updateSyncJob job .succeeded)
    guarded recordSyncRun) (recordFailure job)

def resolveConnection (objectType : Kind) (objectId : String) : Job Bool :=
  attempt (lift buildAccountingConnection) fun error => do
    let job ← createSyncJob objectType objectId
    recordFailure job error

def connected (objectType : Kind) (objectId : String) : Job Bool := do
  let scope ← lift forBrand
  if scope then resolveConnection objectType objectId else pure false

def gate (flag : Option (ConnectionRow → Bool)) (objectType : Kind) (objectId : String) :
    Job Bool := do
  let connects ← connected objectType objectId
  if connects then lift (flagged flag) else pure false

def whenOpen (flag : Option (ConnectionRow → Bool)) (objectType : Kind) (objectId : String)
    (push : Job Unit) : Job Unit := do
  let isOpen ← gate flag objectType objectId
  if isOpen then push else pure ()

section Service

variable (books : ZohoBooks PushError)

def pushCustomer (customerId : String) (viaCascade : Bool) : Job Unit :=
  whenOpen (if viaCascade then none else some ConnectionRow.customerSyncEnabled) .contact customerId
    (runJob .contact customerId (lift (customerWork books customerId)))

def cascadeCustomer (read : InvoiceRow × PushJobs.CustomerRow) : Job Unit :=
  if (truthy read.2.zohoContactId).isNone then pushCustomer books read.1.customerId true
  else pure ()

def invoiceRest (read : InvoiceRow × PushJobs.CustomerRow) : Push Unit := do
  let customer ← ask fun world => found (world.rows.customer? read.1.customerId)
  let customerRemoteId ← required (truthy customer.zohoContactId)
    "customer push did not yield a Zoho contact id"
  let invoice := ZohoSyncService.toAccountingInvoice read.1.store customerRemoteId
  checked .invoice read.1.invoice.id (ZohoSyncService.validateInvoiceForSync invoice)
  touch
  let result ← ZohoBooksAdapter.pushInvoice books invoice
  storeRef .invoice read.1.invoice.id result

def invoiceWork (invoiceId : String) : Job Unit := do
  let read ← lift (readInvoice invoiceId)
  cascadeCustomer books read
  lift (invoiceRest books read)

def pushInvoice (invoiceId : String) : Job Unit :=
  whenOpen (some ConnectionRow.invoiceSyncEnabled) .invoice invoiceId
    (runJob .invoice invoiceId (invoiceWork books invoiceId))

def cascadeInvoice (read : PaymentRead) : Job Unit :=
  if (truthy read.invoice.invoice.zohoInvoiceId).isNone then pushInvoice books read.row.invoiceId
  else pure ()

def paymentRest (paymentId : String) : Push Unit := do
  let refreshed ← readPayment paymentId
  let invoiceRemoteId ← required (truthy refreshed.invoice.invoice.zohoInvoiceId) missingIds
  let customerRemoteId ← required (truthy refreshed.customer.zohoContactId) missingIds
  let payment :=
    ZohoSyncService.toAccountingPayment refreshed.row.payment invoiceRemoteId customerRemoteId
  checked .payment refreshed.row.payment.id (ZohoSyncService.validatePaymentForSync payment)
  touch
  let result ← ZohoBooksAdapter.pushPayment books payment
  storeRef .payment refreshed.row.payment.id result

def paymentWork (paymentId : String) : Job Unit := do
  let read ← lift (readPayment paymentId)
  cascadeInvoice books read
  lift (paymentRest books paymentId)

def pushPayment (paymentId : String) : Job Unit :=
  whenOpen (some ConnectionRow.invoiceSyncEnabled) .payment paymentId
    (runJob .payment paymentId (paymentWork books paymentId))

end Service

/-! ## The same jobs, but for what is recorded -/

section Forgets

variable {α β : Type}

/-- On the brand the job does what the push does, and it ends the same way. -/
def Forgets (job : Job α) (push : Push α) : Prop :=
  ∀ state fates, push state.world fates =
    ⟨(job state fates).ending, (job state fates).state.world, (job state fates).fates⟩

theorem forgets_lift (push : Push α) : Forgets (lift push) push := fun _ _ => rfl

theorem forgets_pure (value : α) : Forgets (pure value) (pure value) := fun _ _ => rfl

theorem forgets_throw (error : PushError) : Forgets (throw error : Job α) (throw error) :=
  fun _ _ => rfl

theorem Forgets.bind {job : Job α} {push : Push α} (same : Forgets job push)
    {next : α → Job β} {rest : α → Push β} (others : ∀ value, Forgets (next value) (rest value)) :
    Forgets (job >>= next) (push >>= rest) := by
  intro state fates
  have first := same state fates
  rcases ran : job state fates with ⟨value | error | _, left, later⟩
  · rw [ran] at first
    rw [bind_of_returned ran, bind_of_returned first]
    exact others value left later
  · rw [ran] at first
    rw [bind_of_threw ran, bind_of_threw first]
  · rw [ran] at first
    rw [bind_of_cut ran, bind_of_cut first]

theorem Forgets.attempt {job : Job α} {push : Push α} (same : Forgets job push)
    {handler : PushError → Job α} {rescue : PushError → Push α}
    (handled : ∀ error, Forgets (handler error) (rescue error)) :
    Forgets (Work.attempt job handler) (Work.attempt push rescue) := by
  intro state fates
  have first := same state fates
  unfold Work.attempt
  rcases ran : job state fates with ⟨value | error | _, left, later⟩
  · rw [ran] at first
    rw [first]
  · rw [ran] at first
    rw [first]
    exact handled error left later
  · rw [ran] at first
    rw [first]

theorem forgets_write {change : Recorded → Recorded}
    (apart : ∀ state, (change state).world = state.world) :
    Forgets (call fun state => .ok ((), change state)) touch := by
  intro state fates
  rcases fates with _ | ⟨_ | ⟨performed, error⟩ | performed, later⟩
  · simp [touch, call, answer, apart]
  · simp [touch, call, answer, apart]
  · cases performed <;> simp [touch, call, effect, apart]
  · cases performed <;> simp [touch, call, effect, apart]

theorem forgets_updateSyncJob (job : Nat) (status : SyncJobStatus) :
    Forgets (updateSyncJob job status) touch :=
  forgets_write fun state => (rfl : (state.finish job status).world = state.world)

theorem forgets_markUnhealthy (reason : String) : Forgets (markUnhealthy reason) touch := by
  have apart : ∀ state : Recorded,
      { state with failureReason := some reason }.world = state.world := fun _ => rfl
  exact forgets_write apart

theorem forgets_recordSyncRun : Forgets recordSyncRun touch := by
  have apart : ∀ state : Recorded, { state with failureReason := none }.world = state.world :=
    fun _ => rfl
  exact forgets_write apart

theorem forgets_createSyncJob {objectType : Kind} {objectId : String} {next : Nat → Job β}
    {rest : Push β} (others : ∀ job, Forgets (next job) rest) :
    Forgets (createSyncJob objectType objectId >>= next) (touch >>= fun _ => rest) := by
  intro state fates
  rcases fates with _ | ⟨_ | ⟨performed, error⟩ | performed, later⟩
  · exact others state.syncJobs.length (state.begin objectType objectId) []
  · exact others state.syncJobs.length (state.begin objectType objectId) later
  · cases performed <;> rfl
  · cases performed <;> rfl

theorem forgets_guarded {job : Job Unit} {push : Push Unit} (same : Forgets job push) :
    Forgets (guarded job) (guarded push) := same.attempt fun _ => forgets_pure ()

theorem forgets_recordFailure (job : Nat) (error : PushError) :
    Forgets (recordFailure job error : Job α) (PushJobs.recordFailure error) := by
  refine (forgets_guarded (forgets_updateSyncJob job _)).bind fun _ => ?_
  refine Forgets.bind ?_ fun _ => forgets_throw _
  cases error with
  | integration errorClass message =>
      cases errorClass with
      | authentication => exact forgets_guarded (forgets_markUnhealthy message)
      | _ => exact forgets_pure ()
  | _ => exact forgets_pure ()

theorem forgets_runJob {objectType : Kind} {objectId : String} {work : Job Unit} {push : Push Unit}
    (same : Forgets work push) :
    Forgets (runJob objectType objectId work) (PushJobs.runJob push) := by
  refine forgets_createSyncJob fun job => Forgets.attempt ?_ fun error =>
    forgets_recordFailure job error
  refine same.bind fun _ => (forgets_guarded (forgets_updateSyncJob job _)).bind fun _ => ?_
  exact forgets_guarded forgets_recordSyncRun

theorem forgets_whenOpen (flag : Option (ConnectionRow → Bool)) {objectType : Kind}
    {objectId : String} {job : Job Unit} {push : Push Unit} (same : Forgets job push) :
    Forgets (whenOpen flag objectType objectId job) (PushJobs.whenOpen flag push) := by
  have resolves : Forgets (resolveConnection objectType objectId) PushJobs.resolveConnection :=
    (forgets_lift _).attempt fun error => forgets_createSyncJob fun index =>
      forgets_recordFailure index error
  have connects : Forgets (connected objectType objectId) PushJobs.connected := by
    refine (forgets_lift _).bind fun scope => ?_
    cases scope with
    | false => exact forgets_pure false
    | true => exact resolves
  refine Forgets.bind (connects.bind fun open_ => ?_) fun isOpen => ?_
  · cases open_ with
    | false => exact forgets_pure false
    | true => exact forgets_lift _
  · cases isOpen with
    | false => exact forgets_pure ()
    | true => exact same

variable (books : ZohoBooks PushError)

theorem forgets_pushCustomer (customerId : String) (viaCascade : Bool) :
    Forgets (pushCustomer books customerId viaCascade)
      (PushJobs.pushCustomer books customerId viaCascade) :=
  forgets_whenOpen _ (forgets_runJob (forgets_lift _))

theorem forgets_pushInvoice (invoiceId : String) :
    Forgets (pushInvoice books invoiceId) (PushJobs.pushInvoice books invoiceId) := by
  refine forgets_whenOpen _ (forgets_runJob ?_)
  refine (forgets_lift _).bind fun read => Forgets.bind ?_ fun _ =>
    forgets_lift (invoiceRest books read)
  unfold cascadeCustomer PushJobs.cascadeCustomer
  split
  next => exact forgets_pushCustomer books _ true
  next => exact forgets_pure ()

theorem forgets_pushPayment (paymentId : String) :
    Forgets (pushPayment books paymentId) (PushJobs.pushPayment books paymentId) := by
  refine forgets_whenOpen _ (forgets_runJob ?_)
  refine (forgets_lift _).bind fun read => Forgets.bind ?_ fun _ =>
    forgets_lift (paymentRest books paymentId)
  unfold cascadeInvoice PushJobs.cascadeInvoice
  split
  next => exact forgets_pushInvoice books _
  next => exact forgets_pure ()

end Forgets

end RecordedJobs

end MultiBrandInvoicing
