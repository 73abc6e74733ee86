import MultiBrandInvoicing.Faults.Work
import MultiBrandInvoicing.Integrations.PullBrand
import MultiBrandInvoicing.Mirroring.ContactPushes
import MultiBrandInvoicing.Mirroring.InvoicePushes

/-!
# The push jobs of a brand, call by call

`pushCustomer`, `pushInvoice` and `pushPayment` of `zoho-sync.service.ts` and what they call in
`zoho-books.adapter.ts`, on the rows of one brand and the records Zoho Books has.  Every statement
and every request is a call that may fail or be the worker's last.  The sync jobs, the guard keys,
the rate slots and the health of the connection are read by none of them: their calls are made and
leave nothing.
-/

set_option autoImplicit false

namespace MultiBrandInvoicing

namespace PushJobs

open Faults Work InvoicePushes

/-! ## Rows -/

structure CustomerRow where
  id : String
  customer : AccountingCustomer
  zohoContactId : Option String
  zohoSyncedVersion : Option Time
  zohoUnsyncedReason : Option String
  deriving DecidableEq, Repr

structure InvoiceRow where
  invoice : Invoice
  customerId : String
  lineItems : List LineItem
  zohoUnsyncedReason : Option String
  deriving DecidableEq, Repr

structure PaymentRow where
  payment : Payment
  invoiceId : String
  zohoPaymentId : Option String
  zohoUnsyncedReason : Option String
  deriving DecidableEq, Repr

section Keyed

variable {α β : Type} (key : α → String)

def find (rows : List α) (id : String) : Option α := rows.find? fun row => key row = id

def revise (rows : List α) (id : String) (change : α → α) : List α :=
  rows.map fun row => if key row = id then change row else row

variable {key}

theorem map_revise {rows : List α} {id : String} {change : α → α} {column : α → β}
    (same : ∀ row, column (change row) = column row) :
    (revise key rows id change).map column = rows.map column := by
  rw [revise, List.map_map]
  refine List.map_congr_left fun row _ => ?_
  rw [Function.comp]
  split
  · exact same row
  · rfl

theorem find_revise {rows : List α} {id : String} {change : α → α}
    (same : ∀ row, key (change row) = key row) (other : String) :
    find key (revise key rows id change) other =
      if other = id then (find key rows other).map change else find key rows other := by
  induction rows with
  | nil => simp [find, revise]
  | cons row rest ih =>
      unfold find revise at ih ⊢
      rw [List.map_cons, List.find?_cons, List.find?_cons, ih]
      have kept : key (if key row = id then change row else row) = key row := by
        split
        · exact same row
        · rfl
      rw [kept]
      by_cases wanted : key row = other
      · subst wanted
        by_cases here : key row = id <;> simp [here]
      · simp [wanted]

theorem find_eq_some {rows : List α} (distinct : (rows.map key).Nodup) {row : α}
    (member : row ∈ rows) : find key rows (key row) = some row := by
  induction rows with
  | nil => cases member
  | cons first rest ih =>
      rw [List.map_cons, List.nodup_cons] at distinct
      unfold find at ih ⊢
      rcases List.mem_cons.mp member with rfl | later
      · rw [List.find?_cons_of_pos (by simp)]
      · have apart : key first ≠ key row := fun same =>
          distinct.1 (same ▸ List.mem_map_of_mem later)
        rw [List.find?_cons_of_neg (by simpa using apart)]
        exact ih distinct.2 later

theorem mem_of_find {rows : List α} {id : String} {row : α} (found : find key rows id = some row) :
    row ∈ rows ∧ key row = id :=
  ⟨List.mem_of_find?_eq_some found, by simpa using List.find?_some found⟩

end Keyed

/-- The rows of a brand, with their primary and foreign keys. -/
structure BrandRows where
  customers : List CustomerRow
  invoices : List InvoiceRow
  payments : List PaymentRow
  customerKeys : (customers.map CustomerRow.id).Nodup
  invoiceKeys : (invoices.map fun row => row.invoice.id).Nodup
  paymentKeys : (payments.map fun row => row.payment.id).Nodup
  customerOf : ∀ id ∈ invoices.map InvoiceRow.customerId, id ∈ customers.map CustomerRow.id
  invoiceOf : ∀ id ∈ payments.map PaymentRow.invoiceId,
    id ∈ invoices.map fun row => row.invoice.id

namespace BrandRows

variable (rows : BrandRows)

def customer? (id : String) : Option CustomerRow := find CustomerRow.id rows.customers id

def invoice? (id : String) : Option InvoiceRow :=
  find (fun row => row.invoice.id) rows.invoices id

def payment? (id : String) : Option PaymentRow :=
  find (fun row => row.payment.id) rows.payments id

def reviseCustomer (id : String) (change : CustomerRow → CustomerRow)
    (same : ∀ row, (change row).id = row.id) : BrandRows :=
  { rows with
    customers := revise CustomerRow.id rows.customers id change
    customerKeys := by
      rw [map_revise same]
      exact rows.customerKeys
    customerOf := by
      rw [map_revise same]
      exact rows.customerOf }

def reviseInvoice (id : String) (change : InvoiceRow → InvoiceRow)
    (same : ∀ row, (change row).invoice.id = row.invoice.id ∧
      (change row).customerId = row.customerId) : BrandRows :=
  { rows with
    invoices := revise (fun row => row.invoice.id) rows.invoices id change
    invoiceKeys := by
      rw [map_revise fun row => (same row).1]
      exact rows.invoiceKeys
    customerOf := by
      rw [map_revise fun row => (same row).2]
      exact rows.customerOf
    invoiceOf := by
      rw [map_revise fun row => (same row).1]
      exact rows.invoiceOf }

def revisePayment (id : String) (change : PaymentRow → PaymentRow)
    (same : ∀ row, (change row).payment.id = row.payment.id ∧
      (change row).invoiceId = row.invoiceId) : BrandRows :=
  { rows with
    payments := revise (fun row => row.payment.id) rows.payments id change
    paymentKeys := by
      rw [map_revise fun row => (same row).1]
      exact rows.paymentKeys
    invoiceOf := by
      rw [map_revise fun row => (same row).2]
      exact rows.invoiceOf }

end BrandRows

/-! ## Zoho Books -/

inductive Kind where
  | contact | invoice | payment
  deriving DecidableEq, Repr

/-- What a record was last written from, and the status of an invoice. -/
inductive Content where
  | contact (written : AccountingCustomer)
  | invoice (status : RemoteStatus) (written : AccountingInvoice)
  | payment (written : AccountingPayment)
  deriving DecidableEq, Repr

def Content.kind : Content → Kind
  | contact _ => .contact
  | invoice _ _ => .invoice
  | payment _ => .payment

/-- A record in Zoho; `localId` names the row it was created for. -/
structure RemoteRecord where
  localId : String
  id : String
  content : Content
  deriving DecidableEq, Repr

def RemoteRecord.is (record : RemoteRecord) (kind : Kind) (id : String) : Bool :=
  record.content.kind = kind && record.id = id

abbrev Zoho := List RemoteRecord

def Zoho.has (zoho : Zoho) (kind : Kind) (id : String) : Bool :=
  zoho.any fun record => record.is kind id

def Zoho.put (zoho : Zoho) (id : String) (content : Content) : Zoho :=
  zoho.map fun record => if record.is content.kind id then { record with content } else record

def Zoho.invoice? (zoho : Zoho) (id : String) : Option (RemoteStatus × AccountingInvoice) :=
  match zoho.find? fun record => record.is .invoice id with
  | some ⟨_, _, .invoice status written⟩ => some (status, written)
  | _ => none

/-- What Zoho Books decides by itself: the ids of what it creates, the versions it tells with a
write and when it is asked, and what it says to a write it rejects. -/
structure ZohoBooks (ε : Type) where
  newId : Kind → Zoho → String
  newId_ne : ∀ kind zoho, newId kind zoho ≠ ""
  writtenVersion : Zoho → String → Option Time
  readVersion : Zoho → String → Option Time
  rejection : ε

/-! ## The brand -/

/-- The Zoho row of `integration_connection`; it is connected when its status says so and it has
credentials. -/
structure ConnectionRow where
  isConnected : Bool
  customerSyncEnabled : Bool
  invoiceSyncEnabled : Bool
  deriving DecidableEq, Repr

/-- `unstored` has the contacts and invoices whose ids no row has been told yet. -/
structure World where
  hasBrand : Bool
  connection : Option ConnectionRow
  rows : BrandRows
  zoho : Zoho
  unstored : List (Kind × String × String)

inductive PushError where
  | integration (errorClass : ErrorClass) (message : String)
  | unrecoverable (message : String)
  | other (message : String)
  deriving DecidableEq, Repr

/-- `error instanceof IntegrationError && !error.retryable` becomes an `UnrecoverableError`. -/
def PushError.rethrown : PushError → PushError
  | .integration .transient message => .integration .transient message
  | .integration _ message => .unrecoverable message
  | error => error

def recordNotFound : PushError :=
  .other ("An operation failed because it depends on one or more records that were required " ++
    "but not found.")

abbrev Push (α : Type) := Work World PushError α

def found {α : Type} : Option α → Except PushError α
  | some row => .ok row
  | none => .error recordNotFound

def BrandRows.hasRow (rows : BrandRows) : Kind → String → Bool
  | .contact, id => (rows.customer? id).isSome
  | .invoice, id => (rows.invoice? id).isSome
  | .payment, id => (rows.payment? id).isSome

/-- The column with the id of the copy in Zoho. -/
def BrandRows.remoteId? (rows : BrandRows) : Kind → String → Option String
  | .contact, id => (rows.customer? id).bind CustomerRow.zohoContactId
  | .invoice, id => (rows.invoice? id).bind fun row => row.invoice.zohoInvoiceId
  | .payment, id => (rows.payment? id).bind PaymentRow.zohoPaymentId

/-- JavaScript takes an empty id for none. -/
def truthy (id : Option String) : Option String := id.filter (· ≠ "")

def BrandRows.store (rows : BrandRows) (id : String) (ref : RemoteRef) : Kind → BrandRows
  | .contact => rows.reviseCustomer id (fun row =>
      { row with
        zohoContactId := some ref.remoteId
        zohoSyncedVersion := ref.updatedAt
        zohoUnsyncedReason := none }) fun _ => rfl
  | .invoice => rows.reviseInvoice id (fun row =>
      { row with
        invoice := { row.invoice with
          zohoInvoiceId := some ref.remoteId
          zohoSyncedVersion := ref.updatedAt }
        zohoUnsyncedReason := none }) fun _ => ⟨rfl, rfl⟩
  | .payment => rows.revisePayment id (fun row =>
      { row with
        zohoPaymentId := some ref.remoteId
        zohoUnsyncedReason := none }) fun _ => ⟨rfl, rfl⟩

def BrandRows.markUnsynced (rows : BrandRows) (id reason : String) : Kind → BrandRows
  | .contact =>
      rows.reviseCustomer id (fun row => { row with zohoUnsyncedReason := some reason })
        fun _ => rfl
  | .invoice =>
      rows.reviseInvoice id (fun row => { row with zohoUnsyncedReason := some reason })
        fun _ => ⟨rfl, rfl⟩
  | .payment =>
      rows.revisePayment id (fun row => { row with zohoUnsyncedReason := some reason })
        fun _ => ⟨rfl, rfl⟩

def storeRef (kind : Kind) (id : String) (ref : RemoteRef) : Push Unit :=
  call fun world =>
    if world.rows.hasRow kind id then
      .ok ((), { world with
        rows := world.rows.store id ref kind
        unstored := world.unstored.erase (kind, id, ref.remoteId) })
    else .error recordNotFound

def markUnsynced (kind : Kind) (id reason : String) : Push Unit :=
  call fun world =>
    if world.rows.hasRow kind id then
      .ok ((), { world with rows := world.rows.markUnsynced id reason kind })
    else .error recordNotFound

/-- A reason why a row cannot be pushed is noted on it, and the push fails. -/
def checked (kind : Kind) (id : String) : Option String → Push Unit
  | none => pure ()
  | some reason => do
      markUnsynced kind id reason
      throw (.integration .validation reason)

/-! ## The adapter -/

namespace ZohoBooksAdapter

variable (books : ZohoBooks PushError)

def request {α : Type} (act : World → Except PushError (α × World)) : Push α := do
  touch
  call act

structure Written where
  id : String
  version : Option Time
  status : RemoteStatus

def post (kind : Kind) (localId : String) (content : Content) (status : RemoteStatus) :
    Push Written :=
  request fun world =>
    let id := books.newId kind world.zoho
    .ok (⟨id, books.writtenVersion world.zoho id, status⟩, { world with
      zoho := world.zoho ++ [⟨localId, id, content⟩]
      unstored := if kind = .payment then world.unstored else (kind, localId, id) :: world.unstored })

def getVersion (kind : Kind) (id : String) : Push (Option Time) :=
  request fun world =>
    if world.zoho.has kind id then .ok (books.readVersion world.zoho id, world)
    else .error books.rejection

/-- A failed read-back is not fatal. -/
def resolveWriteVersion (fromWriteResponse : Option Time) (readBack : Push (Option Time)) :
    Push (Option Time) :=
  match fromWriteResponse with
  | some version => pure (some version)
  | none => attempt readBack fun _ => pure none

def putContact (id : String) (customer : AccountingCustomer) : Push Written :=
  request fun world =>
    if world.zoho.has .contact id then
      .ok (⟨id, books.writtenVersion world.zoho id, .draft⟩,
        { world with zoho := world.zoho.put id (.contact customer) })
    else .error books.rejection

def writeContact (row : CustomerRow) : Push Written :=
  match truthy row.zohoContactId with
  | some remoteId => putContact books remoteId row.customer
  | none => post books .contact row.id (.contact row.customer) .draft

def upsertCustomer (row : CustomerRow) : Push RemoteRef := do
  let written ← writeContact books row
  let version ← resolveWriteVersion written.version (getVersion books .contact written.id)
  return ⟨written.id, version⟩

/-- A voided invoice takes no further writes. -/
def putInvoice (id : String) (invoice : AccountingInvoice) : Push Written :=
  request fun world =>
    match world.zoho.invoice? id with
    | some (.draft, _) =>
        .ok (⟨id, books.writtenVersion world.zoho id, .draft⟩,
          { world with zoho := world.zoho.put id (.invoice .draft invoice) })
    | some (.sent, _) =>
        .ok (⟨id, books.writtenVersion world.zoho id, .sent⟩,
          { world with zoho := world.zoho.put id (.invoice .sent invoice) })
    | _ => .error books.rejection

def markInvoiceSent (id : String) : Push Unit :=
  request fun world =>
    match world.zoho.invoice? id with
    | some (.void, _) => .error books.rejection
    | some (_, written) =>
        .ok ((), { world with zoho := world.zoho.put id (.invoice .sent written) })
    | none => .error books.rejection

def voidInvoice (id : String) : Push Unit :=
  request fun world =>
    match world.zoho.invoice? id with
    | some (_, written) =>
        .ok ((), { world with zoho := world.zoho.put id (.invoice .void written) })
    | none => .error books.rejection

/-- The version of the write, unless marking the invoice as sent makes it an old one. -/
def markedVersion (invoice : AccountingInvoice) (written : Written) : Push (Option Time) :=
  if invoice.status ≠ .draft ∧ written.status = .draft then do
    markInvoiceSent books written.id
    return none
  else pure written.version

def voidPushed (invoice : AccountingInvoice) : Push RemoteRef :=
  match truthy invoice.remoteId with
  | none => throw
      (.integration .permanent "cannot void an invoice in Zoho that was never synced there")
  | some remoteId => do
      voidInvoice books remoteId
      let version ← resolveWriteVersion none (getVersion books .invoice remoteId)
      return ⟨remoteId, version⟩

def writeInvoice (invoice : AccountingInvoice) : Push Written :=
  match truthy invoice.remoteId with
  | some remoteId => putInvoice books remoteId invoice
  | none => post books .invoice invoice.localId (.invoice .draft invoice) .draft

def upsertInvoice (invoice : AccountingInvoice) : Push RemoteRef := do
  let written ← writeInvoice books invoice
  let lastModified ← markedVersion books invoice written
  let version ← resolveWriteVersion lastModified (getVersion books .invoice written.id)
  return ⟨written.id, version⟩

def pushInvoice (invoice : AccountingInvoice) : Push RemoteRef :=
  if invoice.status = .void then voidPushed books invoice else upsertInvoice books invoice

def pushPayment (payment : AccountingPayment) : Push RemoteRef := do
  let written ← post books .payment payment.localId (.payment payment) .draft
  return ⟨written.id, none⟩

end ZohoBooksAdapter

/-! ## The service -/

def recordUnhealthy : PushError → Push Unit
  | .integration .authentication _ => guarded touch
  | _ => pure ()

def recordFailure {α : Type} (error : PushError) : Push α := do
  guarded touch
  recordUnhealthy error
  throw error.rethrown

def runJob (work : Push Unit) : Push Unit := do
  touch
  attempt (do
    work
    guarded touch
    guarded touch) recordFailure

def forBrand : Push Bool := ask fun world => .ok world.hasBrand

def buildAccountingConnection : Push Bool :=
  ask fun world => .ok (world.connection.any ConnectionRow.isConnected)

def resolveConnection : Push Bool :=
  attempt buildAccountingConnection fun error => do
    touch
    recordFailure error

def getSyncFlags : Push (Option ConnectionRow) := ask fun world => .ok world.connection

def connected : Push Bool := do
  let scope ← forBrand
  if scope then resolveConnection else pure false

/-- A flag that is asked for is on, or there is none. -/
def flagged : Option (ConnectionRow → Bool) → Push Bool
  | none => pure true
  | some enabled => do
      let flags ← getSyncFlags
      return flags.all enabled

def gate (flag : Option (ConnectionRow → Bool)) : Push Bool := do
  let connects ← connected
  if connects then flagged flag else pure false

/-- A push of a brand that is not there, not connected or has the flag off does nothing. -/
def whenOpen (flag : Option (ConnectionRow → Bool)) (push : Push Unit) : Push Unit := do
  let isOpen ← gate flag
  if isOpen then push else pure ()

def validateCustomerForSync (customer : AccountingCustomer) : Option String :=
  if ZohoSyncService.isBlank customer.displayName then some "customer has no display name"
  else none

section Service

variable (books : ZohoBooks PushError)

def customerWork (customerId : String) : Push Unit := do
  let row ← ask fun world => found (world.rows.customer? customerId)
  checked .contact row.id (validateCustomerForSync row.customer)
  touch
  let result ← ZohoBooksAdapter.upsertCustomer books row
  storeRef .contact row.id result

def pushCustomer (customerId : String) (viaCascade : Bool) : Push Unit :=
  whenOpen (if viaCascade then none else some ConnectionRow.customerSyncEnabled)
    (runJob (customerWork books customerId))

def readInvoice (invoiceId : String) : Push (InvoiceRow × CustomerRow) :=
  ask fun world => do
    let row ← found (world.rows.invoice? invoiceId)
    let customer ← found (world.rows.customer? row.customerId)
    return (row, customer)

def required {α : Type} (value : Option α) (message : String) : Push α :=
  match value with
  | some value => pure value
  | none => throw (.integration .permanent message)

/-- The rows of the invoice that the adapter's input is taken from. -/
def InvoiceRow.store (row : InvoiceRow) : Store where
  invoice := row.invoice
  lineItems := row.lineItems
  customer := ⟨none⟩
  settings := none
  payments := UniqueTable.empty
  events := []
  checkSubmissions := []

def cascadeCustomer (read : InvoiceRow × CustomerRow) : Push Unit :=
  if (truthy read.2.zohoContactId).isNone then pushCustomer books read.1.customerId true
  else pure ()

def invoiceWork (invoiceId : String) : Push Unit := do
  let read ← readInvoice invoiceId
  cascadeCustomer books read
  let customer ← ask fun world => found (world.rows.customer? read.1.customerId)
  let customerRemoteId ← required (truthy customer.zohoContactId)
    "customer push did not yield a Zoho contact id"
  let invoice := ZohoSyncService.toAccountingInvoice read.1.store customerRemoteId
  checked .invoice read.1.invoice.id (ZohoSyncService.validateInvoiceForSync invoice)
  touch
  let result ← ZohoBooksAdapter.pushInvoice books invoice
  storeRef .invoice read.1.invoice.id result

def pushInvoice (invoiceId : String) : Push Unit :=
  whenOpen (some ConnectionRow.invoiceSyncEnabled) (runJob (invoiceWork books invoiceId))

structure PaymentRead where
  row : PaymentRow
  invoice : InvoiceRow
  customer : CustomerRow

def readPayment (paymentId : String) : Push PaymentRead :=
  ask fun world => do
    let row ← found (world.rows.payment? paymentId)
    let invoice ← found (world.rows.invoice? row.invoiceId)
    let customer ← found (world.rows.customer? invoice.customerId)
    return ⟨row, invoice, customer⟩

def cascadeInvoice (read : PaymentRead) : Push Unit :=
  if (truthy read.invoice.invoice.zohoInvoiceId).isNone then pushInvoice books read.row.invoiceId
  else pure ()

def missingIds : String :=
  "invoice or customer push did not yield the remote ids this payment needs"

def paymentWork (paymentId : String) : Push Unit := do
  let read ← readPayment paymentId
  cascadeInvoice books read
  let refreshed ← readPayment paymentId
  let invoiceRemoteId ← required (truthy refreshed.invoice.invoice.zohoInvoiceId) missingIds
  let customerRemoteId ← required (truthy refreshed.customer.zohoContactId) missingIds
  let payment :=
    ZohoSyncService.toAccountingPayment refreshed.row.payment invoiceRemoteId customerRemoteId
  checked .payment refreshed.row.payment.id (ZohoSyncService.validatePaymentForSync payment)
  touch
  let result ← ZohoBooksAdapter.pushPayment books payment
  storeRef .payment refreshed.row.payment.id result

def pushPayment (paymentId : String) : Push Unit :=
  whenOpen (some ConnectionRow.invoiceSyncEnabled) (runJob (paymentWork books paymentId))

end Service

inductive PushJob where
  | pushCustomer (customerId : String)
  | pushInvoice (invoiceId : String)
  | pushPayment (paymentId : String)
  deriving DecidableEq, Repr

def PushJob.work (books : ZohoBooks PushError) : PushJob → Push Unit
  | pushCustomer customerId => PushJobs.pushCustomer books customerId false
  | pushInvoice invoiceId => PushJobs.pushInvoice books invoiceId
  | pushPayment paymentId => PushJobs.pushPayment books paymentId

/-! ## A brand to push -/

def sampleCustomerRow : CustomerRow where
  id := "customer"
  customer := {
    type := .business
    displayName := "Acme"
    companyName := some "Acme Ltd"
    firstName := none
    lastName := none
    email := some "billing@acme.test"
    phone := none
    billingAddress := none
    shippingAddress := none }
  zohoContactId := none
  zohoSyncedVersion := none
  zohoUnsyncedReason := none

def sampleInvoiceRow : InvoiceRow where
  customerId := "customer"
  lineItems := [⟨0, "Work", none, 10000, 2000, 2000, false⟩]
  zohoUnsyncedReason := none
  invoice := {
    id := "invoice"
    brandId := "brand"
    number := "INV-0001"
    status := .sent
    currency := "USD"
    subtotalMinor := 2000
    taxRateBpApplied := 0
    taxMinor := 0
    cardFeeRateBpApplied := 0
    cardFeeMinor := 0
    totalMinor := 2000
    balanceMinor := 2000
    publicToken := "token"
    notes := none
    zohoInvoiceId := none
    zohoSyncedVersion := none
    issuedAt := some 1
    firstViewedAt := none
    paidAt := none
    cancelledAt := none
    previousStatus := none }

def sampleRows : BrandRows where
  customers := [sampleCustomerRow]
  invoices := [sampleInvoiceRow]
  payments := []
  customerKeys := by decide
  invoiceKeys := by decide
  paymentKeys := by decide
  customerOf := by decide
  invoiceOf := by decide

def sampleBooks : ZohoBooks PushError where
  newId _ zoho := "zoho-" ++ toString zoho.length
  newId_ne _ zoho := by simp
  writtenVersion zoho _ := some zoho.length
  readVersion zoho _ := some zoho.length
  rejection := .integration .permanent "Resource does not exist."

def sampleWorld (customerSyncEnabled invoiceSyncEnabled : Bool) : World where
  hasBrand := true
  connection := some ⟨true, customerSyncEnabled, invoiceSyncEnabled⟩
  rows := sampleRows
  zoho := []
  unstored := []

end PushJobs

end MultiBrandInvoicing
