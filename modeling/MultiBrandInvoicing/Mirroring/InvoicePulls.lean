import MultiBrandInvoicing.Integrations.PullEffects
import MultiBrandInvoicing.Ordering.NewestWins

/-!
# Pulling one invoice, seen before or not

`pullOneInvoice` of `apps/api/src/integrations/zoho-pull.service.ts` on the one row the
brand may have for an invoice of Zoho.  A row that is there is pulled as before; beside its
other rows it has the columns of the header that nothing else in it depends on.
-/

set_option autoImplicit false

namespace MultiBrandInvoicing

open ReadCommitted Program

structure ZohoInvoice (ν : Type) where
  item : ZohoInvoiceListItem ν
  date : String
  dueDate : String

structure InvoiceRecord where
  store : Store
  customerId : String
  invoiceDate : Time
  dueDate : Time
  deriving DecidableEq

structure InvoiceHeader where
  customerId : String
  number : String
  status : InvoiceStatus
  invoiceDate : Time
  dueDate : Time
  currency : String
  totalMinor : Int
  balanceMinor : Int
  zohoSyncedVersion : Option Time
  deriving DecidableEq

def InvoiceRecord.header (record : InvoiceRecord) : InvoiceHeader where
  customerId := record.customerId
  number := record.store.invoice.number
  status := record.store.invoice.status
  invoiceDate := record.invoiceDate
  dueDate := record.dueDate
  currency := record.store.invoice.currency
  totalMinor := record.store.invoice.totalMinor
  balanceMinor := record.store.invoice.balanceMinor
  zohoSyncedVersion := record.store.invoice.zohoSyncedVersion

/-- What the row is created with beside the snapshot. -/
structure InvoiceCreation where
  brandId : String
  id : String
  publicToken : String
  settings : Option BrandSettings

namespace ZohoPullService

section Numbers

variable {ν : Type} (numbers : ZohoNumbers ν)

/-- `new Date(item.date)` and `new Date(item.due_date)`; the client refuses an invalid one. -/
def invoiceDates (invoice : ZohoInvoice ν) : Option (Time × Time) := do
  let invoiceDate ← numbers.parseDate invoice.date
  let dueDate ← numbers.parseDate invoice.dueDate
  pure (invoiceDate, dueDate)

def headerFailed (item : ZohoInvoiceListItem ν) : HeaderFailure → ServiceError
  | .numberTaken => .integration (s!"Zoho invoice {item.invoiceId} uses number " ++
      s!"\"{item.invoiceNumber}\", which already belongs to a different invoice on this " ++
      "brand — the Zoho-sourced and locally generated number sequences have collided, " ++
      "and one of them has to change")
  | .other message => .database message

def createPulled (localCustomerId : String → String) (creation : InvoiceCreation)
    (invoice : ZohoInvoice ν) (answers : PullAnswers ν) : Except ServiceError InvoiceRecord :=
  match answers.customer with
  | .error message => .error (.integration message)
  | .ok none =>
      .error (.integration (s!"invoice {invoice.item.invoiceId} references Zoho contact " ++
        s!"{invoice.item.customerId}, which could not be pulled"))
  | .ok (some customer) =>
      match supportedCurrency? invoice.item.currencyCode with
      | none =>
          .error (.integration (s!"invoice {invoice.item.invoiceId} is denominated in " ++
            s!"{invoice.item.currencyCode}, which this platform does not support — it cannot be " ++
            "represented without corrupting the amount"))
      | some currency =>
          match invoiceDates numbers invoice, answers.headerFailure with
          | none, _ => .error (.database "Invalid Date")
          | some _, some failure => .error (headerFailed invoice.item failure)
          | some (invoiceDate, dueDate), none => .ok {
              store := pulledInvoice numbers creation.brandId creation.id creation.publicToken
                customer creation.settings invoice.item currency
              customerId := localCustomerId invoice.item.customerId
              invoiceDate
              dueDate }

/-- The pull of an invoice that is stored.  The header columns are written by one upsert,
which is the last thing a pull does. -/
def updatePulled (localCustomerId : String → String) (record : InvoiceRecord)
    (invoice : ZohoInvoice ν) (answers : PullAnswers ν) :
    Except ServiceError Bool × InvoiceRecord :=
  match invoiceDates numbers invoice with
  | none =>
      let failing := { answers with headerFailure := some (.other "Invalid Date") }
      let ended := (pullOneInvoice numbers invoice.item failing).exec record.store
      (ended.outcome, { record with store := ended.store })
  | some (invoiceDate, dueDate) =>
      let ended := (pullOneInvoice numbers invoice.item answers).exec record.store
      match ended.outcome with
      | .ok true => (.ok true, {
          store := ended.store
          customerId := localCustomerId invoice.item.customerId
          invoiceDate
          dueDate })
      | outcome => (outcome, { record with store := ended.store })

/-- What the pull returns or throws, and the row as it leaves it.  `localCustomerId` is the
customer the brand has for a contact; the index on the two makes it one. -/
def pullInvoice (localCustomerId : String → String) (creation : InvoiceCreation)
    (existing : Option InvoiceRecord) (invoice : ZohoInvoice ν) (answers : PullAnswers ν) :
    Except ServiceError Bool × Option InvoiceRecord :=
  match existing with
  | none =>
      match createPulled numbers localCustomerId creation invoice answers with
      | .error error => (.error error, none)
      | .ok record => (.ok true, some record)
  | some record =>
      let pulled := updatePulled numbers localCustomerId record invoice answers
      (pulled.1, some pulled.2)

def invoiceHeader (localCustomerId : String → String) (invoice : ZohoInvoice ν) :
    Option InvoiceHeader := do
  let currency ← supportedCurrency? invoice.item.currencyCode
  let (invoiceDate, dueDate) ← invoiceDates numbers invoice
  pure {
    customerId := localCustomerId invoice.item.customerId
    number := invoice.item.invoiceNumber
    status := (invoiceStatusMap invoice.item.status).getD .sent
    invoiceDate
    dueDate
    currency := currency.code
    totalMinor := decimalToMinor numbers invoice.item.total currency
    balanceMinor := decimalToMinor numbers invoice.item.balance currency
    zohoSyncedVersion := parseZohoTimestamp numbers invoice.item.lastModifiedTime }

/-! ## What a pull does to the header -/

variable {localCustomerId : String → String} {creation : InvoiceCreation}
  {invoice : ZohoInvoice ν} {answers : PullAnswers ν}

def storedVersion (existing : Option InvoiceRecord) : Option Time :=
  existing.bind fun record => record.store.invoice.zohoSyncedVersion

inductive Pulled (localCustomerId : String → String) (existing : Option InvoiceRecord)
    (invoice : ZohoInvoice ν) : Except ServiceError Bool × Option InvoiceRecord → Prop where
  | skipped
      (echo : isOwnPushEcho numbers invoice.item.lastModifiedTime (storedVersion existing) = true) :
      Pulled localCustomerId existing invoice (.ok false, existing)
  | applied (record : InvoiceRecord)
      (newer : isOwnPushEcho numbers invoice.item.lastModifiedTime (storedVersion existing) = false)
      (header : some record.header = invoiceHeader numbers localCustomerId invoice) :
      Pulled localCustomerId existing invoice (.ok true, some record)
  | failed (error : ServiceError) (left : Option InvoiceRecord)
      (header : left.map InvoiceRecord.header = existing.map InvoiceRecord.header) :
      Pulled localCustomerId existing invoice (.error error, left)

theorem pullInvoice_echo {existing : Option InvoiceRecord}
    (echo : isOwnPushEcho numbers invoice.item.lastModifiedTime (storedVersion existing) = true) :
    pullInvoice numbers localCustomerId creation existing invoice answers =
      (.ok false, existing) := by
  cases existing with
  | none => cases echo
  | some record =>
      have skipped : ∀ answers, (pullOneInvoice numbers invoice.item answers).exec record.store =
          ⟨.ok false, record.store, record.store, []⟩ := fun _ => pullOneInvoice_echo numbers echo
      unfold pullInvoice updatePulled
      cases dates : invoiceDates numbers invoice with
      | none =>
          simp only [skipped]
          rfl
      | some both =>
          simp only [skipped]
          rfl

theorem createPulled_header {record : InvoiceRecord}
    (created : createPulled numbers localCustomerId creation invoice answers = .ok record) :
    some record.header = invoiceHeader numbers localCustomerId invoice := by
  unfold createPulled at created
  split at created
  case h_1 => cases created
  case h_2 => cases created
  case h_3 customer found =>
    split at created
    case h_1 => cases created
    case h_2 currency supported =>
      split at created
      case h_1 => cases created
      case h_2 => cases created
      case h_3 invoiceDate dueDate dates upserts =>
        cases created
        simp [invoiceHeader, supported, dates, InvoiceRecord.header, pulledInvoice]

theorem updatePulled_pulled (record : InvoiceRecord) :
    Pulled numbers localCustomerId (some record) invoice
      ((updatePulled numbers localCustomerId record invoice answers).1,
        some (updatePulled numbers localCustomerId record invoice answers).2) := by
  unfold updatePulled
  cases dates : invoiceDates numbers invoice with
  | none =>
      let failing := { answers with headerFailure := some (.other "Invalid Date") }
      cases outcome : ((pullOneInvoice numbers invoice.item failing).exec record.store).outcome with
      | error error =>
          have detail := pullOneInvoice_failed numbers outcome
          simp only [failing] at outcome detail
          simp only [outcome]
          refine .failed error _ ?_
          rw [detail]
          rfl
      | ok applied =>
          rcases pullOneInvoice_returned numbers outcome with
            ⟨rfl, echo, same⟩ | ⟨_, upserts, _⟩
          · simp only [failing] at outcome same
            simp only [outcome, same]
            exact .skipped echo
          · cases upserts
  | some both =>
      obtain ⟨invoiceDate, dueDate⟩ := both
      cases outcome : ((pullOneInvoice numbers invoice.item answers).exec record.store).outcome with
      | error error =>
          have detail := pullOneInvoice_failed numbers outcome
          simp only [outcome]
          refine .failed error _ ?_
          rw [detail]
          rfl
      | ok applied =>
          rcases pullOneInvoice_returned numbers outcome with
            ⟨rfl, echo, same⟩ | ⟨rfl, _, customer, currency, writing, written⟩
          · simp only [outcome, same]
            exact .skipped echo
          · simp only [outcome]
            refine .applied _ writing.newer ?_
            simp only [invoiceHeader, writing.currency, dates]
            rcases written with ⟨_, done⟩ | ⟨_, detail, _, done⟩
            · simp only [done]
              rfl
            · simp only [done]
              rfl

theorem pullInvoice_pulled (existing : Option InvoiceRecord) :
    Pulled numbers localCustomerId existing invoice
      (pullInvoice numbers localCustomerId creation existing invoice answers) := by
  cases existing with
  | some record => exact updatePulled_pulled numbers record
  | none =>
      unfold pullInvoice
      cases created : createPulled numbers localCustomerId creation invoice answers with
      | error error => exact .failed error none rfl
      | ok record => exact .applied record rfl (createPulled_header numbers created)

end Numbers

end ZohoPullService

end MultiBrandInvoicing
