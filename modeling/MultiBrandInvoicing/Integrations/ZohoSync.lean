import MultiBrandInvoicing.Persistence.Statements

/-!
# Pushing an invoice and a payment to Zoho Books

`apps/api/src/integrations/zoho-sync.service.ts`, as sessions on the rows of one invoice.
What Zoho and the push of the customer answer is an argument.  The unsynced reasons, the
payment's remote id and the sync job records are read by no modelled operation and left
out.
-/

set_option autoImplicit false

namespace MultiBrandInvoicing

open ReadCommitted Program

inductive AccountingInvoiceStatus where
  | draft | sent | paid | partiallyPaid | void
  deriving DecidableEq, Repr

structure AccountingLineItem where
  name : String
  description : Option String
  quantity : Int
  unitPriceMinor : Int
  lineTotalMinor : Int
  taxExempt : Bool
  deriving DecidableEq, Repr

structure AccountingInvoice where
  localId : String
  remoteId : Option String
  number : String
  customerRemoteId : String
  currency : String
  lines : List AccountingLineItem
  subtotalMinor : Int
  taxRateBpApplied : Int
  taxMinor : Int
  cardFeeMinor : Int
  totalMinor : Int
  notes : Option String
  status : AccountingInvoiceStatus
  deriving DecidableEq, Repr

structure AccountingPayment where
  localId : String
  invoiceRemoteId : String
  customerRemoteId : String
  amountMinor : Int
  currency : String
  method : PaymentMethod
  reference : Option String
  deriving DecidableEq, Repr

structure RemoteRef where
  remoteId : String
  updatedAt : Option Time
  deriving DecidableEq, Repr

/-- What a push meets outside the rows of the invoice: the customer's contact id, once it
is read or its push has yielded it, and what the adapter returns or throws. -/
structure PushAnswers where
  contact : Except String (Option String)
  pushInvoice : AccountingInvoice → Except String RemoteRef
  pushPayment : AccountingPayment → Except String RemoteRef

namespace ZohoSyncService

def toAccountingInvoiceStatus : InvoiceStatus → AccountingInvoiceStatus
  | .draft => .draft
  | .paid => .paid
  | .partiallyPaid => .partiallyPaid
  | .cancelled => .void
  | .sent => .sent
  | .viewed => .sent
  | .pendingPayment => .sent

def toAccountingLine (line : LineItem) : AccountingLineItem where
  name := line.itemName
  description := line.description
  quantity := line.quantity
  unitPriceMinor := toNumber line.unitPriceMinor
  lineTotalMinor := toNumber line.lineTotalMinor
  taxExempt := line.taxExempt

def toAccountingInvoice (store : Store) (customerRemoteId : String) : AccountingInvoice where
  localId := store.invoice.id
  remoteId := store.invoice.zohoInvoiceId
  number := store.invoice.number
  customerRemoteId := customerRemoteId
  currency := store.invoice.currency
  lines := store.lineItems.map toAccountingLine
  subtotalMinor := toNumber store.invoice.subtotalMinor
  taxRateBpApplied := store.invoice.taxRateBpApplied
  taxMinor := toNumber store.invoice.taxMinor
  cardFeeMinor := toNumber store.invoice.cardFeeMinor
  totalMinor := toNumber store.invoice.totalMinor
  notes := store.invoice.notes
  status := toAccountingInvoiceStatus store.invoice.status

def isBlank (text : String) : Bool := (trim text.toList).isEmpty

def validateInvoiceForSync (invoice : AccountingInvoice) : Option String :=
  if (supportedCurrency? invoice.currency).isNone then
    some s!"invoice currency {invoice.currency} is not supported for Zoho sync"
  else if invoice.lines.isEmpty then some "invoice has no line items"
  else if isBlank invoice.number then some "invoice has no invoice number"
  else if invoice.customerRemoteId = "" then some "invoice has no synced customer to bill"
  else none

def validatePaymentForSync (payment : AccountingPayment) : Option String :=
  if payment.amountMinor ≤ 0 then some "payment amount must be greater than zero"
  else if (supportedCurrency? payment.currency).isNone then
    some s!"payment currency {payment.currency} is not supported for Zoho sync"
  else none

def refuse : Option String → Tx Unit
  | some reason => .throw (.integration reason)
  | none => pure ()

def pushInvoice (answers : PushAnswers) : Tx Unit := do
  let store ← read
  let contact ← ofExcept .integration answers.contact
  match contact.filter (· ≠ "") with
  | none => .throw (.integration "customer push did not yield a Zoho contact id")
  | some customerRemoteId => do
      let invoice := toAccountingInvoice store customerRemoteId
      refuse (validateInvoiceForSync invoice)
      let result ← ofExcept .integration (answers.pushInvoice invoice)
      updateInvoice .rowWrite store.invoice.id fun row =>
        { row with zohoInvoiceId := some result.remoteId, zohoSyncedVersion := result.updatedAt }
      commitNow

/-- A push that meets no refusal stores the id and version of Zoho's answer for what it has
read, and nothing else. -/
theorem pushInvoice_exec {answers : PushAnswers} {store : Store} {contact : String}
    {result : RemoteRef} (known : answers.contact = .ok (some contact)) (named : contact ≠ "")
    (valid : validateInvoiceForSync (toAccountingInvoice store contact) = none)
    (answered : answers.pushInvoice (toAccountingInvoice store contact) = .ok result) :
    ((pushInvoice answers).exec store).store =
      { store with invoice := { store.invoice with
          zohoInvoiceId := some result.remoteId, zohoSyncedVersion := result.updatedAt } } := by
  have given : (some contact).filter (· ≠ "") = some contact := by simp [named]
  simp only [pushInvoice, exec, read_bind, execFrom_select, known, ofExcept_ok, done_bind, given,
    valid, refuse, answered]
  simp [execFrom_bind, commitNow]

def toAccountingPayment (payment : Payment) (invoiceRemoteId customerRemoteId : String) :
    AccountingPayment where
  localId := payment.id
  invoiceRemoteId := invoiceRemoteId
  customerRemoteId := customerRemoteId
  amountMinor := toNumber payment.amountMinor
  currency := payment.currency
  method := payment.method
  reference := payment.gatewayReference

def pushPayment (paymentId : String) (answers : PushAnswers) : Tx Unit := do
  let store ← read
  if store.payments.rows.all fun payment => payment.id ≠ paymentId then
    .throw .recordNotFound
  else do
    if store.invoice.isPushed then pure () else pushInvoice answers
    let refreshed ← read
    match refreshed.payments.rows.find? fun payment => payment.id = paymentId with
    | none => .throw .recordNotFound
    | some payment => do
        let contact ← ofExcept .integration answers.contact
        match refreshed.invoice.zohoInvoiceId.filter (· ≠ ""), contact.filter (· ≠ "") with
        | some invoiceRemoteId, some customerRemoteId => do
            let dto := toAccountingPayment payment invoiceRemoteId customerRemoteId
            refuse (validatePaymentForSync dto)
            let _ ← ofExcept .integration (answers.pushPayment dto)
            let found ← writeRows .rowWrite [.payment paymentId]
              (fun store => store.payments.rows.any fun payment => payment.id = paymentId) id
            if found then pure () else .throw .recordNotFound
        | _, _ =>
            .throw (.integration
              "invoice or customer push did not yield the remote ids this payment needs")

end ZohoSyncService

end MultiBrandInvoicing
