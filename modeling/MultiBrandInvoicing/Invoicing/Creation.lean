import MultiBrandInvoicing.Money.NumberFigures
import MultiBrandInvoicing.ReadCommitted.Alone
import MultiBrandInvoicing.Services.Invoices

/-!
# The invoices of one brand

`InvoicesService.create` in `apps/api/src/invoices/invoices.service.ts` as the one transaction it
is, on the rows of a brand: its customers, the counter in its settings and its invoices, with the
unique indexes and the widths of the columns of `apps/api/prisma/schema.prisma`.  Beside it stands
the statement by which `zoho-pull.service.ts` writes the header of a pulled invoice, the one other
place that gives an invoice its number.
-/

set_option autoImplicit false

namespace MultiBrandInvoicing

namespace Invoicing

open ReadCommitted Program

/-- A draft with what the rows of the invoice take from it besides its lines and rates. -/
structure Draft extends InvoiceDraftInput where
  customerId : String
  invoiceDate : Time
  dueDate : Time
  internalNotes : Option String
  deriving DecidableEq, Repr

structure InvoiceRow where
  invoice : Invoice
  customerId : String
  invoiceDate : Time
  dueDate : Time
  internalNotes : Option String
  lineItems : List LineItem
  deriving DecidableEq, Repr

/-- The primary key, `publicToken`, and the pairs of the brand with `number` and with
`zohoInvoiceId`. -/
def invoiceIndexes : List (InvoiceRow → Option String) :=
  [fun row => some row.invoice.id, fun row => some row.invoice.publicToken,
    fun row => some row.invoice.number, fun row => row.invoice.zohoInvoiceId]

abbrev InvoiceTable := UniqueTable InvoiceRow String invoiceIndexes

structure NumberSettings where
  invoicePrefix : String
  nextSequence : Int
  deriving DecidableEq, Repr

def NumberSettings.counted (settings : NumberSettings) : NumberSettings :=
  { settings with nextSequence := settings.nextSequence + 1 }

structure Store where
  brandId : String
  customerIds : List String
  settings : Option NumberSettings
  invoices : InvoiceTable
  deriving DecidableEq

def Store.numbers (store : Store) : List String :=
  store.invoices.rows.map fun row => row.invoice.number

structure Draw where
  id : String
  publicToken : String
  deriving DecidableEq, Repr

/-! ## The widths of the columns -/

def isInt4 (value : Int) : Bool := -2147483648 ≤ value && value ≤ 2147483647

def isInt8 (value : Int) : Bool := -9223372036854775808 ≤ value && value ≤ 9223372036854775807

def lineFits (line : LineItem) : Bool :=
  isInt4 line.position && isInt4 line.quantity && isInt8 line.unitPriceMinor &&
    isInt8 line.lineTotalMinor

def headerFits (invoice : Invoice) : Bool :=
  isInt8 invoice.subtotalMinor && isInt4 invoice.taxRateBpApplied && isInt8 invoice.taxMinor &&
    isInt4 invoice.cardFeeRateBpApplied && isInt8 invoice.cardFeeMinor &&
    isInt8 invoice.totalMinor && isInt8 invoice.balanceMinor

def InvoiceRow.fits (row : InvoiceRow) : Bool :=
  headerFits row.invoice && row.lineItems.all lineFits

/-! ## The statements -/

structure PulledInvoice where
  zohoInvoiceId : String
  customerId : String
  number : String
  status : InvoiceStatus
  invoiceDate : Time
  dueDate : Time
  currency : String
  totalMinor : Int
  balanceMinor : Int
  zohoSyncedVersion : Option Time
  deriving DecidableEq, Repr

inductive RowKey where
  | settings
  | id (value : String)
  | publicToken (value : String)
  | number (value : String)
  | zohoInvoiceId (value : String)
  deriving DecidableEq, Repr

inductive InvoiceEffect where
  | allotNumber
  | createInvoice (row : InvoiceRow)
  | upsertInvoice (pulled : PulledInvoice) (draw : Draw)
  deriving DecidableEq, Repr

abbrev Tx := Program Store RowKey InvoiceEffect ServiceError

def PulledInvoice.isAt (pulled : PulledInvoice) (row : InvoiceRow) : Bool :=
  row.invoice.zohoInvoiceId = some pulled.zohoInvoiceId

def PulledInvoice.onRow (pulled : PulledInvoice) (row : InvoiceRow) : InvoiceRow :=
  { row with
    customerId := pulled.customerId
    invoiceDate := pulled.invoiceDate
    dueDate := pulled.dueDate
    invoice := { row.invoice with
      number := pulled.number
      status := pulled.status
      currency := pulled.currency
      totalMinor := pulled.totalMinor
      balanceMinor := pulled.balanceMinor
      zohoSyncedVersion := pulled.zohoSyncedVersion } }

def PulledInvoice.newRow (pulled : PulledInvoice) (brandId : String) (draw : Draw) :
    InvoiceRow where
  customerId := pulled.customerId
  invoiceDate := pulled.invoiceDate
  dueDate := pulled.dueDate
  internalNotes := none
  lineItems := []
  invoice := {
    id := draw.id
    brandId
    number := pulled.number
    status := pulled.status
    currency := pulled.currency
    subtotalMinor := pulled.totalMinor
    taxRateBpApplied := 0
    taxMinor := 0
    cardFeeRateBpApplied := 0
    cardFeeMinor := 0
    totalMinor := pulled.totalMinor
    balanceMinor := pulled.balanceMinor
    publicToken := draw.publicToken
    notes := none
    zohoInvoiceId := some pulled.zohoInvoiceId
    zohoSyncedVersion := pulled.zohoSyncedVersion
    issuedAt := none
    firstViewedAt := none
    paidAt := none
    cancelledAt := none
    previousStatus := none }

namespace InvoiceEffect

def rows : InvoiceEffect → List RowKey
  | allotNumber => [.settings]
  | createInvoice row =>
      [.id row.invoice.id, .publicToken row.invoice.publicToken, .number row.invoice.number]
  | upsertInvoice pulled draw =>
      [.zohoInvoiceId pulled.zohoInvoiceId, .id draw.id, .publicToken draw.publicToken,
        .number pulled.number]

def invoices? (effect : InvoiceEffect) (store : Store) : Option InvoiceTable :=
  match effect with
  | allotNumber => some store.invoices
  | createInvoice row => store.invoices.insert? row
  | upsertInvoice pulled draw =>
      if store.invoices.rows.any pulled.isAt then
        store.invoices.update? pulled.isAt pulled.onRow
      else store.invoices.insert? (pulled.newRow store.brandId draw)

/-- The counter is counted up where it is and has room. -/
def applies (effect : InvoiceEffect) (store : Store) : Bool :=
  match effect with
  | allotNumber => store.settings.any fun settings => isInt4 (settings.nextSequence + 1)
  | createInvoice _ => (effect.invoices? store).isSome
  | upsertInvoice _ _ => (effect.invoices? store).isSome

def apply (effect : InvoiceEffect) (store : Store) : Store :=
  match effect with
  | allotNumber => { store with settings := store.settings.map NumberSettings.counted }
  | createInvoice _ => { store with invoices := (effect.invoices? store).getD store.invoices }
  | upsertInvoice _ _ => { store with invoices := (effect.invoices? store).getD store.invoices }

end InvoiceEffect

def perform (effect : InvoiceEffect) : Tx Bool :=
  writeRows effect effect.rows effect.applies effect.apply

def require (condition : Bool) (error : ServiceError) : Tx Unit :=
  if condition then pure () else .throw error

/-- `brandSettings.update` with its increment, and the row it returns. -/
def allotNumber : Tx NumberSettings := do
  let updated ← perform .allotNumber
  let store ← read
  match store.settings with
  | none => .throw .recordNotFound
  | some settings => do
      require updated (.database "integer out of range")
      pure settings

/-- A value its column cannot hold is refused before any index is looked at. -/
def insertInvoice (row : InvoiceRow) : Tx InvoiceRow := do
  require row.fits (.database "integer out of range")
  let created ← perform (.createInvoice row)
  require created (.conflict "invoice number collision — retry")
  pure row

/-! ## The services -/

def allottedNumber (settings : NumberSettings) : String :=
  s!"{settings.invoicePrefix}-{padStart (toString (settings.nextSequence - 1)) 4}"

def createdRow (brandId number : String) (draft : Draft) (draw : Draw)
    (calcLines : List CalculationLineInput) (result : CalculationResult) : InvoiceRow where
  customerId := draft.customerId
  invoiceDate := draft.invoiceDate
  dueDate := draft.dueDate
  internalNotes := draft.internalNotes
  lineItems := InvoicesService.createdLines 0 draft.lines calcLines result.lines
  invoice := {
    id := draw.id
    brandId
    number
    status := .draft
    currency := draft.currency.code
    subtotalMinor := result.subtotalMinor
    taxRateBpApplied := result.taxRateBpApplied
    taxMinor := result.taxMinor
    cardFeeRateBpApplied := result.cardFeeRateBpApplied
    cardFeeMinor := 0
    totalMinor := result.totalMinor
    balanceMinor := result.totalMinor
    publicToken := draw.publicToken
    notes := draft.notes
    zohoInvoiceId := none
    zohoSyncedVersion := none
    issuedAt := none
    firstViewedAt := none
    paidAt := none
    cancelledAt := none
    previousStatus := none }

def create (draft : Draft) (draw : Draw) : Tx InvoiceRow := do
  let store ← read
  require (store.customerIds.contains draft.customerId)
    (.notFound "customer not found for this brand")
  let quoted ← ofExcept .money (InvoicesService.quoteDraft draft.toInvoiceDraftInput)
  let settings ← allotNumber
  insertInvoice
    (createdRow store.brandId (allottedNumber settings) draft draw quoted.1 quoted.2)

/-- The upsert of a pulled header.  Its retries are for a race on the Zoho id, which is an update
here. -/
def pullInvoice (pulled : PulledInvoice) (draw : Draw) : Tx Unit := do
  let written ← perform (.upsertInvoice pulled draw)
  require written (.integration
    (s!"Zoho invoice {pulled.zohoInvoiceId} uses number \"{pulled.number}\", which " ++
      "already belongs to a different invoice on this brand — the Zoho-sourced and " ++
      "locally generated number sequences have collided, and one of them has to change"))

/-! ## What the statements do on their own -/

def collision : ServiceError := .conflict "invoice number collision — retry"

theorem require_alone (condition : Bool) (error : ServiceError) (store : Store) :
    (require condition error).alone store =
      if condition then .ok ((), store) else .error error := by
  cases condition <;> rfl

theorem allotNumber_alone (store : Store) :
    allotNumber.alone store =
      match store.settings with
      | none => .error .recordNotFound
      | some settings =>
          if isInt4 (settings.nextSequence + 1) then
            .ok (settings.counted, { store with settings := some settings.counted })
          else .error (.database "integer out of range") := by
  cases found : store.settings with
  | none => simp [allotNumber, perform, alone, InvoiceEffect.applies, found]
  | some settings =>
      by_cases room : isInt4 (settings.nextSequence + 1) = true
      · simp [allotNumber, perform, alone, InvoiceEffect.applies, InvoiceEffect.apply, require,
          found, room]
      · simp [allotNumber, perform, alone, InvoiceEffect.applies, require, found, room]

theorem insertInvoice_alone (row : InvoiceRow) (store : Store) :
    (insertInvoice row).alone store =
      if row.fits then
        match store.invoices.insert? row with
        | some table => .ok (row, { store with invoices := table })
        | none => .error collision
      else .error (.database "integer out of range") := by
  by_cases fits : row.fits = true
  · cases inserted : store.invoices.insert? row with
    | none =>
        simp [insertInvoice, perform, alone, require, fits, InvoiceEffect.applies,
          InvoiceEffect.invoices?, inserted, collision]
    | some table =>
        simp [insertInvoice, perform, alone, require, fits, InvoiceEffect.applies,
          InvoiceEffect.invoices?, InvoiceEffect.apply, inserted]
  · simp [insertInvoice, alone, require, fits]

end Invoicing

end MultiBrandInvoicing
