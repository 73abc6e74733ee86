import MultiBrandInvoicing.Persistence.Statements

/-!
# Pulling one invoice from Zoho Books

`apps/api/src/integrations/zoho-pull.service.ts`, for one invoice: the list-only
header pull, the refresh of lines that are already stored, and the enrichment of an
invoice opened without lines.  Zoho's amounts are JavaScript numbers; their arithmetic
and the parsing of dates are parameters, so that no result depends on how they round.
The customer cascade and the other invoices of the brand enter through their answers;
sync job records touch no row of the invoice and are left out.
-/

set_option autoImplicit false

namespace MultiBrandInvoicing

open ReadCommitted Program

/-- What the pull does with decimals of type `ν` and with date text. -/
structure ZohoNumbers (ν : Type) where
  mul : ν → ν → ν
  /-- `Math.round(value * 10 ** exponent)`. -/
  roundScaled : ν → Nat → Int
  /-- `Math.round((part / whole) * 10000)`. -/
  ratioBp : Int → Int → Int
  /-- `new Date(text)`, unless it is invalid. -/
  parseDate : String → Option Time

structure ZohoInvoiceListItem (ν : Type) where
  invoiceId : String
  customerId : String
  invoiceNumber : String
  status : String
  currencyCode : String
  total : ν
  balance : ν
  lastModifiedTime : Option String

structure ZohoInvoiceLineItem (ν : Type) where
  name : Option String
  description : Option String
  rate : ν
  quantity : ν
  taxId : Option String

structure ZohoInvoiceDetail (ν : Type) where
  subTotal : ν
  taxTotal : ν
  lineItems : List (ZohoInvoiceLineItem ν)
  notes : Option String

namespace ZohoPullService

def invoiceStatusMap : String → Option InvoiceStatus
  | "draft" => some .draft
  | "sent" => some .sent
  | "viewed" => some .viewed
  | "unpaid" => some .pendingPayment
  | "overdue" => some .pendingPayment
  | "partially_paid" => some .partiallyPaid
  | "paid" => some .paid
  | "void" => some .cancelled
  | _ => none

inductive SyntheticLineKind where
  | tax | cardFee
  deriving DecidableEq, Repr

def pushedTaxLineName : String := "Tax"

def pushedTaxLineDescriptionPrefix : String :=
  "Tax at the rate applied when this invoice was issued"

def pushedCardFeeLineName : String := "Card processing fee"

def pushedCardFeeLineDescription : String :=
  "Applied because this invoice was paid by card or digital wallet"

section Numbers

variable {ν : Type} (numbers : ZohoNumbers ν)

def hasTaxId (line : ZohoInvoiceLineItem ν) : Bool := line.taxId.any (· ≠ "")

def syntheticPushedLineKind (line : ZohoInvoiceLineItem ν) : Option SyntheticLineKind :=
  if hasTaxId line then none
  else if line.name = some pushedTaxLineName &&
      line.description.any (·.startsWith pushedTaxLineDescriptionPrefix) then some .tax
  else if line.name = some pushedCardFeeLineName &&
      line.description = some pushedCardFeeLineDescription then some .cardFee
  else none

def decimalToMinor (amount : ν) (currency : CurrencyCode) : Int :=
  numbers.roundScaled amount (minorUnitExponent currency)

def lineAmount (currency : CurrencyCode) (line : ZohoInvoiceLineItem ν) : Int :=
  decimalToMinor numbers (numbers.mul line.rate line.quantity) currency

def syntheticMinor (kind : SyntheticLineKind) (currency : CurrencyCode)
    (lines : List (ZohoInvoiceLineItem ν)) : Int :=
  ((lines.filter fun line => syntheticPushedLineKind line = some kind).map
    (lineAmount numbers currency)).foldl addNumbers 0

def toLocalLineItem (currency : CurrencyCode) (line : ZohoInvoiceLineItem ν) (position : Nat) :
    LineItem where
  position := position
  itemName := line.name.getD s!"Line {position + 1}"
  description := line.description
  quantity := numbers.roundScaled line.quantity 4
  unitPriceMinor := decimalToMinor numbers line.rate currency
  lineTotalMinor := lineAmount numbers currency line
  taxExempt := !hasTaxId line

def toLocalLineItems (currency : CurrencyCode) (lines : List (ZohoInvoiceLineItem ν)) :
    List LineItem :=
  lines.zipIdx.map fun (line, position) => toLocalLineItem numbers currency line position

/-- The subtotal and the tax of a detail, with the lines the push added for tax and
card fee taken out of the one and, for tax, put into the other. -/
def detailAmounts (detail : ZohoInvoiceDetail ν) (currency : CurrencyCode) : Int × Int :=
  let syntheticTaxMinor := syntheticMinor numbers .tax currency detail.lineItems
  let syntheticFeeMinor := syntheticMinor numbers .cardFee currency detail.lineItems
  (subtractNumbers
      (subtractNumbers (decimalToMinor numbers detail.subTotal currency) syntheticTaxMinor)
      syntheticFeeMinor,
    addNumbers (decimalToMinor numbers detail.taxTotal currency) syntheticTaxMinor)

def upsertLineItems : List LineItem → Tx Unit
  | [] => pure ()
  | item :: rest => do
      upsertLineItem item
      upsertLineItems rest

def applyInvoiceDetail (invoiceId : String) (detail : ZohoInvoiceDetail ν)
    (currency : CurrencyCode) : Tx Unit := do
  let realLines := detail.lineItems.filter fun line => (syntheticPushedLineKind line).isNone
  let (subtotalMinor, taxMinor) := detailAmounts numbers detail currency
  let taxRateBpApplied :=
    if 0 < subtotalMinor then numbers.ratioBp taxMinor subtotalMinor else 0
  let lineItems := toLocalLineItems numbers currency realLines
  updateInvoice .rowWrite invoiceId fun invoice =>
    { invoice with subtotalMinor, taxRateBpApplied, taxMinor, notes := detail.notes }
  upsertLineItems lineItems
  deleteLineItemsFrom lineItems.length
  commitNow

def parseZohoTimestamp (value : Option String) : Option Time :=
  (value.filter (· ≠ "")).bind numbers.parseDate

def isOwnPushEcho (zohoLastModified : Option String) (syncedVersion : Option Time) : Bool :=
  match syncedVersion, parseZohoTimestamp numbers zohoLastModified with
  | some version, some remote => remote ≤ version
  | _, _ => false

/-- The header columns a pull sets on an invoice that is already stored. -/
def pulledHeader (item : ZohoInvoiceListItem ν) (currency : CurrencyCode) (invoice : Invoice) :
    Invoice :=
  { invoice with
    number := item.invoiceNumber
    status := (invoiceStatusMap item.status).getD .sent
    currency := currency.code
    totalMinor := decimalToMinor numbers item.total currency
    balanceMinor := decimalToMinor numbers item.balance currency
    zohoSyncedVersion := parseZohoTimestamp numbers item.lastModifiedTime }

inductive HeaderFailure where
  | numberTaken
  | other (message : String)

/-- What one pull meets outside the rows of its invoice: the customer the invoice names,
once found or pulled, the detail, fetched only when lines are stored, and a failure of
the header upsert. -/
structure PullAnswers (ν : Type) where
  customer : Except String (Option Customer)
  detail : Except String (ZohoInvoiceDetail ν)
  headerFailure : Option HeaderFailure

def pulledCustomer (item : ZohoInvoiceListItem ν) (answers : PullAnswers ν) : Tx Customer := do
  let found ← ofExcept .integration answers.customer
  match found with
  | some customer => pure customer
  | none =>
      .throw (.integration (s!"invoice {item.invoiceId} references Zoho contact " ++
        s!"{item.customerId}, which could not be pulled"))

/-- The update branch of the header upsert. -/
def upsertHeader (item : ZohoInvoiceListItem ν) (currency : CurrencyCode) (customer : Customer) :
    Option HeaderFailure → Tx Unit
  | some .numberTaken =>
      .throw (.integration (s!"Zoho invoice {item.invoiceId} uses number " ++
        s!"\"{item.invoiceNumber}\", which already belongs to a different invoice on this " ++
        "brand — the Zoho-sourced and locally generated number sequences have collided, " ++
        "and one of them has to change"))
  | some (.other message) => .throw (.database message)
  | none => do
      let _ ← writeRows .rowWrite [.invoice] (fun _ => true) fun store =>
        { store with invoice := pulledHeader numbers item currency store.invoice, customer }
      pure ()

/-- `pullOneInvoice` on a stored invoice. -/
def pullOneInvoice (item : ZohoInvoiceListItem ν) (answers : PullAnswers ν) : Tx Bool := do
  let existing ← read
  if isOwnPushEcho numbers item.lastModifiedTime existing.invoice.zohoSyncedVersion then
    pure false
  else do
    let customer ← pulledCustomer item answers
    match supportedCurrency? item.currencyCode with
    | none =>
        .throw (.integration (s!"invoice {item.invoiceId} is denominated in " ++
          s!"{item.currencyCode}, which this platform does not support — it cannot be " ++
          "represented without corrupting the amount"))
    | some currency => do
        if existing.lineItems.isEmpty then pure ()
        else do
          let detail ← ofExcept .integration answers.detail
          applyInvoiceDetail numbers existing.invoice.id detail currency
        upsertHeader numbers item currency customer answers.headerFailure
        pure true

/-- The rows a list-only pull creates for an invoice not seen before. -/
def pulledInvoice (brandId id publicToken : String) (customer : Customer)
    (settings : Option BrandSettings) (item : ZohoInvoiceListItem ν) (currency : CurrencyCode) :
    Store where
  invoice := {
    id
    brandId
    number := item.invoiceNumber
    status := (invoiceStatusMap item.status).getD .sent
    currency := currency.code
    subtotalMinor := decimalToMinor numbers item.total currency
    taxRateBpApplied := 0
    taxMinor := 0
    cardFeeRateBpApplied := 0
    cardFeeMinor := 0
    totalMinor := decimalToMinor numbers item.total currency
    balanceMinor := decimalToMinor numbers item.balance currency
    publicToken
    notes := none
    zohoInvoiceId := some item.invoiceId
    zohoSyncedVersion := parseZohoTimestamp numbers item.lastModifiedTime
    issuedAt := none
    firstViewedAt := none
    paidAt := none
    cancelledAt := none
    previousStatus := none }
  lineItems := []
  customer := customer
  settings := settings
  payments := UniqueTable.empty
  events := []
  checkSubmissions := []

/-- `enrichInvoiceFromZohoOnDemand`; `connected` says whether the brand has a Zoho
connection. -/
def enrichInvoiceFromZohoOnDemand (brandId invoiceId : String) (connected : Bool)
    (fetched : Except String (ZohoInvoiceDetail ν)) : Tx Bool := do
  let existing ← read
  if existing.invoice.id = invoiceId ∧ existing.invoice.brandId = brandId ∧
      existing.invoice.isPushed ∧ connected then do
    let detail ← ofExcept .integration fetched
    applyInvoiceDetail numbers invoiceId detail (toCurrencyCode existing.invoice.currency)
    pure true
  else pure false

end Numbers

end ZohoPullService

end MultiBrandInvoicing
