import MultiBrandInvoicing.Domain.InvoiceStatus
import MultiBrandInvoicing.Ports.PaymentGateway
import MultiBrandInvoicing.ReadCommitted.Interleaving
import MultiBrandInvoicing.Tables.Unique

/-!
# The rows of one invoice

`apps/api/prisma/schema.prisma`, restricted to what belongs to one invoice: its own
row, its lines, customer and brand settings, and the payments, events and check
submissions that refer to it.  Columns that no modelled operation reads or writes
are left out.  The unique indexes of the payment table are part of its type.
-/

set_option autoImplicit false

namespace MultiBrandInvoicing

structure Invoice where
  id : String
  brandId : String
  number : String
  status : InvoiceStatus
  currency : String
  subtotalMinor : Int
  taxRateBpApplied : Int
  taxMinor : Int
  cardFeeRateBpApplied : Int
  cardFeeMinor : Int
  totalMinor : Int
  balanceMinor : Int
  publicToken : String
  notes : Option String
  zohoInvoiceId : Option String
  zohoSyncedVersion : Option Time
  issuedAt : Option Time
  firstViewedAt : Option Time
  paidAt : Option Time
  cancelledAt : Option Time
  previousStatus : Option InvoiceStatus
  deriving DecidableEq, Repr

/-- `zohoInvoiceId` as the services test it: present and not empty. -/
def Invoice.isPushed (invoice : Invoice) : Bool := invoice.zohoInvoiceId.any (· ≠ "")

structure LineItem where
  position : Nat
  itemName : String
  description : Option String
  quantity : Int
  unitPriceMinor : Int
  lineTotalMinor : Int
  taxExempt : Bool
  deriving DecidableEq, Repr

def LineItem.toCalculationLine (line : LineItem) : CalculationLineInput where
  quantity := line.quantity
  unitPriceMinor := toNumber line.unitPriceMinor
  taxExempt := line.taxExempt

structure Customer where
  email : Option String
  deriving DecidableEq, Repr

structure BrandSettings where
  cardEnabled : Bool
  applePayEnabled : Bool
  googlePayEnabled : Bool
  achEnabled : Bool
  checkEnabled : Bool
  deriving DecidableEq, Repr

inductive PaymentStatus where
  | initiated | processing | settled | failed | cancelled | refunded | partiallyRefunded
  deriving DecidableEq, Repr

structure Payment where
  id : String
  brandId : String
  method : PaymentMethod
  amountMinor : Int
  currency : String
  status : PaymentStatus
  gatewayReference : Option String := none
  idempotencyKey : String
  lastEventAt : Option Time := none
  declineReason : Option String := none
  settledAt : Option Time := none
  deriving DecidableEq, Repr

/-- The `data` of an update to a payment's event columns; what is absent stays. -/
structure PaymentUpdate where
  status : PaymentStatus
  lastEventAt : Time
  settledAt : Option Time := none
  declineReason : Option (Option String) := none
  deriving DecidableEq, Repr

def Payment.apply (payment : Payment) (data : PaymentUpdate) : Payment :=
  { payment with
    status := data.status
    lastEventAt := some data.lastEventAt
    settledAt := data.settledAt.orElse fun _ => payment.settledAt
    declineReason := data.declineReason.getD payment.declineReason }

def paymentIndexes : List (Payment → Option String) :=
  [fun payment => some payment.id, fun payment => some payment.idempotencyKey,
    Payment.gatewayReference]

abbrev PaymentTable := UniqueTable Payment String paymentIndexes

inductive InvoiceEventType where
  | issue | firstView | paymentSettled | paymentFailed | manualPaymentRecorded | cancel
  deriving DecidableEq, Repr

inductive EventPayload where
  | declined (declineReason : String)
  | manualPayment (paymentId : String) (amountMinor : Int) (method : PaymentMethod)
      (reference : Option String)
  deriving DecidableEq, Repr

structure InvoiceEvent where
  eventType : InvoiceEventType
  fromStatus : InvoiceStatus
  toStatus : InvoiceStatus
  actor : String
  payload : Option EventPayload := none
  deriving DecidableEq, Repr

inductive CheckStatus where
  | submitted | underReview | approved | rejected
  deriving DecidableEq, Repr

structure CheckSubmission where
  id : String
  brandId : String
  checkNumber : String
  amountMinor : Int
  customerNote : Option String
  status : CheckStatus
  reviewedBy : Option String := none
  reviewNote : Option String := none
  reviewedAt : Option Time := none
  deriving DecidableEq, Repr

structure Store where
  invoice : Invoice
  lineItems : List LineItem
  customer : Customer
  settings : Option BrandSettings
  payments : PaymentTable
  events : List InvoiceEvent
  checkSubmissions : List CheckSubmission
  deriving DecidableEq

def Store.SameButSubmissions (store next : Store) : Prop :=
  next = { store with checkSubmissions := next.checkSubmissions }

theorem Store.sameButSubmissions_self (store : Store) : store.SameButSubmissions store := rfl

end MultiBrandInvoicing
