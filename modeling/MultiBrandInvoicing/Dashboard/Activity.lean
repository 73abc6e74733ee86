import Mathlib.Order.WithBot
import MultiBrandInvoicing.Dashboard.Figures
import MultiBrandInvoicing.Encodings.CodeUnits
import MultiBrandInvoicing.Money.NumberFigures
import MultiBrandInvoicing.Tables.TopRows

/-!
# The recent activity of the dashboard

`getRecentActivity` of `apps/api/src/dashboard/dashboard.service.ts`: the newest ten of each of
four queries are merged, and the customers that were never edited are left out of the last of them
only afterwards.  What is shown are nevertheless the newest ten of all activities.
-/

set_option autoImplicit false

namespace MultiBrandInvoicing

namespace Dashboard

open TopRows

/-! ## The rows of the four queries -/

structure ActivityBrand where
  displayName : String
  themeColor : String
  deriving DecidableEq, Repr

structure PaymentActivity where
  amountMinor : Int
  currency : CurrencyCode
  status : PaymentStatus
  settledAt : Option Time
  brandId : String
  brand : ActivityBrand
  customerName : String
  deriving DecidableEq, Repr

structure InvoiceEventActivity where
  eventType : InvoiceEventType
  occurredAt : Time
  number : String
  brandId : String
  brand : ActivityBrand
  customerName : String
  deriving DecidableEq, Repr

structure CustomerActivity where
  displayName : String
  createdAt : Time
  updatedAt : Time
  brandId : String
  brand : ActivityBrand
  deriving DecidableEq, Repr

structure ActivityData where
  payments : List PaymentActivity
  events : List InvoiceEventActivity
  customers : List CustomerActivity
  deriving DecidableEq, Repr

namespace ActivityData

variable (data : ActivityData) (scope : Scope) (brandId : Option String)

def settledPayments : List PaymentActivity :=
  data.payments.filter fun row =>
    scope row.brandId && row.status = .settled && ofBrand brandId row.brandId

def issued : List InvoiceEventActivity :=
  data.events.filter fun row =>
    scope row.brandId && row.eventType = .issue && ofBrand brandId row.brandId

def listed : List CustomerActivity :=
  data.customers.filter fun row => scope row.brandId && ofBrand brandId row.brandId

end ActivityData

/-- `desc` puts a missing time first. -/
def nullsFirst (date : Option Time) : WithTop Int := date

def shownCount : Nat := 10

structure ActivityAnswers where
  payments : List PaymentActivity
  issued : List InvoiceEventActivity
  customersCreated : List CustomerActivity
  customersUpdated : List CustomerActivity
  deriving DecidableEq, Repr

/-- The four queries answer for the same rows; which of rows with the same time come first is up
to the database. -/
structure Answered (data : ActivityData) (scope : Scope) (brandId : Option String)
    (answers : ActivityAnswers) : Prop where
  payments : IsTop (fun row => nullsFirst row.settledAt) shownCount
    (data.settledPayments scope brandId) answers.payments
  issued : IsTop InvoiceEventActivity.occurredAt shownCount (data.issued scope brandId)
    answers.issued
  customersCreated : IsTop CustomerActivity.createdAt shownCount (data.listed scope brandId)
    answers.customersCreated
  customersUpdated : IsTop CustomerActivity.updatedAt shownCount (data.listed scope brandId)
    answers.customersUpdated

/-! ## The items -/

inductive RecentActivityKind where
  | paymentReceived
  | invoiceSent
  | customerAdded
  | customerUpdated
  deriving DecidableEq, Repr

structure RecentActivityItem where
  kind : RecentActivityKind
  brandId : String
  brandName : Option String
  brandThemeColor : String
  brandInitial : Encodings.CodeUnits
  message : String
  occurredAt : Time
  deriving DecidableEq, Repr

inductive Activity where
  | paymentReceived (row : PaymentActivity) (settledAt : Time)
  | invoiceSent (row : InvoiceEventActivity)
  | customerAdded (row : CustomerActivity)
  | customerUpdated (row : CustomerActivity)
  deriving DecidableEq, Repr

def Activity.occurredAt : Activity → Time
  | paymentReceived _ settledAt => settledAt
  | invoiceSent row => row.occurredAt
  | customerAdded row => row.createdAt
  | customerUpdated row => row.updatedAt

/-- What the language knows of amounts and capitals. -/
structure Locale where
  displayAmount : Int → CurrencyCode → String
  toUpperCase : Encodings.CodeUnits → Encodings.CodeUnits

section Items

variable (locale : Locale) (brandId : Option String)

def brandInitial (name : String) : Encodings.CodeUnits :=
  let first := (Encodings.ofString (String.ofList (trim name.toList))).take 1
  locale.toUpperCase (if first = [] then Encodings.ofString "?" else first)

def itemOf (kind : RecentActivityKind) (id : String) (brand : ActivityBrand) (message : String)
    (occurredAt : Time) : RecentActivityItem where
  kind := kind
  brandId := id
  brandName := if brandId.all fun wanted => wanted = "" then some brand.displayName else none
  brandThemeColor := brand.themeColor
  brandInitial := brandInitial locale brand.displayName
  message := message
  occurredAt := occurredAt

end Items

/-! ## The queries have the newest ten between them -/

section Covering

variable {data : ActivityData} {scope : Scope} {brandId : Option String} {count : Nat}

end Covering

/-! ## What is shown -/

section Shown

variable (locale : Locale) (brandId : Option String)

end Shown

/-! ## A dashboard -/

def sampleLocale : Locale where
  displayAmount amountMinor _ := toString amountMinor
  toUpperCase := id

def sampleActivityBrand : ActivityBrand where
  displayName := "North"
  themeColor := "#123456"

def sampleItem (kind : RecentActivityKind) (message : String) (occurredAt : Time) :
    RecentActivityItem :=
  itemOf sampleLocale none kind "b1" sampleActivityBrand message occurredAt

end Dashboard

end MultiBrandInvoicing
