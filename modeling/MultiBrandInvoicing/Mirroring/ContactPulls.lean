import MultiBrandInvoicing.Integrations.ZohoPresence
import MultiBrandInvoicing.Integrations.ZohoPull
import MultiBrandInvoicing.Mirroring.ContactPushes
import MultiBrandInvoicing.Ordering.NewestWins

/-!
# Pulling one contact

`pullOneCustomer` of `apps/api/src/integrations/zoho-pull.service.ts` on the one row the
brand may have for a contact, with what it reads of `GET /contacts/{id}`.  The row and its
contact persons are written in one transaction.
-/

set_option autoImplicit false

namespace MultiBrandInvoicing

/-- The texts of a JSON object; a key may be there with null. -/
abbrev ZohoAddressResponse := List (String × Option String)

structure ZohoContactPersonDetail where
  contactPersonId : String
  salutation : Option String
  firstName : String
  lastName : Option String
  email : Option String
  phone : Option String
  mobile : Option String
  skype : Option String
  designation : Option String
  department : Option String
  isPrimaryContact : Option Bool

structure ZohoContactDetail where
  customerSubType : Option String
  contactName : String
  companyName : Option String
  firstName : Option String
  lastName : Option String
  email : Option String
  phone : Option String
  status : Option String
  billingAddress : Option ZohoAddressResponse
  shippingAddress : Option ZohoAddressResponse
  contactPersons : Option (List ZohoContactPersonDetail)
  lastModifiedTime : Option String

structure CustomerHeader where
  type : CustomerType
  displayName : String
  companyName : Option String
  firstName : Option String
  lastName : Option String
  email : Option String
  phone : Option String
  status : CustomerStatus
  zohoSyncedVersion : Option Time
  billingAddress : Option AccountingAddress
  shippingAddress : Option AccountingAddress
  deriving DecidableEq

structure CustomerContactPerson where
  zohoContactPersonId : Option String
  salutation : Option String
  firstName : String
  lastName : Option String
  email : Option String
  phone : Option String
  mobile : Option String
  skype : Option String
  designation : Option String
  department : Option String
  isPrimaryContact : Bool
  deriving DecidableEq

structure CustomerRow where
  header : CustomerHeader
  contactPersons : List CustomerContactPerson
  deriving DecidableEq

def AccountingAddress.withoutCountry (address : AccountingAddress) : AccountingAddress :=
  { address with country := none }

/-- The header without the countries, which Zoho is never asked for. -/
def CustomerHeader.withoutCountries (header : CustomerHeader) : CustomerHeader :=
  { header with
    billingAddress := header.billingAddress.map AccountingAddress.withoutCountry
    shippingAddress := header.shippingAddress.map AccountingAddress.withoutCountry }

/-- What one pull of a contact meets: its snapshot, and the failure of its transaction. -/
structure ContactAnswers where
  fetched : Except String ZohoContactDetail
  failure : Option String

namespace ZohoPullService

def fromZohoAddress : Option ZohoAddressResponse → Option AccountingAddress
  | none => none
  | some [] => none
  | some fields => some {
      line1 := (fields.lookup "address").join
      line2 := none
      city := (fields.lookup "city").join
      region := (fields.lookup "state").join
      postalCode := (fields.lookup "zip").join
      country := none }

def preserveLocalCountry (pulled existing : Option AccountingAddress) : Option AccountingAddress :=
  pulled.map fun address => { address with country := existing.bind AccountingAddress.country }

def toContactPerson (person : ZohoContactPersonDetail) : CustomerContactPerson where
  zohoContactPersonId := some person.contactPersonId
  salutation := person.salutation
  firstName := person.firstName
  lastName := person.lastName
  email := person.email
  phone := person.phone
  mobile := person.mobile
  skype := person.skype
  designation := person.designation
  department := person.department
  isPrimaryContact := person.isPrimaryContact.getD false

def upsertContactPerson (rows : List CustomerContactPerson) (person : ZohoContactPersonDetail) :
    List CustomerContactPerson :=
  if rows.any fun row => row.zohoContactPersonId = some person.contactPersonId then
    rows.map fun row =>
      if row.zohoContactPersonId = some person.contactPersonId then toContactPerson person else row
  else rows ++ [toContactPerson person]

/-- A row without a Zoho id is not one that `notIn` matches. -/
def deletePersonsNotIn (persons : List ZohoContactPersonDetail)
    (rows : List CustomerContactPerson) : List CustomerContactPerson :=
  rows.filter fun row => row.zohoContactPersonId.all fun id =>
    (persons.map ZohoContactPersonDetail.contactPersonId).contains id

section Numbers

variable {ν : Type} (numbers : ZohoNumbers ν)

def customerData (contact : ZohoContactDetail) (existing : Option CustomerRow) :
    CustomerHeader where
  type := if contact.customerSubType = some "individual" then .individual else .business
  displayName := contact.contactName
  companyName := contact.companyName
  firstName := contact.firstName
  lastName := contact.lastName
  email := contact.email
  phone := contact.phone
  status := mapContactStatus contact.status
  zohoSyncedVersion := parseZohoTimestamp numbers contact.lastModifiedTime
  billingAddress := preserveLocalCountry (fromZohoAddress contact.billingAddress)
    (existing.bind fun row => row.header.billingAddress)
  shippingAddress := preserveLocalCountry (fromZohoAddress contact.shippingAddress)
    (existing.bind fun row => row.header.shippingAddress)

def upsertCustomerRow (contact : ZohoContactDetail) (existing : Option CustomerRow) :
    CustomerRow :=
  let persons := contact.contactPersons.getD []
  let rows := (existing.map CustomerRow.contactPersons).getD []
  { header := customerData numbers contact existing
    contactPersons := deletePersonsNotIn persons (persons.foldl upsertContactPerson rows) }

/-- What the pull returns or throws, and the row as it leaves it. -/
def pullOneCustomer (existing : Option CustomerRow) (answers : ContactAnswers) :
    Except ServiceError Bool × Option CustomerRow :=
  match answers.fetched with
  | .error message => (.error (.integration message), existing)
  | .ok contact =>
      let version := existing.bind fun row => row.header.zohoSyncedVersion
      if isOwnPushEcho numbers contact.lastModifiedTime version then (.ok false, existing)
      else
        match answers.failure with
        | some message => (.error (.database message), existing)
        | none => (.ok true, some (upsertCustomerRow numbers contact existing))

/-! ## What a pull does to the row -/

theorem pullOneCustomer_failed {existing : Option CustomerRow} {answers : ContactAnswers}
    (failed : (pullOneCustomer numbers existing answers).1.isOk = false) :
    (pullOneCustomer numbers existing answers).2 = existing := by
  unfold pullOneCustomer at failed ⊢
  cases fetched : answers.fetched with
  | error message => rfl
  | ok contact =>
      simp only [fetched] at failed ⊢
      split
      case isTrue => rfl
      case isFalse fresh =>
        rw [if_neg fresh] at failed
        cases failure : answers.failure with
        | some message => rfl
        | none =>
            rw [failure] at failed
            cases failed

theorem pullOneCustomer_returned {existing : Option CustomerRow} {contact : ZohoContactDetail}
    {failure : Option String}
    (returned : (pullOneCustomer numbers existing ⟨.ok contact, failure⟩).1.isOk = true) :
    let version := existing.bind fun row => row.header.zohoSyncedVersion
    (isOwnPushEcho numbers contact.lastModifiedTime version = true ∧
        pullOneCustomer numbers existing ⟨.ok contact, failure⟩ = (.ok false, existing)) ∨
      isOwnPushEcho numbers contact.lastModifiedTime version = false ∧
        pullOneCustomer numbers existing ⟨.ok contact, failure⟩ =
          (.ok true, some (upsertCustomerRow numbers contact existing)) := by
  intro version
  unfold pullOneCustomer at returned ⊢
  cases echo : isOwnPushEcho numbers contact.lastModifiedTime version with
  | true => exact .inl ⟨rfl, if_pos echo⟩
  | false =>
      refine .inr ⟨rfl, ?_⟩
      have fresh : ¬isOwnPushEcho numbers contact.lastModifiedTime version = true := by
        simp [echo]
      simp only [version] at fresh
      simp only [if_neg fresh] at returned ⊢
      cases failure with
      | some message => cases returned
      | none => rfl

end Numbers

end ZohoPullService

end MultiBrandInvoicing
