import MultiBrandInvoicing.Integrations.PullBrand
import MultiBrandInvoicing.Integrations.PullEffects

/-!
# Which contacts are pulled, and what a pull keeps

`isContactDue` and `preserveLocalCountry` beside `pullOneCustomer`, in
`apps/api/src/integrations/zoho-pull.service.ts`.  The list pass and the pull each compare the
version of a contact with the stored one.  A country is kept only as part of an address that
Zoho has.
-/

set_option autoImplicit false

namespace MultiBrandInvoicing

open ZohoPullService

namespace PulledContacts

/-! ## The list pass and the pull -/

/-- The rows of a brand: at most one for each contact. -/
abbrev ContactRows := String → Option CustomerRow

def localVersions (rows : ContactRows) (contacts : List ZohoContactListItem) :
    List (String × Option Time) :=
  contacts.filterMap fun item =>
    (rows item.contactId).map fun row => (item.contactId, row.header.zohoSyncedVersion)

theorem lookup_localVersions (rows : ContactRows) (contacts : List ZohoContactListItem)
    (contactId : String) :
    (localVersions rows contacts).lookup contactId =
      if contactId ∈ contacts.map ZohoContactListItem.contactId then
        (rows contactId).map fun row => row.header.zohoSyncedVersion
      else none := by
  unfold localVersions
  induction contacts with
  | nil => rfl
  | cons first rest ih =>
      by_cases same : contactId = first.contactId
      · subst same
        cases found : rows first.contactId with
        | some row => simp [found]
        | none => simp [found, ih]
      · cases found : rows first.contactId with
        | some row => simp [found, same, ih, List.lookup_cons, beq_eq_false_iff_ne.mpr same]
        | none => simp [found, same, ih]

section Versions

variable {ν : Type} (numbers : ZohoNumbers ν)

variable {rows : ContactRows} {contacts : List ZohoContactListItem} {item : ZohoContactListItem}

theorem lookup_listed (listed : item ∈ contacts) :
    (localVersions rows contacts).lookup item.contactId =
      (rows item.contactId).map fun row => row.header.zohoSyncedVersion := by
  have here : item.contactId ∈ contacts.map ZohoContactListItem.contactId :=
    List.mem_map_of_mem listed
  rw [lookup_localVersions, if_pos here]

/-- A version that is stored decides alike for the list pass and for the pull. -/
theorem isOwnPushEcho_of_stored (listed : item ∈ contacts) (cursor : Option Time) (force : Bool)
    {row : CustomerRow} {stored : Time} (existing : rows item.contactId = some row)
    (version : row.header.zohoSyncedVersion = some stored) :
    isOwnPushEcho numbers item.lastModifiedTime (some stored) =
      !PullBrand.isContactDue numbers item (localVersions rows contacts) cursor force := by
  unfold isOwnPushEcho PullBrand.isContactDue
  rw [lookup_listed listed, existing, Option.map_some, version]
  cases parseZohoTimestamp numbers item.lastModifiedTime with
  | none => rfl
  | some remote =>
      rw [← decide_not]
      exact decide_eq_decide.mpr not_lt.symm

theorem isOwnPushEcho_none (modified : Option String) :
    isOwnPushEcho numbers modified none = false := by
  unfold isOwnPushEcho
  cases parseZohoTimestamp numbers modified <;> rfl

theorem not_echo_of_due (listed : item ∈ contacts) {cursor : Option Time} {force : Bool}
    (due : PullBrand.isContactDue numbers item (localVersions rows contacts) cursor force = true) :
    isOwnPushEcho numbers item.lastModifiedTime
      ((rows item.contactId).bind fun row => row.header.zohoSyncedVersion) = false := by
  cases existing : rows item.contactId with
  | none => exact isOwnPushEcho_none numbers _
  | some row =>
      rw [Option.bind_some]
      cases version : row.header.zohoSyncedVersion with
      | none => exact isOwnPushEcho_none numbers _
      | some stored =>
          rw [isOwnPushEcho_of_stored numbers listed cursor force existing version, due]
          rfl

theorem isContactDue_force {versions : List (String × Option Time)} {cursor : Option Time}
    (due : PullBrand.isContactDue numbers item versions cursor false = true) :
    PullBrand.isContactDue numbers item versions cursor true = true := by
  revert due
  unfold PullBrand.isContactDue
  cases parseZohoTimestamp numbers item.lastModifiedTime with
  | none => exact id
  | some remote =>
      cases versions.lookup item.contactId with
      | none => exact id
      | some stored =>
          cases stored with
          | none => exact fun _ => rfl
          | some version => exact id

/-- The pull leaves a contact that the list passes over as it is, and writes one that is due unless
it fails; a forced pass leaves out nothing that another would take. -/
theorem isContactDue_agrees (listed : item ∈ contacts) (cursor : Option Time) (force : Bool)
    {contact : ZohoContactDetail} (failure : Option String)
    (same : contact.lastModifiedTime = item.lastModifiedTime) :
    (∀ row stored, rows item.contactId = some row → row.header.zohoSyncedVersion = some stored →
        PullBrand.isContactDue numbers item (localVersions rows contacts) cursor force = false →
        pullOneCustomer numbers (rows item.contactId) ⟨.ok contact, failure⟩ =
          (.ok false, some row)) ∧
      (PullBrand.isContactDue numbers item (localVersions rows contacts) cursor force = true →
        isOwnPushEcho numbers contact.lastModifiedTime
            ((rows item.contactId).bind fun row => row.header.zohoSyncedVersion) = false ∧
          (pullOneCustomer numbers (rows item.contactId) ⟨.ok contact, failure⟩).1 ≠ .ok false ∧
          (failure = none → pullOneCustomer numbers (rows item.contactId) ⟨.ok contact, failure⟩ =
            (.ok true, some (upsertCustomerRow numbers contact (rows item.contactId))))) ∧
      (PullBrand.isContactDue numbers item (localVersions rows contacts) cursor false = true →
        PullBrand.isContactDue numbers item (localVersions rows contacts) cursor true = true) := by
  refine ⟨?_, ?_, isContactDue_force numbers⟩
  · intro row stored existing version notDue
    have echo := isOwnPushEcho_of_stored numbers listed cursor force existing version
    rw [notDue, Bool.not_false, ← same] at echo
    simp only [pullOneCustomer, existing, Option.bind_some, version, echo, if_true]
  · intro due
    have fresh := not_echo_of_due numbers listed due
    rw [← same] at fresh
    simp only [pullOneCustomer, fresh, Bool.false_eq_true, if_false]
    cases failure with
    | none => simp
    | some message => simp

end Versions

def sampleDetail (modified : String) (billing shipping : Option ZohoAddressResponse) :
    ZohoContactDetail where
  customerSubType := some "business"
  contactName := "Acme"
  companyName := some "Acme Ltd"
  firstName := none
  lastName := none
  email := some "billing@acme.test"
  phone := none
  status := some "active"
  billingAddress := billing
  shippingAddress := shipping
  contactPersons := none
  lastModifiedTime := some modified

def sampleStored : CustomerRow where
  header := {
    type := .business
    displayName := "Acme"
    companyName := some "Acme Ltd"
    firstName := none
    lastName := none
    email := some "billing@acme.test"
    phone := none
    status := .active
    zohoSyncedVersion := some 5
    billingAddress := some ⟨some "1 High Street", none, some "York", none, none, some "GB"⟩
    shippingAddress := none }
  contactPersons := []

def sampleListed (modified : String) : ZohoContactListItem := ⟨"c1", some "active", some modified⟩

theorem isContactDue_agrees_sample :
    pullOneCustomer sampleDecimals (some sampleStored)
        ⟨.ok (sampleDetail "5" none none), none⟩ = (.ok false, some sampleStored) ∧
      pullOneCustomer sampleDecimals (some sampleStored)
        ⟨.ok (sampleDetail "6" none none), none⟩ =
          (.ok true, some (upsertCustomerRow sampleDecimals (sampleDetail "6" none none)
            (some sampleStored))) := by
  have agrees (modified : String) := @isContactDue_agrees _ sampleDecimals
    (fun _ => some sampleStored) [sampleListed modified] (sampleListed modified)
    (List.mem_singleton.mpr rfl) none true (sampleDetail modified none none) none rfl
  exact ⟨(agrees "5").1 sampleStored 5 rfl rfl (by decide +kernel),
    ((agrees "6").2.1 (by decide +kernel)).2.2 rfl⟩

/-! ## The country of an address -/

def storedCountry (address : Option AccountingAddress) : Option String :=
  address.bind AccountingAddress.country

def hasFields (address : Option ZohoAddressResponse) : Bool :=
  address.any fun fields => !fields.isEmpty

theorem storedCountry_preserve (address : Option ZohoAddressResponse)
    (existing : Option AccountingAddress) :
    storedCountry (preserveLocalCountry (fromZohoAddress address) existing) =
      if hasFields address then storedCountry existing else none := by
  cases address with
  | none => rfl
  | some fields =>
      cases fields with
      | nil => rfl
      | cons field rest => rfl

/-- One side of the customer: a country is lost where the address comes without any field. -/
theorem country_kept_iff (address : Option ZohoAddressResponse)
    (existing : Option AccountingAddress) :
    (∀ country, storedCountry existing = some country →
        storedCountry (preserveLocalCountry (fromZohoAddress address) existing) =
          some country) ↔
      storedCountry existing = none ∨ hasFields address = true := by
  rw [storedCountry_preserve]
  cases hasFields address with
  | true => simp
  | false =>
      cases storedCountry existing with
      | none => simp
      | some country => simp

/-- The row is still there, with every country that it had. -/
def KeepsCountries (row : CustomerRow) (after : Option CustomerRow) : Prop :=
  ∃ left, after = some left ∧
    (∀ country, storedCountry row.header.billingAddress = some country →
      storedCountry left.header.billingAddress = some country) ∧
    ∀ country, storedCountry row.header.shippingAddress = some country →
      storedCountry left.header.shippingAddress = some country

section Countries

variable {ν : Type} (numbers : ZohoNumbers ν)

def Writes (row : CustomerRow) (answers : ContactAnswers) (contact : ZohoContactDetail) : Prop :=
  answers.fetched = .ok contact ∧
    isOwnPushEcho numbers contact.lastModifiedTime row.header.zohoSyncedVersion = false ∧
    answers.failure = none

/-- Each address that has a country here has a field in Zoho. -/
def BringsAddresses (row : CustomerRow) (contact : ZohoContactDetail) : Prop :=
  (storedCountry row.header.billingAddress = none ∨ hasFields contact.billingAddress = true) ∧
    (storedCountry row.header.shippingAddress = none ∨ hasFields contact.shippingAddress = true)

/-- The address goes with its country where Zoho has none. -/
theorem pull_keeps_countries_iff (row : CustomerRow) (answers : ContactAnswers) :
    KeepsCountries row (pullOneCustomer numbers (some row) answers).2 ↔
      ∀ contact, Writes numbers row answers contact → BringsAddresses row contact := by
  have kept : KeepsCountries row (some row) := ⟨row, rfl, fun _ => id, fun _ => id⟩
  cases fetched : answers.fetched with
  | error message =>
      simp only [pullOneCustomer, fetched]
      refine iff_of_true kept fun contact writes => ?_
      have same := fetched.symm.trans writes.1
      cases same
  | ok contact =>
      have only : ∀ other, Writes numbers row answers other → other = contact := by
        intro other writes
        have same := fetched.symm.trans writes.1
        exact (Except.ok.inj same).symm
      simp only [pullOneCustomer, fetched, Option.bind_some]
      by_cases echo : isOwnPushEcho numbers contact.lastModifiedTime
          row.header.zohoSyncedVersion = true
      · rw [if_pos echo]
        refine iff_of_true kept fun other writes => ?_
        have fresh := writes.2.1
        rw [only other writes, echo] at fresh
        cases fresh
      · rw [if_neg echo]
        cases failure : answers.failure with
        | some message =>
            refine iff_of_true kept fun other writes => ?_
            have stored := failure.symm.trans writes.2.2
            cases stored
        | none =>
            have sides := and_congr
              (country_kept_iff contact.billingAddress row.header.billingAddress)
              (country_kept_iff contact.shippingAddress row.header.shippingAddress)
            constructor
            · intro ⟨left, same, countries⟩ other writes
              cases same
              rw [only other writes]
              exact sides.mp countries
            · intro brings
              have fresh := Bool.not_eq_true _ ▸ echo
              exact ⟨_, rfl, sides.mpr (brings contact ⟨fetched, fresh, failure⟩)⟩

end Countries

/-- The contact was edited in Zoho and has no billing address there. -/
theorem country_erased :
    storedCountry sampleStored.header.billingAddress = some "GB" ∧
      ¬KeepsCountries sampleStored (pullOneCustomer sampleDecimals (some sampleStored)
        ⟨.ok (sampleDetail "6" none none), none⟩).2 := by
  refine ⟨rfl, ?_⟩
  intro ⟨left, same, billing, _⟩
  have pulled : (pullOneCustomer sampleDecimals (some sampleStored)
      ⟨.ok (sampleDetail "6" none none), none⟩).2 = some (upsertCustomerRow sampleDecimals
        (sampleDetail "6" none none) (some sampleStored)) := by decide +kernel
  rw [pulled] at same
  cases same
  cases billing "GB" rfl

end PulledContacts

end MultiBrandInvoicing
