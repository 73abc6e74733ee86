import MultiBrandInvoicing.Integrations.PullBrand
import MultiBrandInvoicing.Integrations.PullEffects
import MultiBrandInvoicing.Paging.GrowingLists

/-!
# The change feed

`pullChanges` in `apps/api/src/adapters/accounting/zoho-books.adapter.ts` over one data set of
Zoho's: the list calls it makes, and a caller that follows it until it reports that there is no
more.
-/

set_option autoImplicit false

namespace MultiBrandInvoicing

namespace ChangeFeed

open ZohoPullService

variable {ν : Type}

/-- The records of one organisation, in the order in which Zoho lists them. -/
structure ZohoData (ν : Type) where
  contacts : List ZohoContactListItem
  invoices : List (ZohoInvoiceListItem ν)

def perPage : Nat := 200

section Feed

variable (numbers : ZohoNumbers ν) (zoho : ZohoData ν)

/-- The record was modified later than this; one without a readable time was not. -/
def isModifiedAfter (since : Time) (lastModifiedTime : Option String) : Bool :=
  (parseZohoTimestamp numbers lastModifiedTime).any fun modified => since < modified

/-! ## The list calls -/

/-- One page of a list, counted from 1, and whether there is another. -/
def listPage {α : Type} (records : List α) (number : Nat) : List α × Bool :=
  (Paging.page perPage (number - 1) records, Paging.hasMore perPage (number - 1) records)

/-- The contacts have no filter by time. -/
def listContactsPage (number : Nat) : List ZohoContactListItem × Bool :=
  listPage zoho.contacts number

/-- The filter of the invoices is written in whole seconds. -/
def wholeSeconds (since : Time) : Time := since - since % 1000

def listInvoicesPage (number : Nat) (since : Option Time) :
    List (ZohoInvoiceListItem ν) × Bool :=
  match since with
  | none => listPage zoho.invoices number
  | some since =>
      listPage (zoho.invoices.filter fun invoice =>
        isModifiedAfter numbers (wholeSeconds since) invoice.lastModifiedTime) number

/-! ## The feed -/

inductive ObjectType where
  | customer | invoice | payment
  deriving DecidableEq, Repr

inductive ChangeType where
  | created | updated | deleted
  deriving DecidableEq, Repr

inductive Payload (ν : Type) where
  | contact (item : ZohoContactListItem)
  | invoice (item : ZohoInvoiceListItem ν)

/-- `occurredAt` is absent where the date is invalid. -/
structure AccountingChange (ν : Type) where
  objectType : ObjectType
  remoteId : String
  changeType : ChangeType
  occurredAt : Option Time
  payload : Payload ν

structure PullChangesInput where
  since : Time
  cursor : Option String := none
  limit : Option Nat := none

structure PullChangesResult (ν : Type) where
  changes : List (AccountingChange ν)
  nextCursor : Option String
  hasMore : Bool

def contactChange (contact : ZohoContactListItem) : AccountingChange ν where
  objectType := .customer
  remoteId := contact.contactId
  changeType := .updated
  occurredAt := parseZohoTimestamp numbers contact.lastModifiedTime
  payload := .contact contact

def invoiceChange (now : Time) (invoice : ZohoInvoiceListItem ν) : AccountingChange ν where
  objectType := .invoice
  remoteId := invoice.invoiceId
  changeType := .updated
  occurredAt :=
    match invoice.lastModifiedTime.filter (· ≠ "") with
    | some lastModifiedTime => numbers.parseDate lastModifiedTime
    | none => some now
  payload := .invoice invoice

def pullChanges (now : Time) (input : PullChangesInput) : PullChangesResult ν where
  changes :=
    ((listContactsPage zoho 1).1.filter fun contact =>
        isModifiedAfter numbers input.since contact.lastModifiedTime).map (contactChange numbers) ++
      (listInvoicesPage numbers zoho 1 (some input.since)).1.map (invoiceChange numbers now)
  nextCursor := none
  hasMore := false

end Feed

def followed (pull : PullChangesInput → PullChangesResult ν) (since : Time) :
    Nat → Option String → Option (List (AccountingChange ν))
  | 0, _ => none
  | calls + 1, cursor =>
      let result := pull { since, cursor }
      if result.hasMore then
        (followed pull since calls result.nextCursor).map fun later => result.changes ++ later
      else some result.changes

/-! ## What a caller has received -/

section Complete

variable (numbers : ZohoNumbers ν) (zoho : ZohoData ν) (since now : Time)

structure IsComplete (changes : List (AccountingChange ν)) : Prop where
  contacts : ∀ contact ∈ zoho.contacts,
    isModifiedAfter numbers since contact.lastModifiedTime = true →
      ∃ change ∈ changes, change.payload = .contact contact
  invoices : ∀ invoice ∈ zoho.invoices,
    isModifiedAfter numbers since invoice.lastModifiedTime = true →
      ∃ change ∈ changes, change.payload = .invoice invoice

def listedInvoices : List (ZohoInvoiceListItem ν) :=
  zoho.invoices.filter fun invoice =>
    isModifiedAfter numbers (wholeSeconds since) invoice.lastModifiedTime

structure IsOnFirstPage : Prop where
  contacts : ∀ contact ∈ zoho.contacts,
    isModifiedAfter numbers since contact.lastModifiedTime = true →
      contact ∈ zoho.contacts.take perPage
  invoices : ∀ invoice ∈ zoho.invoices,
    isModifiedAfter numbers since invoice.lastModifiedTime = true →
      invoice ∈ (listedInvoices numbers zoho since).take perPage

variable {numbers zoho since now}

theorem wholeSeconds_le : wholeSeconds since ≤ since :=
  Int.sub_le_self since (Int.emod_nonneg since (by decide))

/-- Rounding the time down lets no modified record slip through the filter. -/
theorem mem_listedInvoices {invoice : ZohoInvoiceListItem ν} (member : invoice ∈ zoho.invoices)
    (modified : isModifiedAfter numbers since invoice.lastModifiedTime = true) :
    invoice ∈ listedInvoices numbers zoho since := by
  refine List.mem_filter.mpr ⟨member, ?_⟩
  unfold isModifiedAfter at modified ⊢
  rw [Option.any_eq_true] at modified ⊢
  obtain ⟨time, read, later⟩ := modified
  have early : wholeSeconds since ≤ since := wholeSeconds_le
  have late : since < time := by simpa using later
  exact ⟨time, read, decide_eq_true (Int.lt_of_le_of_lt early late)⟩

theorem mem_pullChanges {change : AccountingChange ν} {cursor : Option String} :
    change ∈ (pullChanges numbers zoho now { since, cursor }).changes ↔
      (∃ contact ∈ zoho.contacts.take perPage,
        isModifiedAfter numbers since contact.lastModifiedTime = true ∧
          contactChange numbers contact = change) ∨
      ∃ invoice ∈ (listedInvoices numbers zoho since).take perPage,
        invoiceChange numbers now invoice = change := by
  simp [pullChanges, listContactsPage, listInvoicesPage, listPage, Paging.page, listedInvoices,
    and_assoc, -List.map_take]

/-- A contact is received if it was modified and is on the first page. -/
theorem received_contact {contact : ZohoContactListItem} {cursor : Option String} :
    (∃ change ∈ (pullChanges numbers zoho now { since, cursor }).changes,
        change.payload = .contact contact) ↔
      contact ∈ zoho.contacts.take perPage ∧
        isModifiedAfter numbers since contact.lastModifiedTime = true := by
  constructor
  · intro ⟨change, member, carries⟩
    rcases mem_pullChanges.mp member with ⟨listed, there, modified, rfl⟩ | ⟨invoice, _, rfl⟩
    · obtain rfl := Payload.contact.inj carries
      exact ⟨there, modified⟩
    · cases carries
  · intro ⟨there, modified⟩
    exact ⟨_, mem_pullChanges.mpr (.inl ⟨contact, there, modified, rfl⟩), rfl⟩

theorem received_invoice {invoice : ZohoInvoiceListItem ν} {cursor : Option String} :
    (∃ change ∈ (pullChanges numbers zoho now { since, cursor }).changes,
        change.payload = .invoice invoice) ↔
      invoice ∈ (listedInvoices numbers zoho since).take perPage := by
  constructor
  · intro ⟨change, member, carries⟩
    rcases mem_pullChanges.mp member with ⟨contact, _, _, rfl⟩ | ⟨listed, there, rfl⟩
    · cases carries
    · obtain rfl := Payload.invoice.inj carries
      exact there
  · intro there
    exact ⟨_, mem_pullChanges.mpr (.inr ⟨invoice, there, rfl⟩), rfl⟩

/-- A caller that follows the feed to its end makes one call, and has received everything
exactly if everything was on the first pages. -/
theorem pullChanges_complete_iff (calls : Nat) (cursor : Option String) :
    ∃ changes, followed (pullChanges numbers zoho now) since (calls + 1) cursor = some changes ∧
      (IsComplete numbers zoho since changes ↔ IsOnFirstPage numbers zoho since) := by
  refine ⟨_, rfl, ?_⟩
  constructor
  · intro complete
    exact {
      contacts := fun contact member modified =>
        (received_contact.mp (complete.contacts contact member modified)).1
      invoices := fun invoice member modified =>
        received_invoice.mp (complete.invoices invoice member modified) }
  · intro first
    exact {
      contacts := fun contact member modified =>
        received_contact.mpr ⟨first.contacts contact member modified, modified⟩
      invoices := fun invoice member modified =>
        received_invoice.mpr (first.invoices invoice member modified) }

end Complete

def sampleContact (contactId : String) : ZohoContactListItem where
  contactId := contactId
  status := some "active"
  lastModifiedTime := some "5"

/-- A contact behind as many others, all modified at the same time. -/
def sampleData (others : Nat) : ZohoData Int where
  contacts := List.replicate others (sampleContact "other") ++ [sampleContact "last"]
  invoices := []

/-- The contact is the two hundred and first. -/
theorem second_page_missed :
    ∃ changes,
      followed (pullChanges sampleDecimals (sampleData 200) 9) 1 2 none = some changes ∧
        ¬IsComplete sampleDecimals (sampleData 200) 1 changes := by
  refine ⟨_, rfl, fun complete => ?_⟩
  have there : sampleContact "last" ∈ (sampleData 200).contacts :=
    List.mem_append_right _ (List.mem_singleton.mpr rfl)
  have last := complete.contacts _ there (by decide)
  have listed : sampleContact "last" ∈ (sampleData 200).contacts.take perPage :=
    (received_contact.mp last).1
  have others : (sampleData 200).contacts.take perPage =
      List.replicate 200 (sampleContact "other") :=
    List.take_left' (by rw [List.length_replicate, perPage])
  rw [others] at listed
  have same := congrArg ZohoContactListItem.contactId (List.eq_of_mem_replicate listed)
  simp [sampleContact] at same

end ChangeFeed

end MultiBrandInvoicing
