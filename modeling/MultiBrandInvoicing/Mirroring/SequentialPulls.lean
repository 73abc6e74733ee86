import Mathlib.Data.Int.ConditionallyCompleteOrder
import Mathlib.Order.WithBot
import MultiBrandInvoicing.Mirroring.ContactPulls
import MultiBrandInvoicing.Mirroring.InvoicePulls

/-!
# Pulls of one record, one after another

Snapshots of one contact or one invoice are pulled in any order and as often as one likes.
A pull that is not refused leaves the header of its snapshot unless that is no newer than
the stored version; one that is refused leaves header and version alone.  What stays is the
newest snapshot that was not refused.
-/

set_option autoImplicit false

namespace MultiBrandInvoicing

open ZohoPullService NewestWins

namespace SequentialPulls

/-- Versions in order; a row without one is older than every snapshot with a date. -/
def stamp (version : Option Time) : WithBot Time := version

section Machine

variable {ρ α ι η : Type}

/-- One record as pulls see it: the row, the attempts and what of either the version test and
the header come from. -/
structure Record (ρ α ι η : Type) where
  pull : ρ → α → Except ServiceError Bool × ρ
  header : ρ → η
  version : ρ → Option Time
  snapshot : α → ι
  lastModified : ι → Option Time
  brings : ι → η

variable (record : Record ρ α ι η)

structure Dated (attempts : List α) : Prop where
  dated : ∀ attempt ∈ attempts, (record.lastModified (record.snapshot attempt)).isSome = true
  distinct : ∀ first ∈ attempts, ∀ second ∈ attempts,
    record.lastModified (record.snapshot first) = record.lastModified (record.snapshot second) →
      record.snapshot first = record.snapshot second

/-- The snapshots that pulls returned with, so that none of these refused it. -/
def accepted (attempts : List α) (row : ρ) : List ι :=
  (returned record.pull attempts row).map record.snapshot

structure NewestStays (attempts : List α) (row : ρ) : Prop where
  newest : ∀ newest ∈ accepted record attempts row,
    (∀ other ∈ accepted record attempts row,
      stamp (record.lastModified other) ≤ stamp (record.lastModified newest)) →
    stamp (record.version row) < stamp (record.lastModified newest) →
      record.header (attemptAll record.pull attempts row) = record.brings newest ∧
        record.version (attemptAll record.pull attempts row) = record.lastModified newest
  older : (∀ other ∈ accepted record attempts row,
      stamp (record.lastModified other) ≤ stamp (record.version row)) →
    record.header (attemptAll record.pull attempts row) = record.header row ∧
      record.version (attemptAll record.pull attempts row) = record.version row
  again : ∀ attempt, record.snapshot attempt ∈ accepted record attempts row →
    record.pull (attemptAll record.pull attempts row) attempt =
      (.ok false, attemptAll record.pull attempts row)

structure Guarded : Prop where
  stale : ∀ row attempt, (record.lastModified (record.snapshot attempt)).isSome = true →
    stamp (record.lastModified (record.snapshot attempt)) ≤ stamp (record.version row) →
      record.pull row attempt = (.ok false, row)
  newer : ∀ row attempt, (record.lastModified (record.snapshot attempt)).isSome = true →
    stamp (record.version row) < stamp (record.lastModified (record.snapshot attempt)) →
    (record.pull row attempt).1.isOk = true →
      record.header (record.pull row attempt).2 = record.brings (record.snapshot attempt) ∧
        record.version (record.pull row attempt).2 =
          record.lastModified (record.snapshot attempt)
  failed : ∀ row attempt, (record.pull row attempt).1.isOk = false →
    record.header (record.pull row attempt).2 = record.header row ∧
      record.version (record.pull row attempt).2 = record.version row

variable {record}

def view (record : Record ρ α ι η) (row : ρ) : Register η (WithBot Time) :=
  ⟨stamp (record.version row), record.header row⟩

/-- In the view of header and version, the pulls that return deliver their snapshots. -/
theorem view_pulls (guarded : Guarded record) {attempts : List α} (dated : Dated record attempts)
    (row : ρ) :
    view record (attemptAll record.pull attempts row) =
      deliverAll (fun shown => stamp (record.lastModified shown)) (fun _ => record.brings)
        (accepted record attempts row) (view record row) := by
  refine view_attemptAll ?_ ?_ row
  · intro row attempt member ok
    have known := dated.dated attempt member
    rcases le_or_gt (stamp (record.lastModified (record.snapshot attempt)))
      (stamp (record.version row)) with stale | newer
    · rw [guarded.stale row attempt known stale, deliver_stale stale]
    · obtain ⟨header, version⟩ := guarded.newer row attempt known newer ok
      rw [deliver_newer newer, view, header, version]
  · intro row attempt _ failed
    obtain ⟨header, version⟩ := guarded.failed row attempt failed
    rw [view, view, header, version]

theorem Guarded.newestStays (guarded : Guarded record) {attempts : List α}
    (dated : Dated record attempts) (row : ρ) : NewestStays record attempts row := by
  have viewed := view_pulls guarded dated row
  have headers := congrArg Register.state viewed
  have versions := congrArg Register.last viewed
  simp only [view] at headers versions
  have made : ∀ shown ∈ accepted record attempts row,
      ∃ attempt ∈ attempts, record.snapshot attempt = shown := by
    intro shown member
    obtain ⟨attempt, ran, same⟩ := List.mem_map.mp member
    exact ⟨attempt, returned_subset attempt ran, same⟩
  refine ⟨fun newest member others fresh => ?_, fun stale => ?_, fun attempt member => ?_⟩
  · have distinct : ∀ shown ∈ accepted record attempts row,
        stamp (record.lastModified shown) = stamp (record.lastModified newest) →
          shown = newest := by
      intro shown here same
      obtain ⟨first, inFirst, rfl⟩ := made shown here
      obtain ⟨second, inSecond, rfl⟩ := made newest member
      exact dated.distinct first inFirst second inSecond same
    have ended : deliverAll (fun shown => stamp (record.lastModified shown))
        (fun _ => record.brings) (accepted record attempts row) (view record row) =
          ⟨stamp (record.lastModified newest), record.brings newest⟩ :=
      deliverAll_overwrites member others distinct fresh
    simp only [view] at ended
    rw [ended] at headers versions
    exact ⟨headers, versions⟩
  · have ended : deliverAll (fun shown => stamp (record.lastModified shown))
        (fun _ => record.brings) (accepted record attempts row) (view record row) =
          view record row := deliverAll_stale stale
    simp only [view] at ended
    rw [ended] at headers versions
    exact ⟨headers, versions⟩
  · obtain ⟨first, inFirst, same⟩ := made _ member
    have known := dated.dated first inFirst
    rw [same] at known
    refine guarded.stale _ attempt known ?_
    rw [versions]
    exact time_le_last member

end Machine

section Numbers

variable {ν : Type} (numbers : ZohoNumbers ν)

/-- With a time to compare, the test of the code is the order of the stamps. -/
theorem isOwnPushEcho_iff_stamp {lastModified : Option String} {version : Option Time}
    (dated : (parseZohoTimestamp numbers lastModified).isSome = true) :
    isOwnPushEcho numbers lastModified version = true ↔
      stamp (parseZohoTimestamp numbers lastModified) ≤ stamp version := by
  obtain ⟨remote, parsed⟩ := Option.isSome_iff_exists.mp dated
  unfold isOwnPushEcho
  rw [parsed]
  cases version with
  | none =>
      refine ⟨fun echo => (Bool.false_ne_true echo).elim, fun below => ?_⟩
      exact absurd below (WithBot.not_coe_le_bot remote)
  | some version =>
      rw [decide_eq_true_eq]
      exact WithBot.coe_le_coe.symm

/-! ## A contact -/

structure ContactAttempt where
  contact : ZohoContactDetail
  failure : Option String

/-- The header of a contact is compared without the countries. -/
def contactRecord :
    Record (Option CustomerRow) ContactAttempt ZohoContactDetail (Option CustomerHeader) where
  pull := fun row attempt =>
    ZohoPullService.pullOneCustomer numbers row ⟨.ok attempt.contact, attempt.failure⟩
  header := Option.map fun row => row.header.withoutCountries
  version := fun row => row.bind fun row => row.header.zohoSyncedVersion
  snapshot := ContactAttempt.contact
  lastModified := fun contact => parseZohoTimestamp numbers contact.lastModifiedTime
  brings := fun contact => some (customerData numbers contact none).withoutCountries

theorem preserveLocalCountry_withoutCountry (pulled existing : Option AccountingAddress) :
    (preserveLocalCountry pulled existing).map AccountingAddress.withoutCountry =
      (preserveLocalCountry pulled none).map AccountingAddress.withoutCountry := by
  cases pulled <;> rfl

theorem customerData_withoutCountries (contact : ZohoContactDetail)
    (existing : Option CustomerRow) :
    (customerData numbers contact existing).withoutCountries =
      (customerData numbers contact none).withoutCountries := by
  simp only [CustomerHeader.withoutCountries, customerData]
  rw [preserveLocalCountry_withoutCountry _ (existing.bind fun row => row.header.billingAddress),
    preserveLocalCountry_withoutCountry _ (existing.bind fun row => row.header.shippingAddress)]
  rfl

theorem contactRecord_guarded : Guarded (contactRecord numbers) := by
  refine ⟨fun row attempt dated stale => ?_, fun row attempt dated newer ok => ?_,
    fun row attempt failed => ?_⟩
  · exact if_pos ((isOwnPushEcho_iff_stamp numbers dated).mpr stale)
  · rcases pullOneCustomer_returned numbers ok with ⟨echo, _⟩ | ⟨_, done⟩
    · exact absurd ((isOwnPushEcho_iff_stamp numbers dated).mp echo) (not_le.mpr newer)
    · have row_ : ((contactRecord numbers).pull row attempt).2 =
          some (upsertCustomerRow numbers attempt.contact row) := congrArg Prod.snd done
      rw [row_]
      refine ⟨?_, rfl⟩
      exact congrArg some (customerData_withoutCountries numbers attempt.contact row)
  · have same : ((contactRecord numbers).pull row attempt).2 = row :=
      pullOneCustomer_failed numbers failed
    rw [same]
    exact ⟨rfl, rfl⟩

/-! ## An invoice -/

structure InvoiceAttempt (ν : Type) where
  invoice : ZohoInvoice ν
  answers : PullAnswers ν
  creation : InvoiceCreation

def invoiceRecord (localCustomerId : String → String) :
    Record (Option InvoiceRecord) (InvoiceAttempt ν) (ZohoInvoice ν) (Option InvoiceHeader) where
  pull := fun row attempt =>
    pullInvoice numbers localCustomerId attempt.creation row attempt.invoice attempt.answers
  header := Option.map InvoiceRecord.header
  version := storedVersion
  snapshot := InvoiceAttempt.invoice
  lastModified := fun invoice => parseZohoTimestamp numbers invoice.item.lastModifiedTime
  brings := invoiceHeader numbers localCustomerId

theorem invoiceHeader_version {localCustomerId : String → String} {invoice : ZohoInvoice ν}
    {header : InvoiceHeader}
    (brought : some header = invoiceHeader numbers localCustomerId invoice) :
    header.zohoSyncedVersion = parseZohoTimestamp numbers invoice.item.lastModifiedTime := by
  unfold invoiceHeader at brought
  cases supported : supportedCurrency? invoice.item.currencyCode with
  | none => simp [supported] at brought
  | some currency =>
      cases dates : invoiceDates numbers invoice with
      | none => simp [supported, dates] at brought
      | some both =>
          simp only [supported, dates, Option.bind_eq_bind, Option.bind_some, Option.pure_def,
            Option.some.injEq] at brought
          rw [brought]

theorem invoiceRecord_pulled (localCustomerId : String → String) (row : Option InvoiceRecord)
    (attempt : InvoiceAttempt ν) :
    Pulled numbers localCustomerId row attempt.invoice
      ((invoiceRecord numbers localCustomerId).pull row attempt) :=
  pullInvoice_pulled numbers row

theorem storedVersion_eq {row left : Option InvoiceRecord}
    (header : left.map InvoiceRecord.header = row.map InvoiceRecord.header) :
    storedVersion left = storedVersion row := by
  have through : ∀ row : Option InvoiceRecord,
      storedVersion row = (row.map InvoiceRecord.header).bind InvoiceHeader.zohoSyncedVersion := by
    intro row
    cases row <;> rfl
  rw [through, through, header]

theorem invoiceRecord_guarded (localCustomerId : String → String) :
    Guarded (invoiceRecord numbers localCustomerId) := by
  refine ⟨fun row attempt dated stale => ?_, fun row attempt dated newer ok => ?_,
    fun row attempt failed => ?_⟩
  · exact pullInvoice_echo numbers ((isOwnPushEcho_iff_stamp numbers dated).mpr stale)
  · have pulled := invoiceRecord_pulled numbers localCustomerId row attempt
    generalize (invoiceRecord numbers localCustomerId).pull row attempt = ended at ok pulled
    cases pulled with
    | skipped echo =>
        exact absurd ((isOwnPushEcho_iff_stamp numbers dated).mp echo) (not_le.mpr newer)
    | applied record _ header => exact ⟨header, invoiceHeader_version numbers header⟩
    | failed error left header => cases ok
  · have pulled := invoiceRecord_pulled numbers localCustomerId row attempt
    generalize (invoiceRecord numbers localCustomerId).pull row attempt = ended at failed pulled
    cases pulled with
    | skipped echo => cases failed
    | applied record newer header => cases failed
    | failed error left header => exact ⟨header, storedVersion_eq header⟩

/-! ## The two together -/

/-- The snapshots of one contact, or of one invoice, have times and no two the same.  Pulled
in any order and as often as one likes, the newest one that was not refused gives the row its
header and version, unless the row had a version at least as new from the start; and none of
those that were not refused changes the row again. -/
theorem pulls_settle_on_newest (localCustomerId : String → String) :
    (∀ attempts, Dated (contactRecord numbers) attempts →
        ∀ row, NewestStays (contactRecord numbers) attempts row) ∧
      ∀ attempts, Dated (invoiceRecord numbers localCustomerId) attempts →
        ∀ row, NewestStays (invoiceRecord numbers localCustomerId) attempts row :=
  ⟨fun _ dated row => (contactRecord_guarded numbers).newestStays dated row,
    fun _ dated row => (invoiceRecord_guarded numbers localCustomerId).newestStays dated row⟩

end Numbers

/-! ## A snapshot that is refused -/

def sampleInvoice (currencyCode modified : String) : ZohoInvoice Int where
  item := { sampleItem "sent" modified with currencyCode }
  date := "10"
  dueDate := "40"

def samplePull (currencyCode modified : String) : InvoiceAttempt Int where
  invoice := sampleInvoice currencyCode modified
  answers := sampleAnswers none
  creation := { brandId := "brand", id := "invoice", publicToken := "token", settings := none }

def samplePulls : List (InvoiceAttempt Int) := [samplePull "USD" "1", samplePull "JPY" "2"]

def sampleCustomerId (contactId : String) : String := contactId

/-- The newer snapshot is in a currency that is not supported, and the older one stays. -/
theorem refused_snapshot_is_newest :
    let record := invoiceRecord sampleDecimals sampleCustomerId
    Dated record samplePulls ∧
      samplePulls.map (fun attempt => record.lastModified (record.snapshot attempt)) =
        [some 1, some 2] ∧
      record.version (attemptAll record.pull samplePulls none) = some 1 := by
  refine ⟨⟨?_, ?_⟩, ?_, ?_⟩
  · decide +kernel
  · intro first inFirst second inSecond same
    simp only [samplePulls, List.mem_cons, List.not_mem_nil, or_false] at inFirst inSecond
    rcases inFirst with rfl | rfl <;> rcases inSecond with rfl | rfl
    · rfl
    · exact absurd same (by decide +kernel)
    · exact absurd same (by decide +kernel)
    · rfl
  · decide +kernel
  · decide +kernel

end SequentialPulls

end MultiBrandInvoicing
