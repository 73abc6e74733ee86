import MultiBrandInvoicing.Integrations.PullBrand
import MultiBrandInvoicing.Integrations.PullEffects
import MultiBrandInvoicing.Promises.Concurrency

/-!
# The cursor of a brand's pull

The cursor is written once every phase has come to an end without an error of its own, and
a phase swallows an error of one record only where it is positively known to be about that
record.  So the cursor passes a record only if this was applied, was an echo or was refused.
-/

set_option autoImplicit false

namespace MultiBrandInvoicing

open Promise ZohoPullService

namespace PullBrand

section Numbers

variable {ν : Type} (numbers : ZohoNumbers ν)

/-- What a pull of one record may have come to for the cursor to pass it. -/
inductive Handled (pull : Promise PullError Bool) (written echo : Prop) : Prop where
  | applied (done : written)
  | skipped (echoed : echo)
  | refused (error : PullError) (specific : error.isRecordSpecific = true)
      (failed : pull = .rejected error)

def CustomerAnswers.IsEcho (answers : CustomerAnswers) : Prop :=
  ∃ contact existing, answers.contact = .fulfilled contact ∧
    answers.existing = .fulfilled existing ∧
    isOwnPushEcho numbers contact.lastModifiedTime
      (existing.bind fun row => row.header.zohoSyncedVersion) = true

def InvoiceAnswers.IsEcho (answers : InvoiceAnswers ν) : Prop :=
  ∃ existing, answers.existing = .fulfilled existing ∧
    isOwnPushEcho numbers answers.item.lastModifiedTime
      (existing.bind ExistingInvoice.zohoSyncedVersion) = true

def CustomerHandled (answers : CustomerAnswers) : Prop :=
  Handled (pullOneCustomer numbers answers) answers.transaction.IsFulfilled
    (CustomerAnswers.IsEcho numbers answers)

def InvoiceHandled (answers : InvoiceAnswers ν) : Prop :=
  Handled (pullOneInvoice numbers answers) answers.upsert.IsFulfilled
    (InvoiceAnswers.IsEcho numbers answers)

/-! ## One record -/

theorem recordPull_fulfilled {α : Type} {job : JobAnswers} {work : Promise PullError α}
    {result : α} (done : recordPull job work = .fulfilled result) :
    job.create = .fulfilled () ∧ work = .fulfilled result := by
  obtain ⟨_, created, done⟩ := bind_fulfilled done
  refine ⟨created, ?_⟩
  cases work with
  | pending => cases done
  | fulfilled value =>
      obtain ⟨_, _, same⟩ := bind_fulfilled done
      exact same
  | rejected error =>
      obtain ⟨_, _, done⟩ := bind_fulfilled done
      obtain ⟨_, _, failed⟩ := bind_fulfilled done
      cases failed

theorem pullRecordTolerantly_fulfilled {work : Promise PullError Bool} {applied : Bool}
    (done : pullRecordTolerantly work = .fulfilled applied) :
    work = .fulfilled applied ∨
      ∃ error, error.isRecordSpecific = true ∧ work = .rejected error := by
  cases work with
  | pending => cases done
  | fulfilled value => exact .inl done
  | rejected error =>
      refine .inr ⟨error, ?_, rfl⟩
      cases error with
      | unknown message => cases done
      | integration errorClass message =>
          cases errorClass with
          | transient => cases done
          | authentication => cases done
          | validation => rfl
          | conflict => rfl
          | permanent => rfl

theorem pullOneCustomer_fulfilled {answers : CustomerAnswers} {applied : Bool}
    (done : pullOneCustomer numbers answers = .fulfilled applied) :
    CustomerHandled numbers answers := by
  obtain ⟨_, done⟩ := recordPull_fulfilled done
  obtain ⟨contact, fetched, done⟩ := bind_fulfilled done
  obtain ⟨existing, found, done⟩ := bind_fulfilled done
  simp only at done
  split at done
  next echo => exact .skipped ⟨contact, existing, fetched, found, echo⟩
  next =>
    obtain ⟨_, written, _⟩ := bind_fulfilled done
    exact .applied ⟨_, written⟩

theorem upsertHeader_fulfilled {answers : InvoiceAnswers ν} {value : Unit}
    (done : upsertHeader answers = .fulfilled value) : answers.upsert.IsFulfilled := by
  unfold upsertHeader at done
  split at done
  next => cases done
  next value written => exact ⟨value, written⟩
  next => cases done
  next => cases done

theorem pullOneInvoice_fulfilled {answers : InvoiceAnswers ν} {applied : Bool}
    (done : pullOneInvoice numbers answers = .fulfilled applied) :
    InvoiceHandled numbers answers := by
  obtain ⟨_, done⟩ := recordPull_fulfilled done
  obtain ⟨existing, found, done⟩ := bind_fulfilled done
  simp only at done
  split at done
  next echo => exact .skipped ⟨existing, found, echo⟩
  next =>
    obtain ⟨_, _, done⟩ := bind_fulfilled done
    split at done
    next => cases done
    next =>
      obtain ⟨_, _, done⟩ := bind_fulfilled done
      obtain ⟨_, upserted, _⟩ := bind_fulfilled done
      exact .applied (upsertHeader_fulfilled upserted)

theorem customer_tolerated {answers : CustomerAnswers} {applied : Bool}
    (done : pullRecordTolerantly (pullOneCustomer numbers answers) = .fulfilled applied) :
    CustomerHandled numbers answers := by
  rcases pullRecordTolerantly_fulfilled done with pulled | ⟨error, specific, failed⟩
  · exact pullOneCustomer_fulfilled numbers pulled
  · exact .refused error specific failed

theorem invoice_tolerated {answers : InvoiceAnswers ν} {applied : Bool}
    (done : pullRecordTolerantly (pullOneInvoice numbers answers) = .fulfilled applied) :
    InvoiceHandled numbers answers := by
  rcases pullRecordTolerantly_fulfilled done with pulled | ⟨error, specific, failed⟩
  · exact pullOneInvoice_fulfilled numbers pulled
  · exact .refused error specific failed

theorem tolerated_not_systemic {work : Promise PullError Bool} {applied : Bool}
    (done : pullRecordTolerantly work = .fulfilled applied) {error : PullError}
    (systemic : error.isRecordSpecific = false) : work ≠ .rejected error := by
  rintro rfl
  rcases pullRecordTolerantly_fulfilled done with pulled | ⟨other, specific, same⟩
  · cases pulled
  · cases same
    rw [systemic] at specific
    cases specific

/-- A pull of a contact that comes to an end does to the row what it returns. -/
theorem pullOneCustomer_agrees {answers : CustomerAnswers} {contact : ZohoContactDetail}
    {existing : Option CustomerRow} (created : answers.job.create = .fulfilled ())
    (recorded : answers.job.update.guarded = .fulfilled ())
    (fetched : answers.contact = .fulfilled contact)
    (found : answers.existing = .fulfilled existing)
    (written : answers.transaction = .fulfilled ()) :
    ∃ applied, pullOneCustomer numbers answers = .fulfilled applied ∧
      (ZohoPullService.pullOneCustomer numbers existing ⟨.ok contact, none⟩).1 = .ok applied := by
  unfold PullBrand.pullOneCustomer ZohoPullService.pullOneCustomer recordPull
  simp only [created, fetched, found, written, fulfilled_bind, pure_eq]
  cases isOwnPushEcho numbers contact.lastModifiedTime
      (existing.bind fun row => row.header.zohoSyncedVersion) with
  | true => exact ⟨false, by simp [recorded], rfl⟩
  | false => exact ⟨true, by simp [recorded], rfl⟩

theorem cascade_propagates {answers : InvoiceAnswers ν} {existing : Option ExistingInvoice}
    {error : PullError} (created : answers.job.create = .fulfilled ())
    (recorded : answers.job.update.guarded = .fulfilled ())
    (marked : answers.job.markUnhealthy.guarded = .fulfilled ())
    (found : answers.existing = .fulfilled existing)
    (newer : isOwnPushEcho numbers answers.item.lastModifiedTime
      (existing.bind ExistingInvoice.zohoSyncedVersion) = false)
    (absent : answers.localCustomer = .fulfilled none)
    (failed : pullOneCustomer numbers answers.cascade = .rejected error) :
    pullOneInvoice numbers answers = .rejected error := by
  have unhealthy : recordUnhealthy answers.job error = .fulfilled () := by
    unfold recordUnhealthy
    split
    · exact marked
    · rfl
  unfold pullOneInvoice recordPull invoiceCustomer
  simp [created, found, newer, absent, failed, recorded, unhealthy]

/-! ## The pages of a phase -/

def listed {π β : Type} (listing : π → Promise PullError (β × Bool)) : List π → List π
  | [] => []
  | page :: rest =>
      page :: match listing page with
        | .fulfilled (_, true) => listed listing rest
        | _ => []

def ContactPage.due (page : ContactPage) (cursor : Option Time) (force : Bool) :
    List CustomerAnswers :=
  match page.listing with
  | .fulfilled (contacts, _) =>
      match localContactVersions page contacts with
      | .fulfilled versions => dueContacts numbers page contacts versions cursor force
      | _ => []
  | _ => []

def InvoicePage.due (page : InvoicePage ν) : List (InvoiceAnswers ν) :=
  match page.listing with
  | .fulfilled (items, _) => items
  | _ => []

/-- An error of a page that is not one of a single record. -/
inductive ContactPage.Fault (page : ContactPage) (cursor : Option Time) (force : Bool) : Prop where
  | listing (failed : page.listing.IsRejected)
  | versions (contacts : List ZohoContactListItem) (hasMore : Bool)
      (shown : page.listing = .fulfilled (contacts, hasMore))
      (failed : (localContactVersions page contacts).IsRejected)
  | record (answers : CustomerAnswers) (due : answers ∈ ContactPage.due numbers page cursor force)
      (error : PullError) (systemic : error.isRecordSpecific = false)
      (failed : pullOneCustomer numbers answers = .rejected error)

inductive InvoicePage.Fault (page : InvoicePage ν) : Prop where
  | listing (failed : page.listing.IsRejected)
  | record (answers : InvoiceAnswers ν) (due : answers ∈ InvoicePage.due page)
      (error : PullError) (systemic : error.isRecordSpecific = false)
      (failed : pullOneInvoice numbers answers = .rejected error)

variable (timing : Timing PullError) (cursor : Option Time) (force : Bool)

theorem pullContactPage_fulfilled {page : ContactPage} {applied : Nat}
    {contacts : List ZohoContactListItem} {hasMore : Bool}
    (done : pullContactPage numbers timing cursor force page =
      .fulfilled (applied, contacts, hasMore)) :
    page.listing = .fulfilled (contacts, hasMore) ∧
      (localContactVersions page contacts).IsFulfilled ∧
      ∀ answers ∈ ContactPage.due numbers page cursor force,
        ∃ applied, pullRecordTolerantly (pullOneCustomer numbers answers) = .fulfilled applied := by
  obtain ⟨⟨shown, more⟩, listing, done⟩ := bind_fulfilled done
  obtain ⟨versions, known, done⟩ := bind_fulfilled done
  obtain ⟨values, gathered, done⟩ := bind_fulfilled done
  have same : (values.count true, shown, more) = (applied, contacts, hasMore) :=
    Promise.fulfilled.inj done
  simp only [Prod.mk.injEq] at same
  obtain ⟨_, rfl, rfl⟩ := same
  refine ⟨listing, ⟨versions, known⟩, fun answers member => ?_⟩
  have gathers := timing.gathers ((dueContacts numbers page shown versions cursor force).map
    fun answers => pullRecordTolerantly (pullOneCustomer numbers answers))
  rw [gathered] at gathers
  simp only [ContactPage.due, listing, known] at member
  obtain ⟨value, _, settled⟩ := gathers.member (List.mem_map_of_mem member)
  exact ⟨value, settled⟩

theorem pullContactPages_fulfilled {pages : List ContactPage} {touched : Nat}
    {seen : List ZohoContactListItem} {result : Nat × List ZohoContactListItem}
    (done : pullContactPages numbers timing cursor force pages touched seen = .fulfilled result) :
    ∀ page ∈ listed ContactPage.listing pages, ∃ applied contacts hasMore,
      pullContactPage numbers timing cursor force page =
        .fulfilled (applied, contacts, hasMore) := by
  induction pages generalizing touched seen with
  | nil => cases done
  | cons first rest ih =>
      obtain ⟨⟨applied, contacts, hasMore⟩, pulled, done⟩ := bind_fulfilled done
      have shown := (pullContactPage_fulfilled numbers timing cursor force pulled).1
      intro page member
      rw [listed, shown] at member
      cases hasMore with
      | true =>
          rcases List.mem_cons.mp member with rfl | later
          · exact ⟨applied, contacts, true, pulled⟩
          · exact ih done page later
      | false =>
          have same : page = first := by simpa using member
          exact ⟨applied, contacts, false, same ▸ pulled⟩

theorem pullListedInvoices_fulfilled {items : List (InvoiceAnswers ν)} {touched result : Nat}
    (done : pullListedInvoices numbers items touched = .fulfilled result) :
    ∀ answers ∈ items,
      ∃ applied, pullRecordTolerantly (pullOneInvoice numbers answers) = .fulfilled applied := by
  induction items generalizing touched with
  | nil => simp
  | cons first rest ih =>
      obtain ⟨applied, pulled, done⟩ := bind_fulfilled done
      intro answers member
      rcases List.mem_cons.mp member with rfl | later
      · exact ⟨applied, pulled⟩
      · exact ih done answers later

theorem pullInvoicePages_fulfilled {pages : List (InvoicePage ν)} {touched result : Nat}
    (done : pullInvoicePages numbers pages touched = .fulfilled result) :
    ∀ page ∈ listed InvoicePage.listing pages, page.listing.IsFulfilled ∧
      ∀ answers ∈ InvoicePage.due page,
        ∃ applied, pullRecordTolerantly (pullOneInvoice numbers answers) = .fulfilled applied := by
  induction pages generalizing touched with
  | nil => cases done
  | cons first rest ih =>
      obtain ⟨⟨items, hasMore⟩, shown, done⟩ := bind_fulfilled done
      obtain ⟨counted, pulled, done⟩ := bind_fulfilled done
      have here : first.listing.IsFulfilled ∧ ∀ answers ∈ InvoicePage.due first,
          ∃ applied, pullRecordTolerantly (pullOneInvoice numbers answers) =
            .fulfilled applied := by
        refine ⟨⟨_, shown⟩, ?_⟩
        rw [InvoicePage.due, shown]
        exact pullListedInvoices_fulfilled numbers pulled
      intro page member
      rw [listed, shown] at member
      cases hasMore with
      | true =>
          rcases List.mem_cons.mp member with rfl | later
          · exact here
          · exact ih done page later
      | false =>
          have same : page = first := by simpa using member
          exact same ▸ here

/-! ## The brand -/

/-- An error that stops a phase: of the row that records it, of a page, or of a record
without being known to be about that record. -/
inductive Faulty (answers : BrandAnswers ν) : Prop where
  | contactJob (failed : answers.contactJob.create.IsRejected)
  | contacts (page : ContactPage)
      (reached : page ∈ listed ContactPage.listing answers.contactPages)
      (fault : ContactPage.Fault numbers page cursor force)
  | invoiceJob (failed : answers.invoiceJob.create.IsRejected)
  | invoices (page : InvoicePage ν)
      (reached : page ∈ listed InvoicePage.listing answers.invoicePages)
      (fault : InvoicePage.Fault numbers page)

theorem not_fulfilled_of_rejected {ε α : Type} {promise : Promise ε α}
    (done : promise.IsFulfilled) : ¬promise.IsRejected := by
  rintro ⟨error, failed⟩
  obtain ⟨value, settled⟩ := done
  rw [failed] at settled
  cases settled

theorem pullPhases_fulfilled {answers : BrandAnswers ν} {counts : PullCounts}
    (done : pullPhases numbers timing cursor force answers = .fulfilled (some counts)) :
    (pullAndReconcileCustomers numbers timing cursor force answers).IsFulfilled ∧
      (pullInvoices numbers answers).IsFulfilled := by
  obtain ⟨scope, _, done⟩ := bind_fulfilled done
  cases scope with
  | false => cases done
  | true =>
      obtain ⟨connection, _, done⟩ := bind_fulfilled done
      cases connection with
      | false => cases done
      | true =>
          obtain ⟨_, _, done⟩ := bind_fulfilled done
          obtain ⟨values, gathered, _⟩ := bind_fulfilled done
          have gathers := timing.gathers [
            pullAndReconcileCustomers numbers timing cursor force answers,
            pullInvoices numbers answers,
            (answers.reconcileInvoices.recover fun _ => .fulfilled ()) >>= fun _ => pure 0]
          rw [gathered] at gathers
          obtain ⟨customers, _, first⟩ := gathers.member List.mem_cons_self
          obtain ⟨invoices, _, second⟩ := gathers.member
            (List.mem_cons_of_mem _ List.mem_cons_self)
          exact ⟨⟨customers, first⟩, ⟨invoices, second⟩⟩

theorem pullBrand_advances {answers : BrandAnswers ν}
    (advanced : (pullBrand numbers timing cursor force answers).2 ≠ cursor) :
    ∃ counts, pullPhases numbers timing cursor force answers = .fulfilled (some counts) := by
  unfold pullBrand at advanced
  split at advanced
  next => exact absurd rfl advanced
  next => exact absurd rfl advanced
  next => exact absurd rfl advanced
  next counts phases => exact ⟨counts, phases⟩

structure Completed (answers : BrandAnswers ν) : Prop where
  contactJob : answers.contactJob.create.IsFulfilled
  contacts : ∀ page ∈ listed ContactPage.listing answers.contactPages, ∃ applied contacts hasMore,
    pullContactPage numbers timing cursor force page = .fulfilled (applied, contacts, hasMore)
  invoiceJob : answers.invoiceJob.create.IsFulfilled
  invoices : ∀ page ∈ listed InvoicePage.listing answers.invoicePages,
    page.listing.IsFulfilled ∧ ∀ record ∈ InvoicePage.due page,
      ∃ applied, pullRecordTolerantly (pullOneInvoice numbers record) = .fulfilled applied

theorem completed_of_advance {answers : BrandAnswers ν}
    (advanced : (pullBrand numbers timing cursor force answers).2 ≠ cursor) :
    Completed numbers timing cursor force answers := by
  obtain ⟨counts, phases⟩ := pullBrand_advances numbers timing cursor force advanced
  obtain ⟨⟨_, customers⟩, ⟨_, invoices⟩⟩ := pullPhases_fulfilled numbers timing cursor force phases
  obtain ⟨_, pulled, _⟩ := bind_fulfilled customers
  obtain ⟨contactJob, contacts⟩ := recordPull_fulfilled pulled
  obtain ⟨invoiceJob, invoices⟩ := recordPull_fulfilled invoices
  exact ⟨⟨_, contactJob⟩, pullContactPages_fulfilled numbers timing cursor force contacts,
    ⟨_, invoiceJob⟩, pullInvoicePages_fulfilled numbers invoices⟩

theorem Completed.not_faulty {answers : BrandAnswers ν}
    (completed : Completed numbers timing cursor force answers) :
    ¬Faulty numbers cursor force answers := by
  intro faulty
  cases faulty with
  | contactJob failed => exact not_fulfilled_of_rejected completed.contactJob failed
  | invoiceJob failed => exact not_fulfilled_of_rejected completed.invoiceJob failed
  | contacts page reached fault =>
      obtain ⟨applied, contacts, hasMore, pulled⟩ := completed.contacts page reached
      obtain ⟨shown, versions, records⟩ :=
        pullContactPage_fulfilled numbers timing cursor force pulled
      cases fault with
      | listing failed => exact not_fulfilled_of_rejected ⟨_, shown⟩ failed
      | versions others more same failed =>
          rw [shown] at same
          cases same
          exact not_fulfilled_of_rejected versions failed
      | record answers due error systemic failed =>
          obtain ⟨_, tolerated⟩ := records answers due
          exact tolerated_not_systemic tolerated systemic failed
  | invoices page reached fault =>
      obtain ⟨shown, records⟩ := completed.invoices page reached
      cases fault with
      | listing failed => exact not_fulfilled_of_rejected shown failed
      | record answers due error systemic failed =>
          obtain ⟨_, tolerated⟩ := records answers due
          exact tolerated_not_systemic tolerated systemic failed

theorem recovered {promise : Promise PullError Unit} (settled : promise ≠ .pending) :
    (promise.recover fun _ => .fulfilled ()) = .fulfilled () := by
  cases promise with
  | pending => exact absurd rfl settled
  | rejected error => rfl
  | fulfilled value => rfl

/-- A reconciliation that comes to an end leaves the pull as one that succeeds. -/
theorem pullBrand_reconciled (answers : BrandAnswers ν)
    {contacts : List ZohoContactListItem → Promise PullError Unit}
    (contactsEnd : ∀ seen, contacts seen ≠ .pending) {invoices : Promise PullError Unit}
    (invoicesEnd : invoices ≠ .pending) :
    pullBrand numbers timing cursor force
        { answers with reconcileContacts := contacts, reconcileInvoices := invoices } =
      pullBrand numbers timing cursor force
        { answers with
          reconcileContacts := fun _ => .fulfilled (), reconcileInvoices := .fulfilled () } := by
  have swallowed : (fun seen => (contacts seen).recover fun _ => .fulfilled ()) =
      fun _ => .fulfilled () := funext fun seen => recovered (contactsEnd seen)
  have customers : pullAndReconcileCustomers numbers timing cursor force
      { answers with reconcileContacts := contacts, reconcileInvoices := invoices } =
        pullAndReconcileCustomers numbers timing cursor force
          { answers with
            reconcileContacts := fun _ => .fulfilled (), reconcileInvoices := .fulfilled () } := by
    unfold pullAndReconcileCustomers
    congr 1
    funext result
    simp only [congrFun swallowed result.2]
    rfl
  unfold pullBrand pullPhases
  rw [customers, recovered invoicesEnd]
  rfl

/-- Both phases come to an end without an error, the reconciliations come to some end, and the
write of the cursor is carried out. -/
structure Ends (answers : BrandAnswers ν) : Prop where
  scope : answers.scope = .fulfilled true
  connection : answers.connection = .fulfilled true
  readCursor : answers.readCursor = .fulfilled ()
  customers : (pullCustomers numbers timing cursor force answers).IsFulfilled
  reconcileContacts : ∀ seen, answers.reconcileContacts seen ≠ .pending
  invoices : (pullInvoices numbers answers).IsFulfilled
  reconcileInvoices : answers.reconcileInvoices ≠ .pending
  recordPullRun : answers.recordPullRun = .fulfilled ()

theorem gather_fulfilled {α : Type} {promises : List (Promise PullError α)}
    (each : ∀ promise ∈ promises, promise.IsFulfilled) :
    (timing.gather promises).IsFulfilled := by
  have gathers := timing.gathers promises
  cases gathered : timing.gather promises with
  | fulfilled values => exact ⟨values, rfl⟩
  | rejected error =>
      obtain ⟨_, same⟩ := each _ (gathers.rejected error gathered)
      cases same
  | pending =>
      obtain ⟨_, same⟩ := each _ (gathers.pending gathered)
      cases same

theorem Ends.advances {answers : BrandAnswers ν} (ends : Ends numbers timing cursor force answers) :
    (pullBrand numbers timing cursor force answers).2 = some answers.startedAt := by
  have customers : (pullAndReconcileCustomers numbers timing cursor force answers).IsFulfilled := by
    obtain ⟨result, pulled⟩ := ends.customers
    refine ⟨result.1, ?_⟩
    rw [pullAndReconcileCustomers, pulled, fulfilled_bind]
    simp only [recovered (ends.reconcileContacts result.2), fulfilled_bind, pure_eq]
  have reconciled : ((answers.reconcileInvoices.recover fun _ => .fulfilled ()) >>=
      fun _ => (pure 0 : Promise PullError Nat)).IsFulfilled := by
    rw [recovered ends.reconcileInvoices]
    exact ⟨0, rfl⟩
  have each : ∀ promise ∈ [pullAndReconcileCustomers numbers timing cursor force answers,
      pullInvoices numbers answers,
      (answers.reconcileInvoices.recover fun _ => .fulfilled ()) >>= fun _ => pure 0],
      promise.IsFulfilled := by
    intro promise member
    simp only [List.mem_cons, List.not_mem_nil, or_false] at member
    rcases member with rfl | rfl | rfl
    · exact customers
    · exact ends.invoices
    · exact reconciled
  obtain ⟨values, gathered⟩ := gather_fulfilled timing each
  have connected : buildConnection answers = .fulfilled true := by
    rw [buildConnection, ends.connection]
    rfl
  have phases : pullPhases numbers timing cursor force answers =
      .fulfilled (some { customers := values.getD 0 0, invoices := values.getD 1 0 }) := by
    rw [pullPhases, ends.scope, fulfilled_bind, if_pos rfl, connected, fulfilled_bind, if_pos rfl,
      ends.readCursor, fulfilled_bind, gathered, fulfilled_bind, pure_eq]
  rw [pullBrand, phases]
  simp only [ends.recordPullRun]

/-- The cursor moves only past records that were applied, echoes or refused; it stays where
it was after any other error of a phase; it moves once the phases are through, however the
presence reconciliations end, and these change nothing else either. -/
theorem cursor_passes_only_handled (answers : BrandAnswers ν) :
    ((pullBrand numbers timing cursor force answers).2 ≠ cursor →
        (∀ page ∈ listed ContactPage.listing answers.contactPages,
            ∀ record ∈ ContactPage.due numbers page cursor force, CustomerHandled numbers record) ∧
          ∀ page ∈ listed InvoicePage.listing answers.invoicePages,
            ∀ record ∈ InvoicePage.due page, InvoiceHandled numbers record) ∧
      (Faulty numbers cursor force answers →
        (pullBrand numbers timing cursor force answers).2 = cursor) ∧
      (Ends numbers timing cursor force answers →
        (pullBrand numbers timing cursor force answers).2 = some answers.startedAt) ∧
      ∀ contacts invoices, (∀ seen, contacts seen ≠ .pending) → invoices ≠ .pending →
        pullBrand numbers timing cursor force
            { answers with reconcileContacts := contacts, reconcileInvoices := invoices } =
          pullBrand numbers timing cursor force
            { answers with
              reconcileContacts := fun _ => .fulfilled (), reconcileInvoices := .fulfilled () } := by
  refine ⟨fun advanced => ?_, fun faulty => ?_, fun ends => ends.advances,
    fun contacts invoices contactsEnd invoicesEnd => ?_⟩
  · have completed := completed_of_advance numbers timing cursor force advanced
    constructor
    · intro page reached record due
      obtain ⟨_, _, _, pulled⟩ := completed.contacts page reached
      obtain ⟨_, _, records⟩ := pullContactPage_fulfilled numbers timing cursor force pulled
      obtain ⟨_, tolerated⟩ := records record due
      exact customer_tolerated numbers tolerated
    · intro page reached record due
      obtain ⟨_, tolerated⟩ := (completed.invoices page reached).2 record due
      exact invoice_tolerated numbers tolerated
  · by_contra advanced
    have completed := completed_of_advance numbers timing cursor force advanced
    exact Completed.not_faulty numbers timing cursor force completed faulty
  · exact pullBrand_reconciled numbers timing cursor force answers contactsEnd invoicesEnd

end Numbers

def sampleJob : JobAnswers where
  create := .fulfilled ()
  update := .fulfilled ()
  markUnhealthy := .fulfilled ()

def sampleContactPull (error : PullError) : CustomerAnswers where
  job := sampleJob
  contact := .rejected error
  existing := .fulfilled none
  transaction := .fulfilled ()

/-- One contact is due, Zoho answers its pull with an error, and so do both scans that
reconcile. -/
def sampleBrand (error : PullError) : BrandAnswers Int where
  scope := .fulfilled true
  connection := .fulfilled true
  recordConnectionFailure := .fulfilled ()
  startedAt := 9
  readCursor := .fulfilled ()
  contactJob := sampleJob
  contactPages := [{
    listing := .fulfilled ([{ contactId := "c1", status := none, lastModifiedTime := none }], false)
    versions := .fulfilled []
    pulls := fun _ => sampleContactPull error }]
  reconcileContacts := fun _ => .rejected (.unknown "connection lost")
  invoiceJob := sampleJob
  invoicePages := [{ listing := .fulfilled ([], false) }]
  reconcileInvoices := .rejected (.integration .transient "rate limited")
  recordPullRun := .fulfilled ()

/-- A record that Zoho refuses is passed, with both reconciliations failed; an error that may be
anything is not. -/
theorem cursor_passes_only_handled_sample :
    (pullBrand sampleDecimals (Timing.sequential _) (some 3) false
        (sampleBrand (.integration .validation "bad record"))).2 = some 9 ∧
      (pullBrand sampleDecimals (Timing.sequential _) (some 3) false
        (sampleBrand (.unknown "connection lost"))).2 = some 3 := by
  have run (error : PullError) := cursor_passes_only_handled sampleDecimals (Timing.sequential _)
    (some 3) false (sampleBrand error)
  refine ⟨(run _).2.2.1 ⟨rfl, rfl, rfl, ⟨_, rfl⟩, nofun, ⟨_, rfl⟩, nofun, rfl⟩, (run _).2.1 ?_⟩
  have due : sampleContactPull (.unknown "connection lost") ∈
      [sampleContactPull (.unknown "connection lost")] := List.mem_cons_self
  exact .contacts _ List.mem_cons_self (.record _ due _ rfl rfl)

end PullBrand

end MultiBrandInvoicing
