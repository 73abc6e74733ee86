import MultiBrandInvoicing.Mirroring.ContactPulls
import MultiBrandInvoicing.Promises.Outcome

/-!
# The pull of a brand

`pullBrand` and what it calls in `apps/api/src/integrations/zoho-pull.service.ts`, as
functions of what the calls they make come to.  Zoho's answers, the database's and those of
the presence reconciliations are given; which errors are swallowed, classified or passed on
is computed.  Pages are given as far as they are asked for, and where they give out the
brand's pull is still waiting for the next.
-/

set_option autoImplicit false

namespace MultiBrandInvoicing

open Promise

inductive ErrorClass where
  | transient | authentication | validation | conflict | permanent
  deriving DecidableEq, Repr

/-- An error of the integration with its class, or one of anything else. -/
inductive PullError where
  | integration (errorClass : ErrorClass) (message : String)
  | unknown (message : String)
  deriving DecidableEq, Repr

def PullError.isRecordSpecific : PullError → Bool
  | .integration .validation _ => true
  | .integration .conflict _ => true
  | .integration .permanent _ => true
  | _ => false

/-- The writes to one sync job row: its creation, its result and the connection's health. -/
structure JobAnswers where
  create : Promise PullError Unit
  update : Promise PullError Unit
  markUnhealthy : Promise PullError Unit

structure ZohoContactListItem where
  contactId : String
  status : Option String
  lastModifiedTime : Option String

structure CustomerAnswers where
  job : JobAnswers
  contact : Promise PullError ZohoContactDetail
  existing : Promise PullError (Option CustomerRow)
  transaction : Promise PullError Unit

structure ExistingInvoice where
  zohoSyncedVersion : Option Time
  lineItems : Nat

inductive UpsertFailure where
  | numberTaken
  | other (error : PullError)

structure InvoiceAnswers (ν : Type) where
  job : JobAnswers
  item : ZohoInvoiceListItem ν
  existing : Promise PullError (Option ExistingInvoice)
  localCustomer : Promise PullError (Option String)
  cascade : CustomerAnswers
  cascadedCustomer : Promise PullError (Option String)
  detail : Promise PullError (ZohoInvoiceDetail ν)
  applyDetail : Promise PullError Unit
  upsert : Promise UpsertFailure Unit

/-- One page of contacts; `pulls` has the answers for its due contacts, in order. -/
structure ContactPage where
  listing : Promise PullError (List ZohoContactListItem × Bool)
  versions : Promise PullError (List (String × Option Time))
  pulls : Nat → CustomerAnswers

structure InvoicePage (ν : Type) where
  listing : Promise PullError (List (InvoiceAnswers ν) × Bool)

structure BrandAnswers (ν : Type) where
  scope : Promise PullError Bool
  connection : Promise PullError Bool
  recordConnectionFailure : Promise PullError Unit
  startedAt : Time
  readCursor : Promise PullError Unit
  contactJob : JobAnswers
  contactPages : List ContactPage
  reconcileContacts : List ZohoContactListItem → Promise PullError Unit
  invoiceJob : JobAnswers
  invoicePages : List (InvoicePage ν)
  reconcileInvoices : Promise PullError Unit
  recordPullRun : Promise PullError Unit

structure PullCounts where
  customers : Nat
  invoices : Nat
  deriving DecidableEq, Repr

namespace PullBrand

open ZohoPullService

def pullRecordTolerantly (work : Promise PullError Bool) : Promise PullError Bool :=
  work.recover fun error =>
    match error with
    | .unknown _ => .rejected error
    | .integration errorClass _ =>
        if errorClass = .authentication || errorClass = .transient then .rejected error
        else .fulfilled false

/-- A rejected credential is shown on the connection. -/
def recordUnhealthy (job : JobAnswers) : PullError → Promise PullError Unit
  | .integration .authentication _ => job.markUnhealthy.guarded
  | _ => .fulfilled ()

/-- Only the creation of the row can fail the pull it records. -/
def recordPull {α : Type} (job : JobAnswers) (work : Promise PullError α) : Promise PullError α := do
  job.create
  match work with
  | .pending => .pending
  | .fulfilled result => do
      job.update.guarded
      pure result
  | .rejected error => do
      job.update.guarded
      recordUnhealthy job error
      .rejected error

section Numbers

variable {ν : Type} (numbers : ZohoNumbers ν)

def pullOneCustomer (answers : CustomerAnswers) : Promise PullError Bool :=
  recordPull answers.job do
    let contact ← answers.contact
    let existing ← answers.existing
    let version := existing.bind fun row => row.header.zohoSyncedVersion
    if isOwnPushEcho numbers contact.lastModifiedTime version then pure false
    else do
      answers.transaction
      pure true

def invoiceCustomer (answers : InvoiceAnswers ν) : Promise PullError String := do
  match ← answers.localCustomer with
  | some customerId => pure customerId
  | none => do
      let _ ← pullOneCustomer numbers answers.cascade
      match ← answers.cascadedCustomer with
      | some customerId => pure customerId
      | none =>
          .rejected (.integration .validation (s!"invoice {answers.item.invoiceId} references " ++
            s!"Zoho contact {answers.item.customerId}, which could not be pulled"))

def upsertHeader (answers : InvoiceAnswers ν) : Promise PullError Unit :=
  match answers.upsert with
  | .pending => .pending
  | .fulfilled value => .fulfilled value
  | .rejected .numberTaken =>
      .rejected (.integration .validation (s!"Zoho invoice {answers.item.invoiceId} uses number " ++
        s!"\"{answers.item.invoiceNumber}\", which already belongs to a different invoice on this " ++
        "brand — the Zoho-sourced and locally generated number sequences have collided, " ++
        "and one of them has to change"))
  | .rejected (.other error) => .rejected error

def refreshLines (answers : InvoiceAnswers ν) (existing : Option ExistingInvoice) :
    Promise PullError Unit :=
  if existing.any fun row => 0 < row.lineItems then do
    let _ ← answers.detail
    answers.applyDetail
  else .fulfilled ()

def pullOneInvoice (answers : InvoiceAnswers ν) : Promise PullError Bool :=
  recordPull answers.job do
    let existing ← answers.existing
    let version := existing.bind ExistingInvoice.zohoSyncedVersion
    if isOwnPushEcho numbers answers.item.lastModifiedTime version then pure false
    else do
      let _ ← invoiceCustomer numbers answers
      match supportedCurrency? answers.item.currencyCode with
      | none =>
          .rejected (.integration .validation (s!"invoice {answers.item.invoiceId} is " ++
            s!"denominated in {answers.item.currencyCode}, which this platform does not " ++
            "support — it cannot be represented without corrupting the amount"))
      | some _ => do
          refreshLines answers existing
          upsertHeader answers
          pure true

def isContactDue (item : ZohoContactListItem) (versions : List (String × Option Time))
    (cursor : Option Time) (force : Bool) : Bool :=
  match parseZohoTimestamp numbers item.lastModifiedTime with
  | none => true
  | some remote =>
      match versions.lookup item.contactId with
      | none => true
      | some (some stored) => stored < remote
      | some none => force || cursor.all (· < remote)

/-- `localContactVersions`, which asks nothing for an empty page. -/
def localContactVersions (page : ContactPage) (contacts : List ZohoContactListItem) :
    Promise PullError (List (String × Option Time)) :=
  if contacts.isEmpty then pure [] else page.versions

def dueContacts (page : ContactPage) (contacts : List ZohoContactListItem)
    (versions : List (String × Option Time)) (cursor : Option Time) (force : Bool) :
    List CustomerAnswers :=
  let due := contacts.filter fun item => isContactDue numbers item versions cursor force
  (List.range due.length).map page.pulls

variable (timing : Timing PullError) (cursor : Option Time) (force : Bool)

/-- One round of the loop of `pullCustomers`: how many were written, what was seen, and
whether there is more. -/
def pullContactPage (page : ContactPage) :
    Promise PullError (Nat × List ZohoContactListItem × Bool) := do
  let (contacts, hasMorePage) ← page.listing
  let versions ← localContactVersions page contacts
  let applied ← timing.gather ((dueContacts numbers page contacts versions cursor force).map
    fun answers => pullRecordTolerantly (pullOneCustomer numbers answers))
  pure (applied.count true, contacts, hasMorePage)

def pullContactPages :
    List ContactPage → Nat → List ZohoContactListItem →
      Promise PullError (Nat × List ZohoContactListItem)
  | [], _, _ => .pending
  | page :: rest, touched, seen => do
      let (applied, contacts, hasMore) ← pullContactPage numbers timing cursor force page
      if hasMore then pullContactPages rest (touched + applied) (seen ++ contacts)
      else pure (touched + applied, seen ++ contacts)

def pullCustomers (answers : BrandAnswers ν) :
    Promise PullError (Nat × List ZohoContactListItem) :=
  recordPull answers.contactJob
    (pullContactPages numbers timing cursor force answers.contactPages 0 [])

def pullAndReconcileCustomers (answers : BrandAnswers ν) : Promise PullError Nat := do
  let (touched, seen) ← pullCustomers numbers timing cursor force answers
  (answers.reconcileContacts seen).recover fun _ => .fulfilled ()
  pure touched

def pullListedInvoices : List (InvoiceAnswers ν) → Nat → Promise PullError Nat
  | [], touched => pure touched
  | item :: rest, touched => do
      let applied ← pullRecordTolerantly (pullOneInvoice numbers item)
      pullListedInvoices rest (if applied then touched + 1 else touched)

def pullInvoicePages : List (InvoicePage ν) → Nat → Promise PullError Nat
  | [], _ => .pending
  | page :: rest, touched => do
      let (items, hasMore) ← page.listing
      let touched ← pullListedInvoices numbers items touched
      if hasMore then pullInvoicePages rest touched else pure touched

def pullInvoices (answers : BrandAnswers ν) : Promise PullError Nat :=
  recordPull answers.invoiceJob (pullInvoicePages numbers answers.invoicePages 0)

def buildConnection (answers : BrandAnswers ν) : Promise PullError Bool :=
  answers.connection.recover fun error => do
    answers.recordConnectionFailure.guarded
    .rejected error

/-- `pullBrand` up to the write of the cursor; it may have nothing to do. -/
def pullPhases (answers : BrandAnswers ν) : Promise PullError (Option PullCounts) := do
  let scope ← answers.scope
  if scope then do
    let connection ← buildConnection answers
    if connection then do
      answers.readCursor
      let counts ← timing.gather [
        pullAndReconcileCustomers numbers timing cursor force answers,
        pullInvoices numbers answers,
        (answers.reconcileInvoices.recover fun _ => .fulfilled ()) >>= fun _ => pure 0]
      pure (some { customers := counts.getD 0 0, invoices := counts.getD 1 0 })
    else pure none
  else pure none

def pullBrand (answers : BrandAnswers ν) : Promise PullError PullCounts × Option Time :=
  match pullPhases numbers timing cursor force answers with
  | .pending => (.pending, cursor)
  | .rejected error => (.rejected error, cursor)
  | .fulfilled none => (.fulfilled { customers := 0, invoices := 0 }, cursor)
  | .fulfilled (some counts) =>
      match answers.recordPullRun with
      | .pending => (.pending, cursor)
      | .rejected error => (.rejected error, cursor)
      | .fulfilled _ => (.fulfilled counts, some answers.startedAt)

end Numbers

end PullBrand

end MultiBrandInvoicing
