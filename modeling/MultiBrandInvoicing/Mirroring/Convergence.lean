import MultiBrandInvoicing.Mirroring.ContactPushes
import MultiBrandInvoicing.Mirroring.InvoicePushes

/-!
# A customer, its invoices and all their jobs

Updates of the customer and operations on its invoices run beside the jobs they enqueue.
An invoice's push reads its customer's contact id and first pushes the customer, as one
more job, where there is none.
-/

set_option autoImplicit false

namespace MultiBrandInvoicing

namespace Mirroring

open ContactPushes (CustomerSide Following)
open InvoicePushes (InvoiceSide Phase JobName)

variable {ι : Type}

structure World (ι : Type) where
  customer : CustomerSide (ι × JobName)
  invoices : ι → InvoiceSide

inductive Action (ι : Type) where
  | customer (action : ContactPushes.Action (ι × JobName))
  | invoice (id : ι) (action : InvoicePushes.Action)

def created (row : AccountingCustomer) : World ι where
  customer := ContactPushes.created row
  invoices := fun _ => InvoicePushes.draft

def World.step [DecidableEq ι] (world : World ι) : Action ι → World ι
  | .customer action => { world with customer := world.customer.step action }
  | .invoice id action =>
      { world with
        invoices := Function.update world.invoices id
          ((world.invoices id).step world.customer.zohoContactId.isSome action) }

def Careful (world : World ι) : Action ι → Prop
  | .customer action => ContactPushes.Careful world.customer action
  | .invoice id action => InvoicePushes.Careful (world.invoices id) action

def Drained (world : World ι) : Prop :=
  ContactPushes.Drained world.customer ∧ ∀ id, InvoicePushes.Drained (world.invoices id)

def Converged (world : World ι) : Prop :=
  ContactPushes.Mirrored world.customer ∧ ∀ id, InvoicePushes.Mirrored (world.invoices id)

structure Converging (world : World ι) : Prop where
  customer : Following world.customer
  invoices : ∀ id, Phase (world.invoices id)
  billed : ∀ id, (world.invoices id).remote ≠ [] → world.customer.zohoContactId.isSome = true

theorem Converging.converged {world : World ι} (converging : Converging world)
    (drained : Drained world) : Converged world :=
  ⟨converging.customer.mirrored drained.1,
    fun id => (converging.invoices id).mirrored (drained.2 id)⟩

theorem converging_created (row : AccountingCustomer) : Converging (created row : World ι) :=
  ⟨ContactPushes.following_created row, fun _ => .draft, fun _ remote => absurd rfl remote⟩

section Steps

variable [DecidableEq ι] {world : World ι}

theorem Converging.customer_step (converging : Converging world)
    {action : ContactPushes.Action (ι × JobName)}
    (careful : ContactPushes.Careful world.customer action) :
    Converging (world.step (.customer action)) :=
  ⟨converging.customer.step careful, converging.invoices, fun id remote =>
    ContactPushes.contact_stays _ _ (converging.billed id remote)⟩

theorem Converging.invoice_step (converging : Converging world) {id : ι}
    {action : InvoicePushes.Action} (careful : InvoicePushes.Careful (world.invoices id) action) :
    Converging (world.step (.invoice id action)) := by
  refine ⟨converging.customer, fun other => ?_, fun other remote => ?_⟩
  · by_cases same : other = id
    · subst same
      simpa [World.step] using (converging.invoices other).step (converging.billed other) careful
    · simpa [World.step, same] using converging.invoices other
  · by_cases same : other = id
    · subst same
      by_contra unknown
      have absent : world.customer.zohoContactId.isSome = false := by
        simpa [World.step] using unknown
      refine unknown (converging.billed other ?_)
      simpa [World.step, absent, InvoicePushes.remote_without_contact] using remote
    · exact converging.billed other (by simpa [World.step, same] using remote)

theorem Converging.step (converging : Converging world) {action : Action ι}
    (careful : Careful world action) : Converging (world.step action) := by
  cases action with
  | customer action => exact converging.customer_step careful
  | invoice id action => exact converging.invoice_step careful

/-- In every careful interleaving of updates, issues, cancellations and jobs, Zoho has the
customer's fields and the invoices' voids whenever no job is left. -/
theorem drained_pushes_converge (row : AccountingCustomer) {actions : List (Action ι)}
    (careful : Runs.Throughout World.step Careful actions (created row)) :
    Runs.Always World.step (fun world => Drained world → Converged world) actions
      (created row) := by
  have converging : Runs.Always World.step Converging actions (created row) :=
    Runs.always_of_throughout (fun _ _ converging careful => converging.step careful)
      (converging_created row) careful
  exact converging.mono fun _ converging => converging.converged

end Steps

/-! ## Runs of a customer with one invoice -/

def sampleCustomer : AccountingCustomer where
  type := .business
  displayName := "Acme"
  companyName := some "Acme Ltd"
  firstName := none
  lastName := none
  email := some "billing@acme.test"
  phone := none
  billingAddress := none
  shippingAddress := none

def firstPush : List (Action Unit) :=
  [.customer (.start 0), .customer (.send (.inl 0)), .customer (.store (.inl 0))]

def sampleRun : List (Action Unit) :=
  firstPush ++
    [.invoice () .issue, .invoice () (.start .issue), .invoice () (.send .issue),
      .invoice () (.store .issue),
      .customer (.update { sampleCustomer with displayName := "Acme Group" }),
      .customer (.start 1), .customer (.send (.inl 1)), .customer (.store (.inl 1)),
      .invoice () .cancel, .invoice () (.start .cancel), .invoice () (.send .cancel),
      .invoice () (.store .cancel)]

/-- The first push has created the invoice in Zoho when it is cancelled here; no id is
stored, so no void is enqueued. -/
def cancelledMeanwhile : List (Action Unit) :=
  firstPush ++
    [.invoice () .issue, .invoice () (.start .issue), .invoice () (.send .issue),
      .invoice () .cancel, .invoice () (.store .issue)]

def overtaken : List (Action Unit) :=
  firstPush ++
    [.customer (.update { sampleCustomer with displayName := "Acme Holdings" }),
      .customer (.start 1),
      .customer (.update { sampleCustomer with displayName := "Acme Group" }),
      .customer (.start 2), .customer (.send (.inl 2)), .customer (.store (.inl 2)),
      .customer (.send (.inl 1)), .customer (.store (.inl 1))]

def cleared : List (Action Unit) :=
  firstPush ++
    [.customer (.update { sampleCustomer with companyName := none }), .customer (.start 1),
      .customer (.send (.inl 1)), .customer (.store (.inl 1))]

def finish (actions : List (Action Unit)) : World Unit :=
  actions.foldl World.step (created sampleCustomer)

theorem drained_of_few {actions : List (Action Unit)}
    (invoice : InvoicePushes.Drained ((finish actions).invoices ()))
    (cascades : ∀ job, (finish actions).customer.jobs (.inr job) = .idle)
    (first : (finish actions).customer.jobs (.inl 0) = .idle)
    (second : (finish actions).customer.jobs (.inl 1) = .idle)
    (others : ∀ job, (finish actions).customer.jobs (.inl (job + 2)) = .idle) :
    Drained (finish actions) := by
  refine ⟨fun job => ?_, fun _ => invoice⟩
  rcases job with job | job
  · match job with
    | 0 => exact first
    | 1 => exact second
    | job + 2 => exact others job
  · exact cascades job

theorem drained_pushes_converge_sample : Converged (finish sampleRun) := by
  have drained : Drained (finish sampleRun) :=
    drained_of_few ⟨rfl, rfl⟩ (fun _ => rfl) rfl rfl fun _ => rfl
  have careful : Runs.Throughout World.step Careful sampleRun (created sampleCustomer) := by
    refine ⟨trivial, ?_, trivial, trivial, trivial, trivial, trivial, trivial, trivial, ?_,
      trivial, .inl rfl, trivial, trivial, trivial, trivial⟩
    · intro customer zohoContactId edition reads
      cases reads
      rfl
    · intro customer zohoContactId edition reads
      cases reads
      intro contact member
      cases List.mem_singleton.mp member
      refine ⟨by decide, fun field => ?_⟩
      cases field <;> decide
  exact (drained_pushes_converge sampleCustomer careful).last drained

theorem not_mirrored {side : CustomerSide (Unit × JobName)} {contact : ContactPushes.Contact}
    (only : side.contacts = [contact]) (field : ContactField)
    (differs : contact.fields field ≠ contactPayload side.row field) :
    ¬ContactPushes.Mirrored side := by
  rintro ⟨remoteId, found, _, there, same⟩
  have member : found ∈ side.contacts := List.mem_of_getElem? there
  rw [only, List.mem_singleton] at member
  subst member
  exact differs (congrFun same field)

/-- Three ways for Zoho to end up with something else, with every job over. -/
theorem drained_pushes_diverge :
    (Drained (finish cancelledMeanwhile) ∧ ¬Converged (finish cancelledMeanwhile)) ∧
      (Drained (finish overtaken) ∧ ¬Converged (finish overtaken)) ∧
        Drained (finish cleared) ∧ ¬Converged (finish cleared) := by
  refine ⟨⟨?_, ?_⟩, ⟨?_, ?_⟩, ?_, ?_⟩
  · exact drained_of_few ⟨rfl, rfl⟩ (fun _ => rfl) rfl rfl fun _ => rfl
  · intro converged
    have live : ¬InvoicePushes.Mirrored ((finish cancelledMeanwhile).invoices ()) := by decide
    exact live (converged.2 ())
  · refine drained_of_few ⟨rfl, rfl⟩ (fun _ => rfl) rfl rfl fun job => ?_
    cases job with
    | zero => rfl
    | succ job => rfl
  · intro converged
    exact not_mirrored rfl .contactName (by decide) converged.1
  · exact drained_of_few ⟨rfl, rfl⟩ (fun _ => rfl) rfl rfl fun _ => rfl
  · intro converged
    exact not_mirrored rfl .companyName (by decide) converged.1

end Mirroring

end MultiBrandInvoicing
