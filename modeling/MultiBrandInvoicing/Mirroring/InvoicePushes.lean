import MultiBrandInvoicing.Integrations.ZohoSync
import MultiBrandInvoicing.Transitions.Runs

/-!
# Jobs that push one invoice

Issuing an invoice enqueues a push of it; cancelling enqueues one too, but only if an id
from Zoho is stored by then (`invoices.service.ts`, `pushInvoice` in
`zoho-sync.service.ts`, and its branch for voids in `zoho-books.adapter.ts`).  A job reads
the row, writes to Zoho and stores the id.
-/

set_option autoImplicit false

namespace MultiBrandInvoicing

namespace InvoicePushes

inductive RemoteStatus where
  | draft | sent | void
  deriving DecidableEq, Repr

/-- Where a job stands: it has read the status and the stored id, or has written the invoice
with this id and not stored it yet. -/
inductive Job where
  | idle
  | queued
  | read (status : InvoiceStatus) (zohoInvoiceId : Option Nat)
  | sent (remoteId : Nat)
  deriving DecidableEq, Repr

/-- The two jobs an invoice can have, after what enqueues them. -/
inductive JobName where
  | issue | cancel
  deriving DecidableEq, Repr

structure InvoiceSide where
  status : InvoiceStatus
  zohoInvoiceId : Option Nat
  remote : List RemoteStatus
  issuePush : Job
  cancelPush : Job
  deriving DecidableEq, Repr

inductive Action where
  | issue
  | cancel
  | start (job : JobName)
  | send (job : JobName)
  | store (job : JobName)
  deriving DecidableEq, Repr

def draft : InvoiceSide where
  status := .draft
  zohoInvoiceId := none
  remote := []
  issuePush := .idle
  cancelPush := .idle

def InvoiceSide.job (side : InvoiceSide) : JobName → Job
  | .issue => side.issuePush
  | .cancel => side.cancelPush

def InvoiceSide.setJob (side : InvoiceSide) (name : JobName) (stage : Job) : InvoiceSide :=
  match name with
  | .issue => { side with issuePush := stage }
  | .cancel => { side with cancelPush := stage }

@[simp] theorem setJob_remote (side : InvoiceSide) (name : JobName) (stage : Job) :
    (side.setJob name stage).remote = side.remote := by
  cases name <;> rfl

/-- The write of a job.  It throws, and is over, if the customer has no contact, if there is
nothing to void, or if Zoho refuses to write a voided invoice; a new invoice is a draft
until it is marked as sent. -/
def InvoiceSide.send (side : InvoiceSide) (hasContact : Bool) (name : JobName)
    (status : InvoiceStatus) (zohoInvoiceId : Option Nat) : InvoiceSide :=
  if !hasContact then side.setJob name .idle
  else
    match ZohoSyncService.toAccountingInvoiceStatus status, zohoInvoiceId with
    | .void, none => side.setJob name .idle
    | .void, some remoteId =>
        { side with remote := side.remote.set remoteId .void }.setJob name (.sent remoteId)
    | .draft, none =>
        { side with remote := side.remote ++ [RemoteStatus.draft] }.setJob name
          (.sent side.remote.length)
    | _, none =>
        { side with remote := side.remote ++ [RemoteStatus.sent] }.setJob name
          (.sent side.remote.length)
    | accounting, some remoteId =>
        match side.remote[remoteId]? with
        | some .draft =>
            if accounting = .draft then side.setJob name (.sent remoteId)
            else { side with remote := side.remote.set remoteId .sent }.setJob name (.sent remoteId)
        | some .sent => side.setJob name (.sent remoteId)
        | _ => side.setJob name .idle

/-- One operation, or one step of a job; `hasContact` tells whether the customer's contact
id is stored. -/
def InvoiceSide.step (side : InvoiceSide) (hasContact : Bool) : Action → InvoiceSide
  | .issue =>
      if side.status ∈ allowed .issue then { side with status := .sent, issuePush := .queued }
      else side
  | .cancel =>
      if side.status ∈ allowed .cancel then
        { side with
          status := .cancelled
          cancelPush := if side.zohoInvoiceId.isSome then .queued else side.cancelPush }
      else side
  | .start name =>
      match side.job name with
      | .queued => side.setJob name (.read side.status side.zohoInvoiceId)
      | _ => side
  | .send name =>
      match side.job name with
      | .read status zohoInvoiceId => side.send hasContact name status zohoInvoiceId
      | _ => side
  | .store name =>
      match side.job name with
      | .sent remoteId => { side with zohoInvoiceId := some remoteId }.setJob name .idle
      | _ => side

/-! ## One job and the service's push -/

@[simp] theorem setJob_status (side : InvoiceSide) (name : JobName) (stage : Job) :
    (side.setJob name stage).status = side.status := by
  cases name <;> rfl

@[simp] theorem setJob_zohoInvoiceId (side : InvoiceSide) (name : JobName) (stage : Job) :
    (side.setJob name stage).zohoInvoiceId = side.zohoInvoiceId := by
  cases name <;> rfl

@[simp] theorem setJob_self (side : InvoiceSide) (name : JobName) (stage : Job) :
    (side.setJob name stage).job name = stage := by
  cases name <;> rfl

/-- A write to Zoho leaves the row as it is. -/
theorem send_status (side : InvoiceSide) (hasContact : Bool) (name : JobName)
    (status : InvoiceStatus) (zohoInvoiceId : Option Nat) :
    (side.send hasContact name status zohoInvoiceId).status = side.status := by
  unfold InvoiceSide.send
  split
  · simp
  · split
    · simp
    · simp
    · simp
    · simp
    · split
      · split <;> simp
      · simp
      · simp

theorem step_store {side : InvoiceSide} {hasContact : Bool} {name : JobName} {remoteId : Nat}
    (sent : side.job name = .sent remoteId) :
    side.step hasContact (.store name) =
      { side with zohoInvoiceId := some remoteId }.setJob name .idle := by
  simp only [InvoiceSide.step, sent]

/-- The columns of the row that a side keeps; `remoteIds` are the ids of Zoho. -/
structure Represents (remoteIds : Nat → String) (side : InvoiceSide) (store : Store) : Prop where
  status : store.invoice.status = side.status
  zohoInvoiceId : store.invoice.zohoInvoiceId = side.zohoInvoiceId.map remoteIds

/-- The three steps of a job do to the row what `pushInvoice` does, given the id of the
invoice the job has written as the adapter's answer. -/
theorem pushInvoice_refines {remoteIds : Nat → String} {side : InvoiceSide} {store : Store}
    (represents : Represents remoteIds side store) {name : JobName}
    (queued : side.job name = .queued) {hasContact : Bool} {remoteId : Nat}
    (writes : ((side.step hasContact (.start name)).step hasContact (.send name)).job name =
      .sent remoteId)
    {answers : PushAnswers} {contact : String} {version : Option Time}
    (known : answers.contact = .ok (some contact)) (named : contact ≠ "")
    (valid : ZohoSyncService.validateInvoiceForSync
      (ZohoSyncService.toAccountingInvoice store contact) = none)
    (answered : answers.pushInvoice (ZohoSyncService.toAccountingInvoice store contact) =
      .ok ⟨remoteIds remoteId, version⟩) :
    Represents remoteIds
      (((side.step hasContact (.start name)).step hasContact (.send name)).step hasContact
        (.store name))
      ((ZohoSyncService.pushInvoice answers).exec store).store := by
  have sent : (side.step hasContact (.start name)).step hasContact (.send name) =
      (side.setJob name (.read side.status side.zohoInvoiceId)).send hasContact name side.status
        side.zohoInvoiceId := by
    simp [InvoiceSide.step, queued]
  rw [step_store writes, ZohoSyncService.pushInvoice_exec known named valid answered, sent]
  constructor
  · rw [setJob_status, send_status, setJob_status]
    exact represents.status
  · rw [setJob_zohoInvoiceId]
    rfl

/-! ## When the copy in Zoho is void -/

/-- The invoice is not cancelled while its first push is between the read and the storing of
the id. -/
def Careful (side : InvoiceSide) : Action → Prop
  | .cancel => side.issuePush = .idle ∨ side.issuePush = .queued
  | _ => True

instance (side : InvoiceSide) : DecidablePred (Careful side) := fun action => by
  unfold Careful
  split <;> infer_instance

def Drained (side : InvoiceSide) : Prop := side.issuePush = .idle ∧ side.cancelPush = .idle

/-- What Zoho has for the invoice is void exactly if the invoice is cancelled. -/
def Mirrored (side : InvoiceSide) : Prop :=
  ∀ remote ∈ side.remote, remote = .void ↔ side.status = .cancelled

instance (side : InvoiceSide) : Decidable (Mirrored side) :=
  inferInstanceAs (Decidable (∀ remote ∈ side.remote, _))

inductive Phase : InvoiceSide → Prop where
  | draft : Phase draft
  | issued (job : Job) (stage : job = .queued ∨ job = .read .sent none ∨ job = .idle) :
      Phase ⟨.sent, none, [], job, .idle⟩
  | created : Phase ⟨.sent, none, [.sent], .sent 0, .idle⟩
  | live : Phase ⟨.sent, some 0, [.sent], .idle, .idle⟩
  | unsent (job : Job) (stage : job = .queued ∨ job = .read .cancelled none ∨ job = .idle) :
      Phase ⟨.cancelled, none, [], job, .idle⟩
  | voiding (job : Job) (stage : job = .queued ∨ job = .read .cancelled (some 0)) :
      Phase ⟨.cancelled, some 0, [.sent], .idle, job⟩
  | voided (job : Job) (stage : job = .sent 0 ∨ job = .idle) :
      Phase ⟨.cancelled, some 0, [.void], .idle, job⟩

theorem Phase.mirrored {side : InvoiceSide} (phase : Phase side) (drained : Drained side) :
    Mirrored side := by
  cases phase with
  | draft => simp [Mirrored, InvoicePushes.draft]
  | issued job stage => simp [Mirrored]
  | created => cases drained.1
  | live => simp [Mirrored]
  | unsent job stage => simp [Mirrored]
  | voiding job stage =>
      have idle : job = .idle := drained.2
      subst idle
      simp at stage
  | voided job stage => simp [Mirrored]

section Steps

variable {hasContact : Bool} {action : Action}

theorem step_issued {job : Job} (stage : job = .queued ∨ job = .read .sent none ∨ job = .idle)
    (careful : Careful ⟨.sent, none, [], job, .idle⟩ action) :
    Phase (InvoiceSide.step ⟨.sent, none, [], job, .idle⟩ hasContact action) := by
  cases action with
  | issue => exact .issued job stage
  | cancel =>
      -- a job that has read the row would still create the invoice
      rcases careful with rfl | rfl
      · exact .unsent .idle (.inr (.inr rfl))
      · exact .unsent .queued (.inl rfl)
  | start name =>
      cases name with
      | cancel => exact .issued job stage
      | issue =>
          rcases stage with rfl | rfl | rfl
          · exact .issued _ (.inr (.inl rfl))
          · exact .issued _ (.inr (.inl rfl))
          · exact .issued _ (.inr (.inr rfl))
  | send name =>
      cases name with
      | cancel => exact .issued job stage
      | issue =>
          rcases stage with rfl | rfl | rfl
          · exact .issued _ (.inl rfl)
          · cases hasContact with
            | false => exact .issued .idle (.inr (.inr rfl))
            | true => exact .created
          · exact .issued _ (.inr (.inr rfl))
  | store name =>
      cases name with
      | cancel => exact .issued job stage
      | issue => rcases stage with rfl | rfl | rfl <;> exact .issued _ (by simp)

theorem step_unsent {job : Job}
    (stage : job = .queued ∨ job = .read .cancelled none ∨ job = .idle) :
    Phase (InvoiceSide.step ⟨.cancelled, none, [], job, .idle⟩ hasContact action) := by
  cases action with
  | issue => exact .unsent job stage
  | cancel => exact .unsent job stage
  | start name =>
      cases name with
      | cancel => exact .unsent job stage
      | issue =>
          rcases stage with rfl | rfl | rfl
          · exact .unsent _ (.inr (.inl rfl))
          · exact .unsent _ (.inr (.inl rfl))
          · exact .unsent _ (.inr (.inr rfl))
  | send name =>
      cases name with
      | cancel => exact .unsent job stage
      | issue =>
          rcases stage with rfl | rfl | rfl
          · exact .unsent _ (.inl rfl)
          · cases hasContact <;> exact .unsent .idle (.inr (.inr rfl))
          · exact .unsent _ (.inr (.inr rfl))
  | store name =>
      cases name with
      | cancel => exact .unsent job stage
      | issue => rcases stage with rfl | rfl | rfl <;> exact .unsent _ (by simp)

theorem step_voiding {job : Job} (stage : job = .queued ∨ job = .read .cancelled (some 0)) :
    Phase (InvoiceSide.step ⟨.cancelled, some 0, [.sent], .idle, job⟩ true action) := by
  cases action with
  | issue => exact .voiding job stage
  | cancel => exact .voiding job stage
  | start name =>
      cases name with
      | issue => exact .voiding job stage
      | cancel => rcases stage with rfl | rfl <;> exact .voiding _ (.inr rfl)
  | send name =>
      cases name with
      | issue => exact .voiding job stage
      | cancel =>
          rcases stage with rfl | rfl
          · exact .voiding _ (.inl rfl)
          · exact .voided _ (.inl rfl)
  | store name =>
      cases name with
      | issue => exact .voiding job stage
      | cancel => rcases stage with rfl | rfl <;> exact .voiding _ (by simp)

theorem step_voided {job : Job} (stage : job = .sent 0 ∨ job = .idle) :
    Phase (InvoiceSide.step ⟨.cancelled, some 0, [.void], .idle, job⟩ hasContact action) := by
  cases action with
  | issue => exact .voided job stage
  | cancel => exact .voided job stage
  | start name =>
      cases name with
      | issue => exact .voided job stage
      | cancel => rcases stage with rfl | rfl <;> exact .voided _ (by simp)
  | send name =>
      cases name with
      | issue => exact .voided job stage
      | cancel => rcases stage with rfl | rfl <;> exact .voided _ (by simp)
  | store name =>
      cases name with
      | issue => exact .voided job stage
      | cancel => rcases stage with rfl | rfl <;> exact .voided _ (.inr rfl)

theorem Phase.step {side : InvoiceSide} (phase : Phase side)
    (known : side.remote ≠ [] → hasContact = true) (careful : Careful side action) :
    Phase (side.step hasContact action) := by
  cases phase with
  | draft =>
      cases action with
      | issue => exact .issued .queued (.inl rfl)
      | cancel => exact .unsent .idle (.inr (.inr rfl))
      | start name => cases name <;> exact .draft
      | send name => cases name <;> exact .draft
      | store name => cases name <;> exact .draft
  | issued job stage => exact step_issued stage careful
  | created =>
      cases action with
      | issue => exact .created
      | cancel => rcases careful with idle | queued <;> contradiction
      | start name => cases name <;> exact .created
      | send name => cases name <;> exact .created
      | store name =>
          cases name with
          | issue => exact .live
          | cancel => exact .created
  | live =>
      cases action with
      | issue => exact .live
      | cancel => exact .voiding .queued (.inl rfl)
      | start name => cases name <;> exact .live
      | send name => cases name <;> exact .live
      | store name => cases name <;> exact .live
  | unsent job stage => exact step_unsent stage
  | voiding job stage =>
      have contact : hasContact = true := known (by simp)
      subst contact
      exact step_voiding stage
  | voided job stage => exact step_voided stage

theorem remote_without_contact (side : InvoiceSide) (action : Action) :
    (side.step false action).remote = side.remote := by
  cases action with
  | issue => simp only [InvoiceSide.step]; split <;> rfl
  | cancel => simp only [InvoiceSide.step]; split <;> rfl
  | start name => simp only [InvoiceSide.step]; split <;> simp
  | send name => simp only [InvoiceSide.step]; split <;> simp [InvoiceSide.send]
  | store name => simp only [InvoiceSide.step]; split <;> simp

end Steps

end InvoicePushes

end MultiBrandInvoicing
