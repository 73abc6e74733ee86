import MultiBrandInvoicing.Integrations.StoredPushes
import MultiBrandInvoicing.Transitions.Runs

/-!
# Pushes that fail on the way

Pushes run one at a time, each as often as it takes, and may fail or be cut off at every call.  A
push creates a copy in Zoho only for a row that names none.  So a row has one copy at most, unless
a push ends after Zoho has created one and before the row is told its id.
-/

set_option autoImplicit false

namespace MultiBrandInvoicing

namespace PushJobs

open Faults Work PushJobs.ZohoBooksAdapter InvoicePushes

/-- The records that were created for a row. -/
def Zoho.copies (zoho : Zoho) (kind : Kind) (localId : String) : List String :=
  (zoho.filter fun record => record.content.kind = kind && record.localId = localId).map
    RemoteRecord.id

theorem copies_put (zoho : Zoho) (remoteId : String) (content : Content) :
    (zoho.put remoteId content).copies = zoho.copies := by
  have kept : ∀ record : RemoteRecord,
      (if record.is content.kind remoteId then { record with content } else record).content.kind =
          record.content.kind ∧
        (if record.is content.kind remoteId then { record with content } else record).localId =
          record.localId ∧
        (if record.is content.kind remoteId then { record with content } else record).id =
          record.id := by
    intro record
    split
    next here =>
      simp only [RemoteRecord.is, Bool.and_eq_true, decide_eq_true_eq] at here
      exact ⟨here.1.symm, rfl, rfl⟩
    next => exact ⟨rfl, rfl, rfl⟩
  funext kind localId
  rw [Zoho.copies, Zoho.put, List.filter_map, List.map_map, Zoho.copies]
  simp only [Function.comp_def, kept]

theorem copies_append (zoho : Zoho) (record : RemoteRecord) (kind : Kind) (localId : String) :
    Zoho.copies (zoho ++ [record]) kind localId =
      zoho.copies kind localId ++
        if record.content.kind = kind ∧ record.localId = localId then [record.id] else [] := by
  rw [Zoho.copies, List.filter_append, List.map_append, Zoho.copies]
  congr 1
  by_cases here : record.content.kind = kind ∧ record.localId = localId
  · rw [if_pos here, List.filter_cons_of_pos (by simpa using here)]
    rfl
  · rw [if_neg here, List.filter_cons_of_neg (by simpa using here)]
    rfl

/-! ## Copies and the rows that name them -/

def LinkedAt (world : World) (kind : Kind) (localId : String) : Prop :=
  world.zoho.copies kind localId = [] ∨
    ∃ remoteId, world.rows.link kind localId = some remoteId ∧
      world.zoho.copies kind localId = [remoteId]

def Linked (world : World) : Prop :=
  ∀ kind, kind ≠ .payment → ∀ localId, LinkedAt world kind localId

structure Settled (world : World) : Prop where
  linked : Linked world
  unstored : world.unstored = []

/-- An attempt that leaves ids unstored answers for nothing. -/
def Excused (world : World) : Prop := world.unstored = [] → Linked world

/-- The row has a copy since this attempt, and is still to be told its id. -/
structure Pending (kind : Kind) (localId remoteId : String) (world : World) : Prop where
  unstored : world.unstored = [(kind, localId, remoteId)]
  copies : world.zoho.copies kind localId = [remoteId]
  named : remoteId ≠ ""
  others : ∀ other, other ≠ .payment → ∀ otherId, ¬(other = kind ∧ otherId = localId) →
    LinkedAt world other otherId

def Ready (kind : Kind) (localId remoteId : String) (world : World) : Prop :=
  Pending kind localId remoteId world ∨
    Settled world ∧ world.rows.link kind localId = some remoteId

theorem Settled.excused {world : World} (settled : Settled world) : Excused world :=
  fun _ => settled.linked

theorem Ready.excused {kind : Kind} {localId remoteId : String} {world : World}
    (ready : Ready kind localId remoteId world) : Excused world := by
  rcases ready with pending | ⟨settled, _⟩
  · intro stored
    rw [pending.unstored] at stored
    cases stored
  · exact settled.excused

theorem Settled.done {world : World} (settled : Settled world) : Settled world ∧ Excused world :=
  ⟨settled, settled.excused⟩

theorem Ready.done {kind : Kind} {localId remoteId : String} {world : World}
    (ready : Ready kind localId remoteId world) :
    Ready kind localId remoteId world ∧ Excused world :=
  ⟨ready, ready.excused⟩

structure Same (before after : World) : Prop where
  link : after.rows.link = before.rows.link
  copies : after.zoho.copies = before.zoho.copies
  unstored : after.unstored = before.unstored

section Same

variable {before after : World} (same : Same before after)
include same

theorem Same.linkedAt {kind : Kind} {localId : String} (linked : LinkedAt before kind localId) :
    LinkedAt after kind localId := by
  rw [LinkedAt, same.link, same.copies]
  exact linked

theorem Same.settled (settled : Settled before) : Settled after :=
  ⟨fun kind relevant localId => same.linkedAt (settled.linked kind relevant localId),
    same.unstored.trans settled.unstored⟩

theorem Same.ready {kind : Kind} {localId remoteId : String}
    (ready : Ready kind localId remoteId before) : Ready kind localId remoteId after := by
  rcases ready with ⟨unstored, copies, named, others⟩ | ⟨settled, known⟩
  · refine .inl ⟨same.unstored.trans unstored, ?_, named, fun other relevant otherId apart => ?_⟩
    · rw [same.copies]
      exact copies
    · exact same.linkedAt (others other relevant otherId apart)
  · refine .inr ⟨same.settled settled, ?_⟩
    rw [same.link]
    exact known

end Same

theorem same_put (world : World) (remoteId : String) (content : Content) :
    Same world { world with zoho := world.zoho.put remoteId content } :=
  ⟨rfl, copies_put _ _ _, rfl⟩

theorem same_markUnsynced (world : World) (kind : Kind) (id reason : String) :
    Same world { world with rows := world.rows.markUnsynced id reason kind } :=
  ⟨link_markUnsynced _ _ _ _, rfl, rfl⟩

/-! ## The calls that make a copy and store its id -/

section Calls

variable {books : ZohoBooks PushError} {kind : Kind} {localId remoteId : String}

theorem meets_post (relevant : kind ≠ .payment) {content : Content} (same : content.kind = kind)
    (status : RemoteStatus) :
    Meets (fun world => Settled world ∧ world.rows.link kind localId = none)
      (post books kind localId content status)
      (fun written world => Ready kind localId written.id world) Excused := by
  refine meets_request (fun _ start => start.1.excused) ?_
  rintro world written next ⟨settled, unnamed⟩ answered
  cases answered
  have none_ : world.zoho.copies kind localId = [] := by
    rcases settled.linked kind relevant localId with none_ | ⟨named, known, _⟩
    · exact none_
    · rw [unnamed] at known
      cases known
  refine Ready.done (.inl ⟨?_, ?_, ?_, ?_⟩)
  · simp [relevant, settled.unstored]
  · rw [copies_append, none_]
    simp [same]
  · exact books.newId_ne kind world.zoho
  · intro other wanted otherId apart
    have untouched : ¬(content.kind = other ∧ localId = otherId) := by
      rintro ⟨rfl, rfl⟩
      exact apart ⟨same, rfl⟩
    rcases settled.linked other wanted otherId with none_ | ⟨named, known, one⟩
    · left
      rw [copies_append, none_, if_neg untouched]
      rfl
    · refine .inr ⟨named, known, ?_⟩
      rw [copies_append, one, if_neg untouched]
      rfl

/-- A customer payment is nobody's copy but the payment's. -/
theorem meets_postPayment (payment : AccountingPayment) :
    Meets Settled (post books .payment localId (.payment payment) .draft) (fun _ => Settled)
      Excused := by
  refine meets_request (fun _ => Settled.excused) ?_
  rintro world written next settled answered
  cases answered
  have after : Settled { world with
      zoho := world.zoho ++ [⟨localId, books.newId .payment world.zoho, .payment payment⟩] } := by
    refine ⟨fun other relevant otherId => ?_, settled.unstored⟩
    have untouched : ¬((Content.payment payment).kind = other ∧ localId = otherId) :=
      fun same => relevant same.1.symm
    rcases settled.linked other relevant otherId with none_ | ⟨named, known, one⟩
    · left
      rw [copies_append, none_, if_neg untouched]
      rfl
    · refine .inr ⟨named, known, ?_⟩
      rw [copies_append, one, if_neg untouched]
      rfl
  exact after.done

theorem meets_putContact (customer : AccountingCustomer) :
    Meets (fun world => Settled world ∧ world.rows.link .contact localId = some remoteId)
      (putContact books remoteId customer)
      (fun written world => Ready .contact localId written.id world) Excused := by
  refine meets_request (fun _ start => start.1.excused) ?_
  rintro world written next ⟨settled, known⟩ answered
  split at answered
  · cases answered
    exact ((same_put world remoteId (.contact customer)).ready (.inr ⟨settled, known⟩)).done
  · cases answered

theorem meets_putInvoice (invoice : AccountingInvoice) :
    Meets (fun world => Settled world ∧ world.rows.link .invoice localId = some remoteId)
      (putInvoice books remoteId invoice)
      (fun written world => Ready .invoice localId written.id world) Excused := by
  refine meets_request (fun _ start => start.1.excused) ?_
  rintro world written next ⟨settled, known⟩ answered
  have ready : ∀ status, Ready .invoice localId remoteId
      { world with zoho := world.zoho.put remoteId (.invoice status invoice) } := fun status =>
    (same_put world remoteId (.invoice status invoice)).ready (.inr ⟨settled, known⟩)
  split at answered
  · cases answered
    exact (ready .draft).done
  · cases answered
    exact (ready .sent).done
  · cases answered

theorem meets_markInvoiceSent (id : String) :
    Meets (Ready kind localId remoteId) (markInvoiceSent books id)
      (fun _ => Ready kind localId remoteId) Excused := by
  refine meets_request (fun _ => Ready.excused) fun world _ next ready answered => ?_
  have after : ∀ content, Ready kind localId remoteId
      { world with zoho := world.zoho.put id content } := fun content =>
    (same_put world id content).ready ready
  split at answered
  · cases answered
  · cases answered
    exact (after _).done
  · cases answered

theorem meets_voidInvoice :
    Meets (Ready kind localId remoteId) (voidInvoice books remoteId)
      (fun _ => Ready kind localId remoteId) Excused := by
  refine meets_request (fun _ => Ready.excused) fun world _ next ready answered => ?_
  have after : ∀ content, Ready kind localId remoteId
      { world with zoho := world.zoho.put remoteId content } := fun content =>
    (same_put world remoteId content).ready ready
  split at answered
  · cases answered
    exact (after _).done
  · cases answered

/-- Once the row names its copy, everything is settled again. -/
theorem meets_storeRef (relevant : kind ≠ .payment) (ref : RemoteRef) :
    Meets (Ready kind localId ref.remoteId) (storeRef kind localId ref) (fun _ => Settled)
      Excused := by
  refine Meets.call_ (fun _ => Ready.excused) fun world _ next ready stored => ?_
  split at stored
  case isFalse => cases stored
  case isTrue here =>
    cases stored
    refine Settled.done ?_
    have named : ref.remoteId ≠ "" := by
      rcases ready with pending | ⟨_, known⟩
      · exact pending.named
      · exact ne_of_truthy known
    have told := link_store_self world.rows here named
    constructor
    · intro other wanted otherId
      by_cases same : other = kind ∧ otherId = localId
      · obtain ⟨rfl, rfl⟩ := same
        rcases ready with pending | ⟨settled, known⟩
        · exact .inr ⟨_, told, pending.copies⟩
        · refine (settled.linked other wanted otherId).imp_right ?_
          rintro ⟨remoteId, linked, one⟩
          rw [known] at linked
          cases linked
          exact ⟨_, told, one⟩
      · have before : LinkedAt world other otherId := by
          rcases ready with pending | ⟨settled, _⟩
          · exact pending.others other wanted otherId same
          · exact settled.linked other wanted otherId
        refine before.imp_right ?_
        rintro ⟨remoteId, linked, one⟩
        exact ⟨remoteId, (link_store_other world.rows same ref).trans linked, one⟩
    · rcases ready with pending | ⟨settled, _⟩
      · simp [pending.unstored]
      · simp [settled.unstored]

theorem meets_storePayment (ref : RemoteRef) :
    Meets Settled (storeRef .payment localId ref) (fun _ => Settled) Excused := by
  refine Meets.call_ (fun _ => Settled.excused) fun world _ next settled stored => ?_
  split at stored
  case isFalse => cases stored
  case isTrue =>
    cases stored
    refine Settled.done ?_
    refine ⟨fun other relevant otherId => ?_, by simp [settled.unstored]⟩
    refine (settled.linked other relevant otherId).imp_right ?_
    rintro ⟨remoteId, linked, one⟩
    refine ⟨remoteId, ?_, one⟩
    exact (link_store_other world.rows (fun same => relevant same.1) ref).trans linked

theorem meets_checked {before : World → Prop} (settled : ∀ world, before world → Settled world)
    (reason : Option String) :
    Meets before (checked kind localId reason) (fun _ => before) Excused := by
  cases reason with
  | none => exact Meets.pure_ fun _ => id
  | some reason =>
      refine Meets.bind_ (?_ : Meets before (markUnsynced kind localId reason) (fun _ => Excused)
        Excused) fun _ => Meets.throw_ fun _ => id
      refine Meets.call_ (fun world start => (settled world start).excused) ?_
      intro world _ next start marked
      split at marked
      · cases marked
        have after := (same_markUnsynced world kind localId reason).settled (settled world start)
        exact ⟨after.excused, after.excused⟩
      · cases marked

end Calls

/-! ## Pushes -/

section Pushes

variable (books : ZohoBooks PushError)

theorem contact_ne_payment : Kind.contact ≠ .payment := by decide

theorem invoice_ne_payment : Kind.invoice ≠ .payment := by decide

def Current (kind : Kind) (localId : String) (column : Option String) (world : World) : Prop :=
  Settled world ∧ world.rows.link kind localId = truthy column

theorem Current.settled {kind : Kind} {localId : String} {column : Option String} {world : World}
    (current : Current kind localId column world) : Settled world := current.1

theorem Current.excused {kind : Kind} {localId : String} {column : Option String} {world : World}
    (current : Current kind localId column world) : Excused world := current.1.excused

theorem meets_upsertCustomer (row : CustomerRow) :
    Meets (Current .contact row.id row.zohoContactId) (upsertCustomer books row)
      (fun ref => Ready .contact row.id ref.remoteId) Excused := by
  have write : Meets (Current .contact row.id row.zohoContactId) (writeContact books row)
      (fun written => Ready .contact row.id written.id) Excused := by
    unfold writeContact
    split
    next remoteId known =>
      refine (meets_putContact row.customer).weaken fun world start => ⟨start.1, ?_⟩
      rw [start.2, known]
    next unnamed =>
      refine Meets.weaken (meets_post contact_ne_payment rfl .draft) fun world start =>
        ⟨start.1, ?_⟩
      rw [start.2, unnamed]
  refine Meets.bind_ write fun written => ?_
  refine Meets.bind_ (meets_resolveWriteVersion books _ _ _ fun _ => Ready.excused)
    fun version => ?_
  exact Meets.pure_ fun _ => id

theorem customerWork_settles (customerId : String) :
    Meets Settled (customerWork books customerId) (fun _ => Settled) Excused := by
  have read : Meets Settled (ask fun world => found (world.rows.customer? customerId))
      (fun row => Current .contact row.id row.zohoContactId) Excused := by
    refine (Meets.ask_ fun _ => Settled.excused).mono (fun row world seen => ?_) fun _ => id
    have here := found_eq_ok.mp seen.2
    refine ⟨seen.1, ?_⟩
    rw [customer?_id here, BrandRows.link, BrandRows.remoteId?, here]
    rfl
  refine Meets.bind_ read fun row => ?_
  refine Meets.bind_ (meets_checked (fun _ => Current.settled) _) fun _ => ?_
  refine Meets.bind_ (Meets.touch_ fun _ => Current.excused) fun _ => ?_
  refine Meets.bind_ (meets_upsertCustomer books row) fun ref => ?_
  exact meets_storeRef contact_ne_payment ref

theorem settles_whenOpen (flag : Option (ConnectionRow → Bool)) {work : Push Unit}
    (settles : Meets Settled work (fun _ => Settled) Excused) :
    Meets Settled (whenOpen flag (runJob work)) (fun _ => Settled) Excused := by
  have job := meets_runJob settles (fun _ => Settled.excused) fun _ => Settled.excused
  exact meets_whenOpen (job.weaken fun _ => And.left) (fun _ settled _ => settled)
    fun _ => Settled.excused

theorem pushCustomer_settles (customerId : String) (viaCascade : Bool) :
    Meets Settled (pushCustomer books customerId viaCascade) (fun _ => Settled) Excused :=
  settles_whenOpen _ (customerWork_settles books customerId)

theorem meets_adapterPushInvoice (invoice : AccountingInvoice) :
    Meets (Current .invoice invoice.localId invoice.remoteId)
      (ZohoBooksAdapter.pushInvoice books invoice)
      (fun ref => Ready .invoice invoice.localId ref.remoteId) Excused := by
  unfold ZohoBooksAdapter.pushInvoice
  split
  · unfold voidPushed
    split
    next => exact Meets.throw_ fun _ => Current.excused
    next remoteId known =>
      have voided : Meets (Current .invoice invoice.localId invoice.remoteId)
          (voidInvoice books remoteId) (fun _ => Ready .invoice invoice.localId remoteId)
          Excused := by
        refine meets_voidInvoice.weaken fun world start => .inr ⟨start.1, ?_⟩
        rw [start.2, known]
      refine Meets.bind_ voided fun _ => ?_
      refine Meets.bind_ (meets_resolveWriteVersion books _ _ _ fun _ => Ready.excused)
        fun version => ?_
      exact Meets.pure_ fun _ => id
  · have write : Meets (Current .invoice invoice.localId invoice.remoteId)
        (writeInvoice books invoice) (fun written => Ready .invoice invoice.localId written.id)
        Excused := by
      unfold writeInvoice
      split
      next remoteId known =>
        refine (meets_putInvoice invoice).weaken fun world start => ⟨start.1, ?_⟩
        rw [start.2, known]
      next unnamed =>
        refine Meets.weaken (meets_post invoice_ne_payment rfl .draft) fun world start =>
          ⟨start.1, ?_⟩
        rw [start.2, unnamed]
    have mark : ∀ written : Written, Meets (Ready .invoice invoice.localId written.id)
        (markedVersion books invoice written)
        (fun _ => Ready .invoice invoice.localId written.id) Excused := by
      intro written
      unfold markedVersion
      split
      · exact Meets.bind_ (meets_markInvoiceSent written.id) fun _ => Meets.pure_ fun _ => id
      · exact Meets.pure_ fun _ => id
    refine Meets.bind_ write fun written => Meets.bind_ (mark written) fun lastModified => ?_
    refine Meets.bind_ (meets_resolveWriteVersion books _ _ _ fun _ => Ready.excused)
      fun version => ?_
    exact Meets.pure_ fun _ => id

theorem cascadeCustomer_settles (read : InvoiceRow × CustomerRow) :
    Meets (Current .invoice read.1.invoice.id read.1.invoice.zohoInvoiceId)
      (cascadeCustomer books read)
      (fun _ => Current .invoice read.1.invoice.id read.1.invoice.zohoInvoiceId) Excused := by
  unfold cascadeCustomer
  split
  · have steady : Steady (fun kind _ => kind = .contact) fun world =>
        world.rows.link .invoice read.1.invoice.id = truthy read.1.invoice.zohoInvoiceId := by
      refine ⟨fun _ _ _ same => same, ?_, ?_⟩
      · intro world kind id reason _ same
        rw [link_markUnsynced]
        exact same
      · rintro world kind id ref rfl _ same
        have apart : ¬(Kind.invoice = .contact ∧ read.1.invoice.id = id) := by simp
        exact (link_store_other world.rows apart ref).trans same
    exact ((pushCustomer_settles books _ true).and (steady.keeps_pushCustomer books rfl true)).mono
      (fun _ _ => id) fun _ => And.left
  · exact Meets.pure_ fun _ => id

theorem invoiceWork_settles (invoiceId : String) :
    Meets Settled (invoiceWork books invoiceId) (fun _ => Settled) Excused := by
  have read : Meets Settled (readInvoice invoiceId)
      (fun read => Current .invoice read.1.invoice.id read.1.invoice.zohoInvoiceId) Excused := by
    refine (Meets.ask_ fun _ => Settled.excused).mono (fun read world seen => ?_) fun _ => id
    obtain ⟨row, here, answered⟩ := bind_ok seen.2
    obtain ⟨customer, _, answered⟩ := bind_ok answered
    cases answered
    have here := found_eq_ok.mp here
    refine ⟨seen.1, ?_⟩
    rw [invoice?_id here, BrandRows.link, BrandRows.remoteId?, here]
    rfl
  refine Meets.bind_ read fun read => Meets.bind_ (cascadeCustomer_settles books read) fun _ => ?_
  have spared : ∀ world, Current .invoice read.1.invoice.id read.1.invoice.zohoInvoiceId world →
      Excused world := fun _ => Current.excused
  refine Meets.bind_ ((Meets.ask_ spared).mono (fun _ _ => And.left) fun _ => id) fun customer => ?_
  refine Meets.bind_ ((meets_required spared).mono (fun _ _ => And.left) fun _ => id)
    fun customerRemoteId => ?_
  refine Meets.bind_ (meets_checked (fun _ => Current.settled) _) fun _ => ?_
  refine Meets.bind_ (Meets.touch_ spared) fun _ => ?_
  refine Meets.bind_ (meets_adapterPushInvoice books
    (ZohoSyncService.toAccountingInvoice read.1.store customerRemoteId)) fun ref => ?_
  exact meets_storeRef invoice_ne_payment ref

theorem pushInvoice_settles (invoiceId : String) :
    Meets Settled (pushInvoice books invoiceId) (fun _ => Settled) Excused :=
  settles_whenOpen _ (invoiceWork_settles books invoiceId)

theorem paymentWork_settles (paymentId : String) :
    Meets Settled (paymentWork books paymentId) (fun _ => Settled) Excused := by
  have spared : ∀ world, Settled world → Excused world := fun _ => Settled.excused
  have read : Meets Settled (readPayment paymentId) (fun _ => Settled) Excused :=
    (Meets.ask_ spared).mono (fun _ _ => And.left) fun _ => id
  have cascade : ∀ read, Meets Settled (cascadeInvoice books read) (fun _ => Settled) Excused := by
    intro read
    unfold cascadeInvoice
    split
    · exact pushInvoice_settles books _
    · exact Meets.pure_ fun _ => id
  have again := read
  refine Meets.bind_ read fun read => Meets.bind_ (cascade read) fun _ => ?_
  refine Meets.bind_ again fun refreshed => ?_
  refine Meets.bind_ ((meets_required spared).mono (fun _ _ => And.left) fun _ => id)
    fun invoiceRemoteId => ?_
  refine Meets.bind_ ((meets_required spared).mono (fun _ _ => And.left) fun _ => id)
    fun customerRemoteId => ?_
  refine Meets.bind_ (meets_checked (fun _ => id) _) fun _ => ?_
  refine Meets.bind_ (Meets.touch_ spared) fun _ => ?_
  have posted : ∀ payment, Meets Settled (ZohoBooksAdapter.pushPayment books payment)
      (fun _ => Settled) Excused := fun payment =>
    Meets.bind_ (meets_postPayment payment) fun _ => Meets.pure_ fun _ => id
  exact Meets.bind_ (posted _) fun ref => meets_storePayment ref

theorem work_settles (job : PushJob) :
    Meets Settled (job.work books) (fun _ => Settled) Excused := by
  cases job with
  | pushCustomer customerId => exact pushCustomer_settles books customerId false
  | pushInvoice invoiceId => exact pushInvoice_settles books invoiceId
  | pushPayment paymentId => exact settles_whenOpen _ (paymentWork_settles books paymentId)

end Pushes

/-! ## Attempts one after another -/

/-- What the rest of the application does to a brand between two attempts: anything that leaves
the ids of the copies. -/
structure Edit where
  apply : World → World
  same : ∀ world, Same world (apply world)

inductive Action where
  | attempt (job : PushJob) (fates : List (Fate PushError))
  | edit (change : Edit)

section Attempts

variable (books : ZohoBooks PushError)

def step (world : World) : Action → World
  | .attempt job fates => (job.work books world fates).state
  | .edit change => change.apply world

/-- No id that Zoho has given is left unstored when the attempt has ended. -/
def StoresIds (world : World) (action : Action) : Prop := (step books world action).unstored = []

def OneCopy (world : World) : Prop :=
  ∀ kind, kind ≠ .payment → ∀ localId, (world.zoho.copies kind localId).length ≤ 1

structure HoldsIds (world : World) (invoiceId : String) : Prop where
  pushed : InvoicePushed world.rows invoiceId
  invoice : ∀ remoteId ∈ world.zoho.copies .invoice invoiceId,
    world.rows.link .invoice invoiceId = some remoteId
  contact : ∀ customerId, world.rows.customerIdOf invoiceId = some customerId →
    ∀ remoteId ∈ world.zoho.copies .contact customerId,
      world.rows.link .contact customerId = some remoteId

def SuccessHolds (world : World) (action : Action) : Prop :=
  ∀ invoiceId fates, action = .attempt (.pushInvoice invoiceId) fates →
    world.isOpen (some ConnectionRow.invoiceSyncEnabled) = true →
    ((PushJob.pushInvoice invoiceId).work books world fates).ending = .returned () →
    HoldsIds (step books world action) invoiceId

variable {books}

theorem LinkedAt.named {world : World} {kind : Kind} {localId : String}
    (linked : LinkedAt world kind localId) {remoteId : String}
    (copy : remoteId ∈ world.zoho.copies kind localId) :
    world.rows.link kind localId = some remoteId := by
  rcases linked with none_ | ⟨named, known, one⟩
  · rw [none_] at copy
    cases copy
  · rw [one, List.mem_singleton] at copy
    rw [known, copy]

theorem Settled.oneCopy {world : World} (settled : Settled world) : OneCopy world := by
  intro kind relevant localId
  rcases settled.linked kind relevant localId with none_ | ⟨_, _, one⟩
  · simp [none_]
  · simp [one]

theorem Settled.step {world : World} (settled : Settled world) {action : Action}
    (stores : StoresIds books world action) : Settled (step books world action) := by
  cases action with
  | edit change => exact (change.same world).settled settled
  | attempt job fates =>
      have ended := ((work_settles books job).mono (fun _ _ => Settled.excused) fun _ => id).at_end
        fates settled
      exact ⟨ended stores, stores⟩

theorem Settled.successHolds {world : World} (settled : Settled world) {action : Action}
    (stores : StoresIds books world action) : SuccessHolds books world action := by
  rintro invoiceId fates rfl isOpen returned
  have after := settled.step stores
  have pushed : (PushJob.pushInvoice invoiceId).Pushed _ := pushed_of_returned isOpen returned
  exact ⟨pushed, fun _ => (after.linked .invoice invoice_ne_payment invoiceId).named,
    fun customerId _ _ => (after.linked .contact contact_ne_payment customerId).named⟩

/-- While every attempt stores the ids it is given, no row gets a second copy, and after a push
that returns the rows hold the ids of the copies there are. -/
theorem push_crash_safe_of_stored {world : World} (settled : Settled world) {actions : List Action}
    (stores : Runs.Throughout (step books) (StoresIds books) actions world) :
    Runs.Always (step books) OneCopy actions world ∧
      Runs.Throughout (step books) (SuccessHolds books) actions world := by
  have always : Runs.Always (step books) Settled actions world :=
    Runs.always_of_throughout (fun _ _ settled stores => settled.step stores) settled stores
  refine ⟨always.mono fun _ => Settled.oneCopy, ?_⟩
  exact (always.throughout.and stores).mono fun _ _ both => both.1.successHolds both.2

end Attempts

theorem settled_sampleWorld : Settled (sampleWorld true true) :=
  ⟨fun _ _ _ => .inl rfl, rfl⟩

def sampleActions : List Action :=
  [.attempt (.pushInvoice "invoice") (List.replicate 17 .answered ++ [.cut false]),
    .attempt (.pushInvoice "invoice") []]

theorem push_crash_safe_of_stored_sample :
    Runs.Always (step sampleBooks) OneCopy sampleActions (sampleWorld true true) ∧
      Runs.Throughout (step sampleBooks) (SuccessHolds sampleBooks) sampleActions
        (sampleWorld true true) :=
  push_crash_safe_of_stored settled_sampleWorld
    ⟨by unfold StoresIds; decide +kernel, by unfold StoresIds; decide +kernel, trivial⟩

/-- Zoho creates the invoice and is not reached to mark it as sent; the retry succeeds. -/
def lostActions : List Action :=
  [.attempt (.pushInvoice "invoice") (List.replicate 20 .answered ++
      [.failed false (.integration .transient "Zoho Books: the request timed out")]),
    .attempt (.pushInvoice "invoice") []]

/-- The id of the first copy is lost with the push that created it, and there are two. -/
theorem failed_mark_duplicates :
    Settled (sampleWorld true true) ∧
      ((PushJob.pushInvoice "invoice").work sampleBooks
        (step sampleBooks (sampleWorld true true)
          (.attempt (.pushInvoice "invoice") (List.replicate 20 .answered ++
            [.failed false (.integration .transient "Zoho Books: the request timed out")])))
        []).ending = .returned () ∧
      (lostActions.foldl (step sampleBooks) (sampleWorld true true)).zoho.copies .invoice
          "invoice" = ["zoho-1", "zoho-2"] ∧
      ¬Runs.Always (step sampleBooks) OneCopy lostActions (sampleWorld true true) := by
  have two : (lostActions.foldl (step sampleBooks) (sampleWorld true true)).zoho.copies .invoice
      "invoice" = ["zoho-1", "zoho-2"] := by decide +kernel
  refine ⟨settled_sampleWorld, by decide +kernel, two, fun always => ?_⟩
  have one := always.last .invoice (by decide) "invoice"
  rw [two] at one
  exact absurd one (by decide)

end PushJobs

end MultiBrandInvoicing
