import MultiBrandInvoicing.Integrations.PushJobs

/-!
# What a push does to the rows

A push writes the Zoho columns of the rows it pushes and nothing else of the brand: no foreign key
changes, and what has an id in Zoho keeps one.
-/

set_option autoImplicit false

namespace MultiBrandInvoicing

namespace PushJobs

open Faults Work PushJobs.ZohoBooksAdapter InvoicePushes

def BrandRows.link (rows : BrandRows) (kind : Kind) (id : String) : Option String :=
  truthy (rows.remoteId? kind id)

theorem ne_of_truthy {column : Option String} {id : String} (known : truthy column = some id) :
    id ≠ "" := by
  simpa using (Option.filter_eq_some_iff.mp known).2

def BrandRows.customerIdOf (rows : BrandRows) (invoiceId : String) : Option String :=
  (rows.invoice? invoiceId).map InvoiceRow.customerId

def BrandRows.invoiceIdOf (rows : BrandRows) (paymentId : String) : Option String :=
  (rows.payment? paymentId).map PaymentRow.invoiceId

def World.isOpen (world : World) (flag : Option (ConnectionRow → Bool)) : Bool :=
  world.hasBrand && world.connection.any ConnectionRow.isConnected &&
    flag.all fun enabled => world.connection.all enabled

/-! ## Rows under the two updates -/

section Updates

variable (rows : BrandRows) (id : String)

@[simp] theorem customer?_reviseCustomer (change : CustomerRow → CustomerRow)
    (same : ∀ row, (change row).id = row.id) (other : String) :
    (rows.reviseCustomer id change same).customer? other =
      if other = id then (rows.customer? other).map change else rows.customer? other :=
  find_revise same other

@[simp] theorem invoice?_reviseInvoice (change : InvoiceRow → InvoiceRow)
    (same : ∀ row, (change row).invoice.id = row.invoice.id ∧
      (change row).customerId = row.customerId) (other : String) :
    (rows.reviseInvoice id change same).invoice? other =
      if other = id then (rows.invoice? other).map change else rows.invoice? other :=
  find_revise (fun row => (same row).1) other

@[simp] theorem payment?_revisePayment (change : PaymentRow → PaymentRow)
    (same : ∀ row, (change row).payment.id = row.payment.id ∧
      (change row).invoiceId = row.invoiceId) (other : String) :
    (rows.revisePayment id change same).payment? other =
      if other = id then (rows.payment? other).map change else rows.payment? other :=
  find_revise (fun row => (same row).1) other

@[simp] theorem invoice?_reviseCustomer (change : CustomerRow → CustomerRow)
    (same : ∀ row, (change row).id = row.id) :
    (rows.reviseCustomer id change same).invoice? = rows.invoice? := rfl

@[simp] theorem payment?_reviseCustomer (change : CustomerRow → CustomerRow)
    (same : ∀ row, (change row).id = row.id) :
    (rows.reviseCustomer id change same).payment? = rows.payment? := rfl

@[simp] theorem customer?_reviseInvoice (change : InvoiceRow → InvoiceRow)
    (same : ∀ row, (change row).invoice.id = row.invoice.id ∧
      (change row).customerId = row.customerId) :
    (rows.reviseInvoice id change same).customer? = rows.customer? := rfl

@[simp] theorem payment?_reviseInvoice (change : InvoiceRow → InvoiceRow)
    (same : ∀ row, (change row).invoice.id = row.invoice.id ∧
      (change row).customerId = row.customerId) :
    (rows.reviseInvoice id change same).payment? = rows.payment? := rfl

@[simp] theorem customer?_revisePayment (change : PaymentRow → PaymentRow)
    (same : ∀ row, (change row).payment.id = row.payment.id ∧
      (change row).invoiceId = row.invoiceId) :
    (rows.revisePayment id change same).customer? = rows.customer? := rfl

@[simp] theorem invoice?_revisePayment (change : PaymentRow → PaymentRow)
    (same : ∀ row, (change row).payment.id = row.payment.id ∧
      (change row).invoiceId = row.invoiceId) :
    (rows.revisePayment id change same).invoice? = rows.invoice? := rfl

end Updates

section Columns

theorem bind_map_of_kept {α : Type} {found : Option α} {column : α → Option String}
    {change : α → α} (kept : ∀ row, column (change row) = column row) :
    (found.map change).bind column = found.bind column := by
  cases found with
  | none => rfl
  | some row => exact kept row

theorem bind_map_of_set {α : Type} {found : Option α} {column : α → Option String}
    {change : α → α} {value : String} (set_ : ∀ row, column (change row) = some value) :
    (found.map change).bind column = if found.isSome then some value else none := by
  cases found with
  | none => rfl
  | some row => exact set_ row

variable (rows : BrandRows) (kind other : Kind) (id otherId : String)

theorem remoteId?_markUnsynced (reason : String) :
    (rows.markUnsynced id reason kind).remoteId? other otherId =
      rows.remoteId? other otherId := by
  cases kind <;> cases other <;> simp only [BrandRows.remoteId?, BrandRows.markUnsynced,
    customer?_reviseCustomer, invoice?_reviseInvoice, payment?_revisePayment,
    invoice?_reviseCustomer, payment?_reviseCustomer, customer?_reviseInvoice,
    payment?_reviseInvoice, customer?_revisePayment, invoice?_revisePayment]
  all_goals
    split
    · exact bind_map_of_kept fun _ => rfl
    · rfl

theorem remoteId?_store (ref : RemoteRef) :
    (rows.store id ref kind).remoteId? other otherId =
      if other = kind ∧ otherId = id then
        if rows.hasRow kind id then some ref.remoteId else none
      else rows.remoteId? other otherId := by
  cases kind <;> cases other <;> simp only [BrandRows.remoteId?, BrandRows.store, BrandRows.hasRow,
    customer?_reviseCustomer, invoice?_reviseInvoice, payment?_revisePayment,
    invoice?_reviseCustomer, payment?_reviseCustomer, customer?_reviseInvoice,
    payment?_reviseInvoice, customer?_revisePayment, invoice?_revisePayment, true_and, reduceCtorEq,
    false_and, if_false]
  all_goals
    split
    next same =>
      subst same
      exact bind_map_of_set fun _ => rfl
    next => rfl

theorem map_map_of_kept {α : Type} {found : Option α} {column : α → String} {change : α → α}
    (kept : ∀ row, column (change row) = column row) :
    (found.map change).map column = found.map column := by
  rw [Option.map_map]
  exact congrArg (found.map ·) (funext kept)

theorem customerIdOf_store (ref : RemoteRef) :
    (rows.store id ref kind).customerIdOf = rows.customerIdOf := by
  funext invoiceId
  cases kind <;> simp only [BrandRows.customerIdOf, BrandRows.store, invoice?_reviseInvoice,
    invoice?_reviseCustomer, invoice?_revisePayment]
  split
  · exact map_map_of_kept fun _ => rfl
  · rfl

theorem customerIdOf_markUnsynced (reason : String) :
    (rows.markUnsynced id reason kind).customerIdOf = rows.customerIdOf := by
  funext invoiceId
  cases kind <;> simp only [BrandRows.customerIdOf, BrandRows.markUnsynced,
    invoice?_reviseInvoice, invoice?_reviseCustomer, invoice?_revisePayment]
  split
  · exact map_map_of_kept fun _ => rfl
  · rfl

theorem invoiceIdOf_store (ref : RemoteRef) :
    (rows.store id ref kind).invoiceIdOf = rows.invoiceIdOf := by
  funext paymentId
  cases kind <;> simp only [BrandRows.invoiceIdOf, BrandRows.store, payment?_reviseInvoice,
    payment?_reviseCustomer, payment?_revisePayment]
  split
  · exact map_map_of_kept fun _ => rfl
  · rfl

theorem invoiceIdOf_markUnsynced (reason : String) :
    (rows.markUnsynced id reason kind).invoiceIdOf = rows.invoiceIdOf := by
  funext paymentId
  cases kind <;> simp only [BrandRows.invoiceIdOf, BrandRows.markUnsynced,
    payment?_reviseInvoice, payment?_reviseCustomer, payment?_revisePayment]
  split
  · exact map_map_of_kept fun _ => rfl
  · rfl

end Columns

theorem link_markUnsynced (rows : BrandRows) (kind : Kind) (id reason : String) :
    (rows.markUnsynced id reason kind).link = rows.link := by
  funext other otherId
  rw [BrandRows.link, remoteId?_markUnsynced, BrandRows.link]

theorem link_store_other (rows : BrandRows) {kind other : Kind} {id otherId : String}
    (apart : ¬(other = kind ∧ otherId = id)) (ref : RemoteRef) :
    (rows.store id ref kind).link other otherId = rows.link other otherId := by
  rw [BrandRows.link, remoteId?_store, if_neg apart, BrandRows.link]

theorem link_store_self (rows : BrandRows) {kind : Kind} {id : String}
    (here : rows.hasRow kind id = true) {ref : RemoteRef} (named : ref.remoteId ≠ "") :
    (rows.store id ref kind).link kind id = some ref.remoteId := by
  rw [BrandRows.link, remoteId?_store, if_pos ⟨rfl, rfl⟩, if_pos here]
  simp [truthy, named]

/-! ## What stays -/

/-- A fact about the brand that pushing rows among those `touched` leaves. -/
structure Steady (touched : Kind → String → Prop) (holds : World → Prop) : Prop where
  remote : ∀ world zoho unstored, holds world → holds { world with zoho, unstored }
  marked : ∀ world kind id reason, touched kind id → holds world →
    holds { world with rows := world.rows.markUnsynced id reason kind }
  stored : ∀ world kind id ref, touched kind id → ref.remoteId ≠ "" → holds world →
    holds { world with rows := world.rows.store id ref kind }

/-! ## The frame of a push -/

section Rules

variable {before after fails : World → Prop} {push : Push Unit}

theorem meets_recordFailure {α : Type} {returns : α → World → Prop}
    (spared : ∀ world, before world → fails world) (error : PushError) :
    Meets before (recordFailure error : Push α) returns fails := by
  have quiet : Meets before (guarded touch : Push Unit) (fun _ => before) fails :=
    Meets.guarded_ (Meets.touch_ fun _ => id) spared
  refine Meets.bind_ quiet fun _ => Meets.bind_ ?_ fun _ => Meets.throw_ spared
  unfold recordUnhealthy
  split
  · exact quiet
  · exact Meets.pure_ fun _ => id

theorem meets_runJob (meets : Meets before push (fun _ => after) fails)
    (started : ∀ world, before world → fails world) (done : ∀ world, after world → fails world) :
    Meets before (runJob push) (fun _ => after) fails := by
  have quiet : Meets after (guarded touch : Push Unit) (fun _ => after) fails :=
    Meets.guarded_ (Meets.touch_ fun _ => id) done
  refine Meets.bind_ (Meets.touch_ started) fun _ => Meets.attempt_ ?_ ?_ fun _ => id
  · exact Meets.bind_ meets fun _ => Meets.bind_ quiet fun _ => quiet
  · exact fun error => meets_recordFailure (fun _ => id) error

theorem meets_resolveConnection (spared : ∀ world, before world → fails world) :
    Meets before resolveConnection (fun connected world =>
      before world ∧ connected = world.connection.any ConnectionRow.isConnected) fails := by
  refine Meets.attempt_ ?_ (fun error => ?_) spared
  · exact (Meets.ask_ fun _ => id).mono
      (fun _ _ seen => ⟨seen.1, (Except.ok.inj seen.2).symm⟩) fun _ => id
  · exact Meets.bind_ (Meets.touch_ spared) fun _ => meets_recordFailure spared error

theorem meets_connected (spared : ∀ world, before world → fails world) :
    Meets before connected (fun connects world => before world ∧
      connects = (world.hasBrand && world.connection.any ConnectionRow.isConnected)) fails := by
  refine Meets.bind_ (Meets.ask_ spared) fun scope => ?_
  cases scope with
  | false => exact Meets.pure_ fun world seen => ⟨seen.1, by simp [Except.ok.inj seen.2]⟩
  | true =>
      refine (meets_resolveConnection fun world seen => spared world seen.1).mono ?_ fun _ => id
      rintro connects world ⟨⟨start, scope⟩, rfl⟩
      exact ⟨start, by simp [Except.ok.inj scope]⟩

theorem meets_gate (flag : Option (ConnectionRow → Bool))
    (spared : ∀ world, before world → fails world) :
    Meets before (gate flag) (fun isOpen world => before world ∧ isOpen = world.isOpen flag)
      fails := by
  refine Meets.bind_ (meets_connected spared) fun connects => ?_
  cases connects with
  | false =>
      refine Meets.pure_ fun world seen => ⟨seen.1, ?_⟩
      rw [World.isOpen, ← seen.2, Bool.false_and]
  | true =>
      cases flag with
      | none =>
          refine Meets.pure_ fun world seen => ⟨seen.1, ?_⟩
          rw [World.isOpen, ← seen.2]
          rfl
      | some enabled =>
          refine Meets.bind_ (Meets.ask_ fun world seen => spared world seen.1) fun flags => ?_
          refine Meets.pure_ ?_
          rintro world ⟨⟨start, connects⟩, flags⟩
          refine ⟨start, ?_⟩
          rw [World.isOpen, ← connects, Except.ok.inj flags]
          rfl

theorem meets_whenOpen {flag : Option (ConnectionRow → Bool)}
    (meets : Meets (fun world => before world ∧ world.isOpen flag = true) push
      (fun _ => after) fails)
    (shut : ∀ world, before world → world.isOpen flag = false → after world)
    (spared : ∀ world, before world → fails world) :
    Meets before (whenOpen flag push) (fun _ => after) fails := by
  refine Meets.bind_ (meets_gate flag spared) fun isOpen => ?_
  cases isOpen with
  | false => exact Meets.pure_ fun world seen => shut world seen.1 seen.2.symm
  | true => exact meets.weaken fun world seen => ⟨seen.1, seen.2.symm⟩

theorem keeps_runJob (keeps : Keeps before push) : Keeps before (runJob push) :=
  meets_runJob keeps (fun _ => id) fun _ => id

theorem keeps_whenOpen (flag : Option (ConnectionRow → Bool)) (keeps : Keeps before push) :
    Keeps before (whenOpen flag push) :=
  meets_whenOpen (keeps.weaken fun _ start => start.1) (fun _ start _ => start) fun _ => id

theorem meets_request {α : Type} {act : World → Except PushError (α × World)}
    {returns : α → World → Prop} (spared : ∀ world, before world → fails world)
    (performed : ∀ world value next, before world → act world = .ok (value, next) →
      returns value next ∧ fails next) : Meets before (request act) returns fails :=
  Meets.bind_ (Meets.touch_ spared) fun _ => Meets.call_ spared performed

/-- The version is looked up without any effect, and a failure to do so is none of the push. -/
theorem meets_resolveWriteVersion (books : ZohoBooks PushError) (written : Option Time)
    (kind : Kind) (remoteId : String) (spared : ∀ world, before world → fails world) :
    Meets before (resolveWriteVersion written (getVersion books kind remoteId)) (fun _ => before)
      fails := by
  cases written with
  | some version => exact Meets.pure_ fun _ => id
  | none =>
      refine Meets.attempt_ ?_ (fun _ => Meets.pure_ fun _ => id) spared
      refine meets_request (fun _ => id) fun world value next start answered => ?_
      split at answered
      · cases answered
        exact ⟨start, start⟩
      · cases answered

theorem meets_required {α : Type} {value : Option α} {message : String}
    (spared : ∀ world, before world → fails world) :
    Meets before (required value message)
      (fun given world => before world ∧ value = some given) fails := by
  cases value with
  | none => exact Meets.throw_ spared
  | some given => exact Meets.pure_ fun _ start => ⟨start, rfl⟩

end Rules

namespace Steady

variable {touched : Kind → String → Prop} {holds : World → Prop}

theorem keeps_checked (steady : Steady touched holds) {kind : Kind} {id : String}
    (inside : touched kind id) (reason : Option String) : Keeps holds (checked kind id reason) := by
  cases reason with
  | none => exact Keeps.pure_ ()
  | some reason =>
      refine Keeps.bind_ (Keeps.call_ fun world _ next start marked => ?_) fun _ => Keeps.throw_ _
      split at marked
      · cases marked
        exact steady.marked world kind id reason inside start
      · cases marked

theorem keeps_storeRef (steady : Steady touched holds) {kind : Kind} {id : String}
    (inside : touched kind id) {ref : RemoteRef} (named : ref.remoteId ≠ "") :
    Keeps holds (storeRef kind id ref) := by
  refine Keeps.call_ fun world _ next start stored => ?_
  split at stored
  · cases stored
    exact steady.remote _ world.zoho _ (steady.stored world kind id ref inside named start)
  · cases stored

theorem meets_request (steady : Steady touched holds) {α : Type}
    {act : World → Except PushError (α × World)} {answers : α → Prop}
    (remote : ∀ world value next, act world = .ok (value, next) →
      answers value ∧ ∃ zoho unstored, next = { world with zoho, unstored }) :
    Meets holds (request act) (fun value world => holds world ∧ answers value) holds := by
  refine PushJobs.meets_request (fun _ => id) fun world value next start answered => ?_
  obtain ⟨named, zoho, unstored, rfl⟩ := remote world value next answered
  have kept := steady.remote world zoho unstored start
  exact ⟨⟨kept, named⟩, kept⟩

theorem keeps_request (steady : Steady touched holds) {α : Type}
    {act : World → Except PushError (α × World)}
    (remote : ∀ world value next, act world = .ok (value, next) →
      ∃ zoho unstored, next = { world with zoho, unstored }) : Keeps holds (request act) := by
  refine PushJobs.meets_request (fun _ => id) fun world value next start answered => ?_
  obtain ⟨zoho, unstored, rfl⟩ := remote world value next answered
  have kept := steady.remote world zoho unstored start
  exact ⟨kept, kept⟩

section Adapter

variable (steady : Steady touched holds) (books : ZohoBooks PushError)
include steady

theorem meets_post (kind : Kind) (localId : String) (content : Content) (status : RemoteStatus) :
    Meets holds (post books kind localId content status)
      (fun written world => holds world ∧ written.id ≠ "") holds := by
  refine steady.meets_request fun world written next answered => ?_
  cases answered
  exact ⟨books.newId_ne kind world.zoho, _, _, rfl⟩

theorem meets_putContact {remoteId : String} (named : remoteId ≠ "")
    (customer : AccountingCustomer) :
    Meets holds (putContact books remoteId customer)
      (fun written world => holds world ∧ written.id ≠ "") holds := by
  refine steady.meets_request fun world written next answered => ?_
  split at answered
  · cases answered
    exact ⟨named, _, _, rfl⟩
  · cases answered

theorem meets_putInvoice {remoteId : String} (named : remoteId ≠ "")
    (invoice : AccountingInvoice) :
    Meets holds (putInvoice books remoteId invoice)
      (fun written world => holds world ∧ written.id ≠ "") holds := by
  refine steady.meets_request fun world written next answered => ?_
  split at answered
  · cases answered
    exact ⟨named, _, _, rfl⟩
  · cases answered
    exact ⟨named, _, _, rfl⟩
  · cases answered

theorem keeps_markInvoiceSent (remoteId : String) :
    Keeps holds (markInvoiceSent books remoteId) := by
  refine steady.keeps_request fun world _ next answered => ?_
  split at answered
  · cases answered
  · cases answered
    exact ⟨_, _, rfl⟩
  · cases answered

theorem keeps_voidInvoice (remoteId : String) : Keeps holds (voidInvoice books remoteId) := by
  refine steady.keeps_request fun world _ next answered => ?_
  split at answered
  · cases answered
    exact ⟨_, _, rfl⟩
  · cases answered

theorem meets_writeContact (row : CustomerRow) :
    Meets holds (writeContact books row) (fun written world => holds world ∧ written.id ≠ "")
      holds := by
  unfold writeContact
  split
  next remoteId known => exact steady.meets_putContact books (ne_of_truthy known) row.customer
  next => exact steady.meets_post books .contact row.id (.contact row.customer) .draft

theorem meets_upsertCustomer (row : CustomerRow) :
    Meets holds (upsertCustomer books row) (fun ref world => holds world ∧ ref.remoteId ≠ "")
      holds := by
  refine Meets.bind_ (steady.meets_writeContact books row) fun written => ?_
  refine Meets.bind_ (meets_resolveWriteVersion books _ _ _ fun _ => And.left) fun version => ?_
  exact Meets.pure_ fun _ => id

theorem meets_writeInvoice (invoice : AccountingInvoice) :
    Meets holds (writeInvoice books invoice) (fun written world => holds world ∧ written.id ≠ "")
      holds := by
  unfold writeInvoice
  split
  next remoteId known => exact steady.meets_putInvoice books (ne_of_truthy known) invoice
  next => exact steady.meets_post books .invoice invoice.localId (.invoice .draft invoice) .draft

theorem keeps_markedVersion (invoice : AccountingInvoice) (written : Written) :
    Keeps holds (markedVersion books invoice written) := by
  unfold markedVersion
  split
  · exact Keeps.bind_ (steady.keeps_markInvoiceSent books written.id) fun _ => Keeps.pure_ none
  · exact Keeps.pure_ written.version

theorem meets_pushInvoice (invoice : AccountingInvoice) :
    Meets holds (ZohoBooksAdapter.pushInvoice books invoice)
      (fun ref world => holds world ∧ ref.remoteId ≠ "") holds := by
  unfold ZohoBooksAdapter.pushInvoice
  split
  · unfold voidPushed
    split
    next => exact Meets.throw_ fun _ => id
    next remoteId known =>
      refine Meets.bind_ (steady.keeps_voidInvoice books remoteId) fun _ => ?_
      refine Meets.bind_ (meets_resolveWriteVersion books _ _ _ fun _ => id) fun version => ?_
      exact Meets.pure_ fun _ start => ⟨start, ne_of_truthy known⟩
  · refine Meets.bind_ (steady.meets_writeInvoice books invoice) fun written => ?_
    refine Meets.of_known fun named => ?_
    refine Meets.bind_ (steady.keeps_markedVersion books invoice written) fun lastModified => ?_
    refine Meets.bind_ (meets_resolveWriteVersion books _ _ _ fun _ => id) fun version => ?_
    exact Meets.pure_ fun _ start => ⟨start, named⟩

theorem meets_pushPayment (payment : AccountingPayment) :
    Meets holds (ZohoBooksAdapter.pushPayment books payment)
      (fun ref world => holds world ∧ ref.remoteId ≠ "") holds :=
  Meets.bind_ (steady.meets_post books .payment payment.localId (.payment payment) .draft)
    fun _ => Meets.pure_ fun _ => id

end Adapter

end Steady

/-! ## What pushes add -/

structure Grown (before after : World) : Prop where
  hasBrand : after.hasBrand = before.hasBrand
  connection : after.connection = before.connection
  customerIdOf : after.rows.customerIdOf = before.rows.customerIdOf
  invoiceIdOf : after.rows.invoiceIdOf = before.rows.invoiceIdOf
  link : ∀ kind id, (before.rows.link kind id).isSome = true →
    (after.rows.link kind id).isSome = true

theorem Grown.refl (world : World) : Grown world world := ⟨rfl, rfl, rfl, rfl, fun _ _ => id⟩

theorem Grown.trans {first second third : World} (before : Grown first second)
    (after : Grown second third) : Grown first third :=
  ⟨after.hasBrand.trans before.hasBrand, after.connection.trans before.connection,
    after.customerIdOf.trans before.customerIdOf, after.invoiceIdOf.trans before.invoiceIdOf,
    fun kind id known => after.link kind id (before.link kind id known)⟩

theorem hasRow_of_link {rows : BrandRows} {kind : Kind} {id : String}
    (known : (rows.link kind id).isSome = true) : rows.hasRow kind id = true := by
  obtain ⟨remoteId, known⟩ := Option.isSome_iff_exists.mp known
  have column := (Option.filter_eq_some_iff.mp known).1
  cases kind
  all_goals
    obtain ⟨row, found, _⟩ := Option.bind_eq_some_iff.mp column
    rw [BrandRows.hasRow, found]
    rfl

theorem grown_store (world : World) (kind : Kind) (id : String) {ref : RemoteRef}
    (named : ref.remoteId ≠ "") :
    Grown world { world with rows := world.rows.store id ref kind } := by
  refine ⟨rfl, rfl, customerIdOf_store .., invoiceIdOf_store .., fun other otherId known => ?_⟩
  by_cases same : other = kind ∧ otherId = id
  · obtain ⟨rfl, rfl⟩ := same
    simp [link_store_self world.rows (hasRow_of_link known) named]
  · rw [link_store_other world.rows same]
    exact known

theorem grown_markUnsynced (world : World) (kind : Kind) (id reason : String) :
    Grown world { world with rows := world.rows.markUnsynced id reason kind } := by
  refine ⟨rfl, rfl, customerIdOf_markUnsynced .., invoiceIdOf_markUnsynced .., fun _ _ known => ?_⟩
  rw [link_markUnsynced]
  exact known

/-- Any row may be pushed. -/
def Anything (_ : Kind) (_ : String) : Prop := True

theorem Steady.of_grown {holds : World → Prop}
    (kept : ∀ before after, Grown before after → holds before → holds after) :
    Steady Anything holds where
  remote world _ _ start := kept world _ ⟨rfl, rfl, rfl, rfl, fun _ _ => id⟩ start
  marked world kind id reason _ start :=
    kept world _ (grown_markUnsynced world kind id reason) start
  stored world kind id _ _ named start := kept world _ (grown_store world kind id named) start

theorem found_eq_ok {α : Type} {row? : Option α} {row : α} :
    found row? = .ok row ↔ row? = some row := by
  cases row? <;> simp [found]

theorem customer?_id {rows : BrandRows} {id : String} {row : CustomerRow}
    (here : rows.customer? id = some row) : row.id = id :=
  (mem_of_find here).2

theorem invoice?_id {rows : BrandRows} {id : String} {row : InvoiceRow}
    (here : rows.invoice? id = some row) : row.invoice.id = id :=
  (mem_of_find here).2

theorem payment?_id {rows : BrandRows} {id : String} {row : PaymentRow}
    (here : rows.payment? id = some row) : row.payment.id = id :=
  (mem_of_find here).2

section Jobs

variable (books : ZohoBooks PushError)

/-- The row that is read is the one that was asked for. -/
theorem meets_readCustomer (holds : World → Prop) (customerId : String) :
    Meets holds (ask fun world => found (world.rows.customer? customerId))
      (fun row world => holds world ∧ row.id = customerId) holds :=
  (Meets.ask_ fun _ => id).mono
    (fun _ _ seen => ⟨seen.1, customer?_id (found_eq_ok.mp seen.2)⟩) fun _ => id

theorem Steady.keeps_pushCustomer {touched : Kind → String → Prop} {holds : World → Prop}
    (steady : Steady touched holds) {customerId : String} (inside : touched .contact customerId)
    (viaCascade : Bool) : Keeps holds (pushCustomer books customerId viaCascade) := by
  refine keeps_whenOpen _ (keeps_runJob ?_)
  refine Meets.bind_ (meets_readCustomer holds customerId) fun row => Meets.of_known fun same => ?_
  rw [← same] at inside
  refine Meets.bind_ (steady.keeps_checked inside _) fun _ => ?_
  refine Meets.bind_ Keeps.touch_ fun _ => ?_
  refine Meets.bind_ (steady.meets_upsertCustomer books row) fun ref => ?_
  exact Meets.of_known fun named => steady.keeps_storeRef inside named

variable {holds : World → Prop}

theorem Steady.keeps_pushInvoice (steady : Steady Anything holds) (invoiceId : String) :
    Keeps holds (pushInvoice books invoiceId) := by
  refine keeps_whenOpen _ (keeps_runJob ?_)
  refine Keeps.bind_ (Keeps.ask_ _) fun read => Keeps.bind_ ?_ fun _ => ?_
  · unfold cascadeCustomer
    split
    · exact steady.keeps_pushCustomer books trivial true
    · exact Keeps.pure_ ()
  · refine Keeps.bind_ (Keeps.ask_ _) fun customer => ?_
    refine Meets.bind_ ((meets_required fun _ => id).mono (fun _ _ => And.left) fun _ => id)
      fun customerRemoteId => ?_
    refine Meets.bind_ (steady.keeps_checked trivial _) fun _ => ?_
    refine Meets.bind_ Keeps.touch_ fun _ => ?_
    refine Meets.bind_ (steady.meets_pushInvoice books _) fun ref => ?_
    exact Meets.of_known fun named => steady.keeps_storeRef trivial named

theorem Steady.keeps_pushPayment (steady : Steady Anything holds) (paymentId : String) :
    Keeps holds (pushPayment books paymentId) := by
  refine keeps_whenOpen _ (keeps_runJob ?_)
  refine Keeps.bind_ (Keeps.ask_ _) fun read => Keeps.bind_ ?_ fun _ => ?_
  · unfold cascadeInvoice
    split
    · exact steady.keeps_pushInvoice books _
    · exact Keeps.pure_ ()
  · refine Keeps.bind_ (Keeps.ask_ _) fun refreshed => ?_
    refine Meets.bind_ ((meets_required fun _ => id).mono (fun _ _ => And.left) fun _ => id)
      fun invoiceRemoteId => ?_
    refine Meets.bind_ ((meets_required fun _ => id).mono (fun _ _ => And.left) fun _ => id)
      fun customerRemoteId => ?_
    refine Meets.bind_ (steady.keeps_checked trivial _) fun _ => ?_
    refine Meets.bind_ Keeps.touch_ fun _ => ?_
    refine Meets.bind_ (steady.meets_pushPayment books _) fun ref => ?_
    exact Meets.of_known fun named => steady.keeps_storeRef trivial named

theorem Steady.keeps_work (steady : Steady Anything holds) (job : PushJob) :
    Keeps holds (job.work books) := by
  cases job with
  | pushCustomer customerId => exact steady.keeps_pushCustomer books trivial false
  | pushInvoice invoiceId => exact steady.keeps_pushInvoice books invoiceId
  | pushPayment paymentId => exact steady.keeps_pushPayment books paymentId

end Jobs

end PushJobs

end MultiBrandInvoicing
