import MultiBrandInvoicing.Integrations.PushedRows

/-!
# What a push that returns has stored

A push that returns, having had its gate open, has stored an id for its row, for the invoice the
row belongs to and for their customer.  One that finds its gate shut does nothing.
-/

set_option autoImplicit false

namespace MultiBrandInvoicing

namespace PushJobs

open Faults Work PushJobs.ZohoBooksAdapter InvoicePushes

def ContactPushed (rows : BrandRows) (customerId : String) : Prop :=
  (rows.link .contact customerId).isSome = true

structure InvoicePushed (rows : BrandRows) (invoiceId : String) : Prop where
  invoice : (rows.link .invoice invoiceId).isSome = true
  customer : ∀ customerId, rows.customerIdOf invoiceId = some customerId →
    ContactPushed rows customerId

structure PaymentPushed (rows : BrandRows) (paymentId : String) : Prop where
  payment : (rows.link .payment paymentId).isSome = true
  invoice : ∀ invoiceId, rows.invoiceIdOf paymentId = some invoiceId →
    InvoicePushed rows invoiceId

section Grown

variable {before after : World} (grown : Grown before after)
include grown

theorem Grown.contactPushed {customerId : String} (pushed : ContactPushed before.rows customerId) :
    ContactPushed after.rows customerId :=
  grown.link .contact customerId pushed

theorem Grown.invoicePushed {invoiceId : String} (pushed : InvoicePushed before.rows invoiceId) :
    InvoicePushed after.rows invoiceId := by
  refine ⟨grown.link .invoice invoiceId pushed.invoice, fun customerId owner => ?_⟩
  rw [grown.customerIdOf] at owner
  exact grown.contactPushed (pushed.customer customerId owner)

theorem Grown.paymentPushed {paymentId : String} (pushed : PaymentPushed before.rows paymentId) :
    PaymentPushed after.rows paymentId := by
  refine ⟨grown.link .payment paymentId pushed.payment, fun invoiceId owner => ?_⟩
  rw [grown.invoiceIdOf] at owner
  exact grown.invoicePushed (pushed.invoice invoiceId owner)

theorem Grown.isOpen (flag : Option (ConnectionRow → Bool)) :
    after.isOpen flag = before.isOpen flag := by
  rw [World.isOpen, grown.hasBrand, grown.connection, World.isOpen]

end Grown

section Stores

variable (books : ZohoBooks PushError)

def Unasked (_ : World) : Prop := True

theorem steady_unasked : Steady Anything Unasked := Steady.of_grown fun _ _ _ => id

theorem storeRef_stores (kind : Kind) (localId : String) {ref : RemoteRef}
    (named : ref.remoteId ≠ "") :
    Meets Unasked (storeRef kind localId ref)
      (fun _ world => (world.rows.link kind localId).isSome = true) Unasked := by
  refine Meets.call_ (fun _ => id) fun world _ next _ stored => ?_
  split at stored
  next here =>
    cases stored
    exact ⟨by simp [link_store_self world.rows here named], trivial⟩
  next => cases stored

theorem Steady.storeRef_stores {holds : World → Prop} (steady : Steady Anything holds)
    (kind : Kind) (localId : String) {ref : RemoteRef} (named : ref.remoteId ≠ "") :
    Meets holds (storeRef kind localId ref)
      (fun _ world => holds world ∧ (world.rows.link kind localId).isSome = true) Unasked :=
  (((steady.keeps_storeRef trivial named).and (PushJobs.storeRef_stores kind localId named)).weaken
    fun _ start => ⟨start, trivial⟩).mono (fun _ _ => id) fun _ _ => trivial

theorem spares {α : Type} {before : World → Prop} {push : Push α} {returns : α → World → Prop}
    (meets : Meets before push returns before) : Meets before push returns Unasked :=
  meets.mono (fun _ _ => id) fun _ _ => trivial

theorem customerWork_stores (customerId : String) :
    Meets Unasked (customerWork books customerId)
      (fun _ world => ContactPushed world.rows customerId) Unasked := by
  refine Meets.bind_ (meets_readCustomer Unasked customerId) fun row => Meets.of_known fun same => ?_
  refine Meets.bind_ (steady_unasked.keeps_checked trivial _) fun _ => ?_
  refine Meets.bind_ Keeps.touch_ fun _ => ?_
  refine Meets.bind_ (steady_unasked.meets_upsertCustomer books row) fun ref => ?_
  rw [← same]
  exact Meets.of_known fun named => storeRef_stores .contact row.id named

/-- The row is read with its customer. -/
theorem meets_readInvoice (invoiceId : String) :
    Meets Unasked (readInvoice invoiceId)
      (fun read world => world.rows.customerIdOf invoiceId = some read.1.customerId ∧
        read.1.invoice.id = invoiceId) Unasked := by
  refine (Meets.ask_ fun _ => id).mono (fun read world seen => ?_) fun _ => id
  obtain ⟨row, here, seen⟩ := bind_ok seen.2
  obtain ⟨customer, _, seen⟩ := bind_ok seen
  cases seen
  have here := found_eq_ok.mp here
  exact ⟨by rw [BrandRows.customerIdOf, here]; rfl, invoice?_id here⟩

def Owned (invoiceId customerId : String) (world : World) : Prop :=
  world.rows.customerIdOf invoiceId = some customerId

theorem steady_owned (invoiceId customerId : String) :
    Steady Anything (Owned invoiceId customerId) :=
  Steady.of_grown fun _ _ grown owned => by
    rw [Owned, grown.customerIdOf]
    exact owned

def Billable (invoiceId customerId : String) (world : World) : Prop :=
  Owned invoiceId customerId world ∧ ContactPushed world.rows customerId

theorem steady_billable (invoiceId customerId : String) :
    Steady Anything (Billable invoiceId customerId) :=
  Steady.of_grown fun _ _ grown billable =>
    ⟨by
      rw [Owned, grown.customerIdOf]
      exact billable.1, grown.contactPushed billable.2⟩

theorem invoiceWork_stores (invoiceId : String) :
    Meets Unasked (invoiceWork books invoiceId)
      (fun _ world => InvoicePushed world.rows invoiceId) Unasked := by
  refine Meets.bind_ (meets_readInvoice invoiceId) fun read => Meets.of_known fun same => ?_
  have cascade : Meets (Owned invoiceId read.1.customerId) (cascadeCustomer books read)
      (fun _ => Owned invoiceId read.1.customerId) Unasked := by
    unfold cascadeCustomer
    split
    · exact spares ((steady_owned ..).keeps_pushCustomer books trivial true)
    · exact Meets.pure_ fun _ => id
  have contact : ∀ customer : CustomerRow, Meets
      (fun world => Owned invoiceId read.1.customerId world ∧
        found (world.rows.customer? read.1.customerId) = .ok customer)
      (required (truthy customer.zohoContactId) "customer push did not yield a Zoho contact id")
      (fun _ => Billable invoiceId read.1.customerId) Unasked := by
    intro customer
    refine (meets_required fun _ _ => trivial).mono ?_ fun _ => id
    rintro remoteId world ⟨⟨owned, here⟩, known⟩
    refine ⟨owned, ?_⟩
    rw [ContactPushed, BrandRows.link, BrandRows.remoteId?, found_eq_ok.mp here, Option.bind_some,
      known]
    rfl
  have billable := steady_billable invoiceId read.1.customerId
  refine Meets.bind_ cascade fun _ => Meets.bind_ (Meets.ask_ fun _ _ => trivial) fun customer => ?_
  refine Meets.bind_ (contact customer) fun customerRemoteId => ?_
  refine Meets.bind_ (spares (billable.keeps_checked trivial _)) fun _ => ?_
  refine Meets.bind_ (spares Keeps.touch_) fun _ => ?_
  refine Meets.bind_ (spares (billable.meets_pushInvoice books _)) fun ref => ?_
  refine Meets.of_known fun named => ?_
  refine (billable.storeRef_stores .invoice read.1.invoice.id named).mono ?_ fun _ => id
  rintro _ world ⟨⟨owned, pushed⟩, linked⟩
  rw [same] at linked
  refine ⟨linked, fun customerId owner => ?_⟩
  rw [owned] at owner
  cases owner
  exact pushed

theorem meets_readPayment (paymentId : String) :
    Meets Unasked (readPayment paymentId)
      (fun read world =>
        (world.rows.invoiceIdOf paymentId = some read.row.invoiceId ∧
          world.rows.customerIdOf read.row.invoiceId = some read.invoice.customerId ∧
          world.rows.link .invoice read.row.invoiceId =
            truthy read.invoice.invoice.zohoInvoiceId ∧
          world.rows.link .contact read.invoice.customerId = truthy read.customer.zohoContactId) ∧
        read.row.payment.id = paymentId) Unasked := by
  refine (Meets.ask_ fun _ => id).mono (fun read world seen => ?_) fun _ => id
  obtain ⟨row, here, seen⟩ := bind_ok seen.2
  obtain ⟨invoice, billed, seen⟩ := bind_ok seen
  obtain ⟨customer, owner, seen⟩ := bind_ok seen
  cases seen
  rw [found_eq_ok] at here billed owner
  refine ⟨⟨?_, ?_, ?_, ?_⟩, payment?_id here⟩
  · rw [BrandRows.invoiceIdOf, here]
    rfl
  · rw [BrandRows.customerIdOf, billed]
    rfl
  · rw [BrandRows.link, BrandRows.remoteId?, billed]
    rfl
  · rw [BrandRows.link, BrandRows.remoteId?, owner]
    rfl

def Payable (paymentId invoiceId : String) (world : World) : Prop :=
  world.rows.invoiceIdOf paymentId = some invoiceId ∧ InvoicePushed world.rows invoiceId

theorem steady_payable (paymentId invoiceId : String) :
    Steady Anything (Payable paymentId invoiceId) :=
  Steady.of_grown fun _ _ grown payable =>
    ⟨by
      rw [grown.invoiceIdOf]
      exact payable.1, grown.invoicePushed payable.2⟩

theorem paymentWork_stores (paymentId : String) :
    Meets Unasked (paymentWork books paymentId)
      (fun _ world => PaymentPushed world.rows paymentId) Unasked := by
  refine Meets.bind_ (Keeps.ask_ _) fun read => ?_
  have cascade : Keeps Unasked (cascadeInvoice books read) := by
    unfold cascadeInvoice
    split
    · exact steady_unasked.keeps_pushInvoice books _
    · exact Keeps.pure_ ()
  refine Meets.bind_ cascade fun _ => ?_
  refine Meets.bind_ (meets_readPayment paymentId) fun read => Meets.of_known fun same => ?_
  refine Meets.bind_ (meets_required fun _ _ => trivial) fun invoiceRemoteId => ?_
  have contact : Meets
      (fun world =>
        (world.rows.invoiceIdOf paymentId = some read.row.invoiceId ∧
          world.rows.customerIdOf read.row.invoiceId = some read.invoice.customerId ∧
          world.rows.link .invoice read.row.invoiceId =
            truthy read.invoice.invoice.zohoInvoiceId ∧
          world.rows.link .contact read.invoice.customerId = truthy read.customer.zohoContactId) ∧
        truthy read.invoice.invoice.zohoInvoiceId = some invoiceRemoteId)
      (required (truthy read.customer.zohoContactId) missingIds)
      (fun _ => Payable paymentId read.row.invoiceId) Unasked := by
    refine (meets_required fun _ _ => trivial).mono ?_ fun _ => id
    rintro customerRemoteId world ⟨⟨⟨payer, owner, linked, contact⟩, invoice⟩, customer⟩
    refine ⟨payer, by simp [linked, invoice], fun customerId other => ?_⟩
    rw [owner] at other
    cases other
    rw [ContactPushed, contact, customer]
    rfl
  have payable := steady_payable paymentId read.row.invoiceId
  refine Meets.bind_ contact fun customerRemoteId => ?_
  refine Meets.bind_ (spares (payable.keeps_checked trivial _)) fun _ => ?_
  refine Meets.bind_ (spares Keeps.touch_) fun _ => ?_
  refine Meets.bind_ (spares (payable.meets_pushPayment books _)) fun ref => ?_
  refine Meets.of_known fun named => ?_
  refine (payable.storeRef_stores .payment read.row.payment.id named).mono ?_ fun _ => id
  rintro _ world ⟨⟨payer, pushed⟩, linked⟩
  rw [same] at linked
  refine ⟨linked, fun invoiceId owner => ?_⟩
  rw [payer] at owner
  cases owner
  exact pushed

end Stores

def PushJob.flag : PushJob → ConnectionRow → Bool
  | pushCustomer _ => ConnectionRow.customerSyncEnabled
  | pushInvoice _ => ConnectionRow.invoiceSyncEnabled
  | pushPayment _ => ConnectionRow.invoiceSyncEnabled

def PushJob.Pushed (rows : BrandRows) : PushJob → Prop
  | pushCustomer customerId => ContactPushed rows customerId
  | pushInvoice invoiceId => InvoicePushed rows invoiceId
  | pushPayment paymentId => PaymentPushed rows paymentId

section Runs

variable {books : ZohoBooks PushError} {job : PushJob} {world : World}
  {fates : List (Fate PushError)}

theorem grown_run : Grown world (job.work books world fates).state :=
  ((Steady.of_grown fun _ _ grown before => Grown.trans before grown).keeps_work books job).at_end
    fates (Grown.refl world)

theorem meets_opened {flag : ConnectionRow → Bool} {work : Push Unit} {pushed : World → Prop}
    (stores : Meets Unasked work (fun _ => pushed) Unasked) :
    Meets (fun world => world.isOpen (some flag) = true) (whenOpen (some flag) (runJob work))
      (fun _ => pushed) Unasked := by
  refine meets_whenOpen ?_ (fun world isOpen shut => ?_) fun _ _ => trivial
  · exact (meets_runJob stores (fun _ => id) fun _ _ => trivial).weaken fun _ _ => trivial
  · rw [isOpen] at shut
    cases shut

/-- A job that returns, for a brand that is open for it, has pushed its row. -/
theorem pushed_of_returned (isOpen : world.isOpen (some job.flag) = true)
    (returned : (job.work books world fates).ending = .returned ()) :
    job.Pushed (job.work books world fates).state.rows := by
  cases job with
  | pushCustomer customerId =>
      exact (meets_opened (customerWork_stores books customerId)).of_returned isOpen returned
  | pushInvoice invoiceId =>
      exact (meets_opened (invoiceWork_stores books invoiceId)).of_returned isOpen returned
  | pushPayment paymentId =>
      exact (meets_opened (paymentWork_stores books paymentId)).of_returned isOpen returned

/-- A job of a brand that is not open for it does nothing, however it ends. -/
theorem unchanged_of_shut (shut : world.isOpen (some job.flag) = false) :
    (job.work books world fates).state = world := by
  have idle : ∀ push : Push Unit,
      Keeps (fun left => left = world) (whenOpen (some job.flag) push) := by
    intro push
    refine Meets.bind_ (meets_gate _ fun _ => id) fun isOpen => ?_
    cases isOpen with
    | false => exact Meets.pure_ fun _ => And.left
    | true =>
        rintro _ _ ⟨rfl, open_⟩
        rw [shut] at open_
        cases open_
  cases job with
  | pushCustomer customerId => exact (idle _).at_end fates rfl
  | pushInvoice invoiceId => exact (idle _).at_end fates rfl
  | pushPayment paymentId => exact (idle _).at_end fates rfl

end Runs

end PushJobs

end MultiBrandInvoicing
