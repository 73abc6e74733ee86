import MultiBrandInvoicing.Integrations.StoredPushes
import MultiBrandInvoicing.Mirroring.PaymentPushes

/-!
# The backfill of a brand

`computeBackfillTargets` and `enqueueBackfill` in `zoho-sync.service.ts`, and what has been pushed
once the jobs they queue have succeeded.  A customer that an invoice or a payment is counted on to
push gets no job of its own; with invoice sync off nobody pushes it.
-/

set_option autoImplicit false

namespace MultiBrandInvoicing

namespace PushJobs

open Faults Work

structure BackfillPayment where
  id : String
  invoiceId : String
  customerId : String
  deriving DecidableEq, Repr

structure BackfillInvoice where
  id : String
  customerId : String
  deriving DecidableEq, Repr

structure BackfillCustomer where
  id : String
  deriving DecidableEq, Repr

structure BackfillTargets where
  customersToEnqueue : List BackfillCustomer
  invoicesToEnqueue : List BackfillInvoice
  payments : List BackfillPayment
  deriving DecidableEq, Repr

def computeBackfillTargets (payments : List BackfillPayment) (invoices : List BackfillInvoice)
    (customers : List BackfillCustomer) : BackfillTargets :=
  let invoiceIdsCoveredByPayments := payments.map BackfillPayment.invoiceId
  let invoicesToEnqueue :=
    invoices.filter fun invoice => !invoiceIdsCoveredByPayments.contains invoice.id
  let customerIdsCovered := payments.map BackfillPayment.customerId ++
    invoicesToEnqueue.map BackfillInvoice.customerId
  { customersToEnqueue :=
      customers.filter fun customer => !customerIdsCovered.contains customer.id
    invoicesToEnqueue
    payments }

structure BackfillCounts where
  customers : Nat
  invoices : Nat
  payments : Nat
  deriving DecidableEq, Repr

namespace BrandRows

variable (rows : BrandRows)

def selectPayment (row : PaymentRow) : Option BackfillPayment :=
  if row.zohoPaymentId.isNone &&
      PaymentPushes.settledPaymentStatuses.contains row.payment.status then
    (rows.customerIdOf row.invoiceId).map fun customerId =>
      ⟨row.payment.id, row.invoiceId, customerId⟩
  else none

def unsyncedPayments (skipPayments : Bool) : List BackfillPayment :=
  if skipPayments then [] else rows.payments.filterMap rows.selectPayment

def unsyncedInvoices : List BackfillInvoice :=
  (rows.invoices.filter fun row =>
    row.invoice.zohoInvoiceId.isNone && row.invoice.status ≠ .draft).map fun row =>
      ⟨row.invoice.id, row.customerId⟩

def unsyncedCustomers : List BackfillCustomer :=
  (rows.customers.filter fun row => row.zohoContactId.isNone).map fun row => ⟨row.id⟩

def backfillTargets (skipPayments : Bool) : BackfillTargets :=
  computeBackfillTargets (rows.unsyncedPayments skipPayments) rows.unsyncedInvoices
    rows.unsyncedCustomers

end BrandRows

def BackfillTargets.jobs (targets : BackfillTargets) : List PushJob :=
  targets.customersToEnqueue.map (fun customer => .pushCustomer customer.id) ++
    targets.invoicesToEnqueue.map (fun invoice => .pushInvoice invoice.id) ++
    targets.payments.map fun payment => .pushPayment payment.id

def enqueueBackfill (world : World) (skipPayments : Bool) :
    Except ServiceError (List PushJob × BackfillCounts) :=
  if !world.hasBrand then .error (.conflict "unknown brand")
  else if !world.connection.any ConnectionRow.isConnected then
    .error (.conflict "brand is not connected to Zoho")
  else
    let targets := world.rows.backfillTargets skipPayments
    .ok (targets.jobs,
      { customers := targets.customersToEnqueue.length
        invoices := targets.invoicesToEnqueue.length
        payments := targets.payments.length })

/-! ## Runs of the queue -/

structure Attempt where
  job : PushJob
  fates : List (Fate PushError)

section Runs

variable (books : ZohoBooks PushError)

def Attempt.run (attempt : Attempt) (world : World) : Ran World PushError Unit :=
  attempt.job.work books world attempt.fates

def attempted (world : World) (attempt : Attempt) : World := (attempt.run books world).state

def Succeeds (job : PushJob) : List Attempt → World → Prop
  | [], _ => False
  | attempt :: later, world =>
      (attempt.job = job ∧ (attempt.run books world).ending = .returned ()) ∨
        Succeeds job later (attempted books world attempt)

variable {books}

theorem grown_attempts (attempts : List Attempt) (world : World) :
    Grown world (attempts.foldl (attempted books) world) := by
  induction attempts generalizing world with
  | nil => exact Grown.refl world
  | cons attempt later ih => exact Grown.trans grown_run (ih _)

theorem Grown.pushed {before after : World} (grown : Grown before after) {job : PushJob}
    (pushed : job.Pushed before.rows) : job.Pushed after.rows := by
  cases job with
  | pushCustomer customerId => exact grown.contactPushed pushed
  | pushInvoice invoiceId => exact grown.invoicePushed pushed
  | pushPayment paymentId => exact grown.paymentPushed pushed

theorem pushed_of_succeeds {job : PushJob} {attempts : List Attempt} {world : World}
    (isOpen : world.isOpen (some job.flag) = true) (succeeds : Succeeds books job attempts world) :
    job.Pushed (attempts.foldl (attempted books) world).rows := by
  induction attempts generalizing world with
  | nil => exact succeeds.elim
  | cons attempt later ih =>
      rcases succeeds with ⟨rfl, returned⟩ | succeeds
      · exact (grown_attempts later _).pushed (pushed_of_returned isOpen returned)
      · refine ih ?_ succeeds
        rw [attempted, Attempt.run, grown_run.isOpen]
        exact isOpen

end Runs

/-! ## What is selected -/

section Selections

variable {rows : BrandRows}

theorem customerIdOf_mem {row : InvoiceRow} (member : row ∈ rows.invoices) :
    rows.customerIdOf row.invoice.id = some row.customerId := by
  have here : rows.invoice? row.invoice.id = some row := find_eq_some rows.invoiceKeys member
  rw [BrandRows.customerIdOf, here]
  rfl

theorem invoiceIdOf_mem {row : PaymentRow} (member : row ∈ rows.payments) :
    rows.invoiceIdOf row.payment.id = some row.invoiceId := by
  have here : rows.payment? row.payment.id = some row := find_eq_some rows.paymentKeys member
  rw [BrandRows.invoiceIdOf, here]
  rfl

theorem customerIdOf_payment {row : PaymentRow} (member : row ∈ rows.payments) :
    ∃ customerId, rows.customerIdOf row.invoiceId = some customerId := by
  obtain ⟨invoice, listed, same⟩ :=
    List.mem_map.mp (rows.invoiceOf row.invoiceId (List.mem_map_of_mem member))
  exact ⟨invoice.customerId, same ▸ customerIdOf_mem listed⟩

theorem mem_unsyncedInvoices {row : InvoiceRow} (member : row ∈ rows.invoices)
    (unsynced : row.invoice.zohoInvoiceId = none) (issued : row.invoice.status ≠ .draft) :
    ⟨row.invoice.id, row.customerId⟩ ∈ rows.unsyncedInvoices :=
  List.mem_map.mpr ⟨row, List.mem_filter.mpr ⟨member, by simp [unsynced, issued]⟩, rfl⟩

theorem customerIdOf_unsynced {invoice : BackfillInvoice}
    (member : invoice ∈ rows.unsyncedInvoices) :
    rows.customerIdOf invoice.id = some invoice.customerId := by
  obtain ⟨row, listed, rfl⟩ := List.mem_map.mp member
  exact customerIdOf_mem (List.mem_filter.mp listed).1

theorem mem_unsyncedPayments {row : PaymentRow} (member : row ∈ rows.payments)
    (unsynced : row.zohoPaymentId = none)
    (settled : row.payment.status ∈ PaymentPushes.settledPaymentStatuses) :
    ∃ payment ∈ rows.unsyncedPayments false, payment.id = row.payment.id := by
  obtain ⟨customerId, owner⟩ := customerIdOf_payment member
  refine ⟨⟨row.payment.id, row.invoiceId, customerId⟩, ?_, rfl⟩
  refine List.mem_filterMap.mpr ⟨row, member, ?_⟩
  simp [BrandRows.selectPayment, unsynced, settled, owner]

/-- A selected payment is selected with its invoice and their customer. -/
theorem owners_of_unsynced {skipPayments : Bool} {payment : BackfillPayment}
    (member : payment ∈ rows.unsyncedPayments skipPayments) :
    rows.invoiceIdOf payment.id = some payment.invoiceId ∧
      rows.customerIdOf payment.invoiceId = some payment.customerId := by
  unfold BrandRows.unsyncedPayments at member
  split at member
  · cases member
  · obtain ⟨row, listed, selected⟩ := List.mem_filterMap.mp member
    unfold BrandRows.selectPayment at selected
    split at selected
    · obtain ⟨customerId, owner, rfl⟩ := Option.map_eq_some_iff.mp selected
      exact ⟨invoiceIdOf_mem listed, owner⟩
    · cases selected

theorem mem_unsyncedCustomers {row : CustomerRow} (member : row ∈ rows.customers)
    (unsynced : row.zohoContactId = none) : ⟨row.id⟩ ∈ rows.unsyncedCustomers :=
  List.mem_map.mpr ⟨row, List.mem_filter.mpr ⟨member, by simp [unsynced]⟩, rfl⟩

end Selections

/-! ## Everything once -/

/-- A payment or an invoice that is pushed brings the customer along. -/
def BackfillTargets.Brings (targets : BackfillTargets) (customerId : String) : Prop :=
  (∃ payment ∈ targets.payments, payment.customerId = customerId) ∨
    ∃ invoice ∈ targets.invoicesToEnqueue, invoice.customerId = customerId

/-- Whatever is to be pushed is enqueued or is brought along, and not both. -/
structure BackfillTargets.CoverOnce (targets : BackfillTargets) (payments : List BackfillPayment)
    (invoices : List BackfillInvoice) (customers : List BackfillCustomer) : Prop where
  payments_eq : targets.payments = payments
  invoices_sublist : targets.invoicesToEnqueue.Sublist invoices
  customers_sublist : targets.customersToEnqueue.Sublist customers
  invoice : ∀ invoice ∈ invoices, Xor (invoice ∈ targets.invoicesToEnqueue)
    (∃ payment ∈ targets.payments, payment.invoiceId = invoice.id)
  customer : ∀ customer ∈ customers, Xor (customer ∈ targets.customersToEnqueue)
    (targets.Brings customer.id)
  owner : ∀ invoice ∈ invoices, targets.Brings invoice.customerId

theorem xor_mem_filter {α : Type} {values : List α} {value : α} (member : value ∈ values)
    {test : α → Bool} {fails : Prop} (meaning : test value = false ↔ fails) :
    Xor (value ∈ values.filter test) fails := by
  rw [List.mem_filter, ← meaning, xor_def]
  cases test value with
  | true => simp [member]
  | false => simp

/-- Every payment that is an invoice's is of the invoice's customer. -/
def CarriesCustomers (payments : List BackfillPayment) (invoices : List BackfillInvoice) : Prop :=
  ∀ payment ∈ payments, ∀ invoice ∈ invoices,
    payment.invoiceId = invoice.id → payment.customerId = invoice.customerId

section CoverOnce

variable {payments : List BackfillPayment} {invoices : List BackfillInvoice}
  (customers : List BackfillCustomer)

theorem invoice_once {invoice : BackfillInvoice} (member : invoice ∈ invoices) :
    Xor (invoice ∈ (computeBackfillTargets payments invoices customers).invoicesToEnqueue)
      (∃ payment ∈ payments, payment.invoiceId = invoice.id) :=
  xor_mem_filter member (by simp)

theorem customer_once {customer : BackfillCustomer} (member : customer ∈ customers) :
    Xor (customer ∈ (computeBackfillTargets payments invoices customers).customersToEnqueue)
      ((computeBackfillTargets payments invoices customers).Brings customer.id) := by
  refine xor_mem_filter member ?_
  rw [Bool.not_eq_false', List.contains_iff_mem, List.mem_append, List.mem_map, List.mem_map]
  exact Iff.rfl

/-- An invoice without a job of its own has a payment, which is of its customer. -/
theorem customer_brought (carried : CarriesCustomers payments invoices)
    {invoice : BackfillInvoice} (member : invoice ∈ invoices) :
    (computeBackfillTargets payments invoices customers).Brings invoice.customerId := by
  by_cases covered : ∃ payment ∈ payments, payment.invoiceId = invoice.id
  · obtain ⟨payment, listed, billed⟩ := covered
    exact .inl ⟨payment, listed, carried payment listed invoice member billed⟩
  · refine .inr ⟨invoice, List.mem_filter.mpr ⟨member, ?_⟩, rfl⟩
    simpa using covered

theorem backfillTargets_coverOnce (carried : CarriesCustomers payments invoices) :
    (computeBackfillTargets payments invoices customers).CoverOnce payments invoices
      customers where
  payments_eq := rfl
  invoices_sublist := List.filter_sublist
  customers_sublist := List.filter_sublist
  invoice := fun _ => invoice_once customers
  customer := fun _ => customer_once customers
  owner := fun _ => customer_brought customers carried

end CoverOnce

theorem backfillTargets_coverOnce_sample :
    (computeBackfillTargets [⟨"payment", "paid", "first"⟩]
        [⟨"paid", "first"⟩, ⟨"open", "first"⟩] [⟨"first"⟩, ⟨"second"⟩]).CoverOnce
      [⟨"payment", "paid", "first"⟩] [⟨"paid", "first"⟩, ⟨"open", "first"⟩]
      [⟨"first"⟩, ⟨"second"⟩] :=
  backfillTargets_coverOnce [⟨"first"⟩, ⟨"second"⟩] (by unfold CarriesCustomers; decide)

theorem BrandRows.backfillTargets_cover (rows : BrandRows) (skipPayments : Bool) :
    (rows.backfillTargets skipPayments).CoverOnce (rows.unsyncedPayments skipPayments)
      rows.unsyncedInvoices rows.unsyncedCustomers where
  payments_eq := rfl
  invoices_sublist := List.filter_sublist
  customers_sublist := List.filter_sublist
  invoice := fun _ => invoice_once rows.unsyncedCustomers
  customer := fun _ => customer_once rows.unsyncedCustomers
  owner := by
    refine fun _ => customer_brought rows.unsyncedCustomers ?_
    intro payment listed invoice member billed
    have owner := (owners_of_unsynced listed).2
    rw [billed, customerIdOf_unsynced member] at owner
    exact (Option.some.inj owner).symm

/-! ## What is covered -/

structure Backfilled (start final : World) (skipPayments : Bool) : Prop where
  customers : start.isOpen (some ConnectionRow.customerSyncEnabled) = true →
    ∀ row ∈ start.rows.customers, row.zohoContactId = none →
      (final.rows.link .contact row.id).isSome = true
  invoices : start.isOpen (some ConnectionRow.invoiceSyncEnabled) = true →
    ∀ row ∈ start.rows.invoices, row.invoice.zohoInvoiceId = none → row.invoice.status ≠ .draft →
      (final.rows.link .invoice row.invoice.id).isSome = true
  payments : start.isOpen (some ConnectionRow.invoiceSyncEnabled) = true → skipPayments = false →
    ∀ row ∈ start.rows.payments, row.zohoPaymentId = none →
      row.payment.status ∈ PaymentPushes.settledPaymentStatuses →
        (final.rows.link .payment row.payment.id).isSome = true

def HasNoDependents (rows : BrandRows) (skipPayments : Bool) (customer : BackfillCustomer) : Prop :=
  (∀ payment ∈ rows.unsyncedPayments skipPayments, payment.customerId ≠ customer.id) ∧
    ∀ invoice ∈ rows.unsyncedInvoices, invoice.customerId ≠ customer.id

/-- Customers are to be pushed and invoices are not, only if no customer waits for an invoice. -/
def ReachesCustomers (world : World) (skipPayments : Bool) : Prop :=
  world.isOpen (some ConnectionRow.customerSyncEnabled) = true →
    world.isOpen (some ConnectionRow.invoiceSyncEnabled) = true ∨
      ∀ customer ∈ world.rows.unsyncedCustomers, HasNoDependents world.rows skipPayments customer

section Targets

variable {rows : BrandRows} {skipPayments : Bool}

theorem invoice_covered {invoice : BackfillInvoice} (member : invoice ∈ rows.unsyncedInvoices) :
    .pushInvoice invoice.id ∈ (rows.backfillTargets skipPayments).jobs ∨
      ∃ payment ∈ rows.unsyncedPayments skipPayments, payment.invoiceId = invoice.id := by
  by_cases covered : invoice.id ∈
      (rows.unsyncedPayments skipPayments).map BackfillPayment.invoiceId
  · obtain ⟨payment, listed, same⟩ := List.mem_map.mp covered
    exact .inr ⟨payment, listed, same⟩
  · refine .inl (List.mem_append_left _ (List.mem_append_right _ ?_))
    exact List.mem_map.mpr ⟨invoice, List.mem_filter.mpr ⟨member, by simpa using covered⟩, rfl⟩

theorem payment_queued {payment : BackfillPayment}
    (member : payment ∈ rows.unsyncedPayments skipPayments) :
    .pushPayment payment.id ∈ (rows.backfillTargets skipPayments).jobs :=
  List.mem_append_right _ (List.mem_map.mpr ⟨payment, member, rfl⟩)

theorem mem_customersToEnqueue {customer : BackfillCustomer} :
    customer ∈ (rows.backfillTargets skipPayments).customersToEnqueue ↔
      customer ∈ rows.unsyncedCustomers ∧ HasNoDependents rows skipPayments customer := by
  simp only [BrandRows.backfillTargets, computeBackfillTargets, List.mem_filter,
    Bool.not_eq_true', List.contains_eq_mem, decide_eq_false_iff_not, List.mem_append, not_or,
    List.mem_map, not_exists, not_and]
  refine and_congr_right fun _ => ⟨?_, ?_⟩
  · rintro ⟨payments, invoices⟩
    refine ⟨payments, fun invoice member same => ?_⟩
    by_cases covered : ∃ payment ∈ rows.unsyncedPayments skipPayments,
        payment.invoiceId = invoice.id
    · obtain ⟨payment, listed, billed⟩ := covered
      have owner := (owners_of_unsynced listed).2
      rw [billed, customerIdOf_unsynced member] at owner
      exact payments payment listed ((Option.some.inj owner).symm.trans same)
    · refine invoices invoice ⟨member, fun payment listed billed => ?_⟩ same
      exact covered ⟨payment, listed, billed⟩
  · rintro ⟨payments, invoices⟩
    exact ⟨payments, fun invoice listed => invoices invoice listed.1⟩

end Targets

section Queue

variable {books : ZohoBooks PushError} {start : World} {skipPayments : Bool}
  {attempts : List Attempt}

/-- With invoice sync on, every payment that is selected has its invoice and customer pushed. -/
theorem payments_pushed
    (isOpen : start.isOpen (some ConnectionRow.invoiceSyncEnabled) = true)
    (succeed : ∀ job ∈ (start.rows.backfillTargets skipPayments).jobs,
      Succeeds books job attempts start)
    {payment : BackfillPayment} (member : payment ∈ start.rows.unsyncedPayments skipPayments) :
    PaymentPushed (attempts.foldl (attempted books) start).rows payment.id := by
  have pushed : (PushJob.pushPayment payment.id).Pushed _ :=
    pushed_of_succeeds isOpen (succeed _ (payment_queued member))
  exact pushed

theorem invoices_pushed
    (isOpen : start.isOpen (some ConnectionRow.invoiceSyncEnabled) = true)
    (succeed : ∀ job ∈ (start.rows.backfillTargets skipPayments).jobs,
      Succeeds books job attempts start)
    {invoice : BackfillInvoice} (member : invoice ∈ start.rows.unsyncedInvoices) :
    InvoicePushed (attempts.foldl (attempted books) start).rows invoice.id := by
  have covered : .pushInvoice invoice.id ∈ (start.rows.backfillTargets skipPayments).jobs ∨ _ :=
    invoice_covered member
  rcases covered with queued | ⟨payment, listed, same⟩
  · have pushed : (PushJob.pushInvoice invoice.id).Pushed _ :=
      pushed_of_succeeds isOpen (succeed _ queued)
    exact pushed
  · have grown : Grown start (attempts.foldl (attempted books) start) :=
      grown_attempts attempts start
    refine (payments_pushed isOpen succeed listed).invoice invoice.id ?_
    rw [grown.invoiceIdOf, (owners_of_unsynced listed).1, same]

theorem customers_pushed (reaches : ReachesCustomers start skipPayments)
    (isOpen : start.isOpen (some ConnectionRow.customerSyncEnabled) = true)
    (succeed : ∀ job ∈ (start.rows.backfillTargets skipPayments).jobs,
      Succeeds books job attempts start)
    {customer : BackfillCustomer} (member : customer ∈ start.rows.unsyncedCustomers) :
    ContactPushed (attempts.foldl (attempted books) start).rows customer.id := by
  have grown : Grown start (attempts.foldl (attempted books) start) :=
    grown_attempts attempts start
  have alone : HasNoDependents start.rows skipPayments customer →
      ContactPushed (attempts.foldl (attempted books) start).rows customer.id := by
    intro dependents
    have queued := mem_customersToEnqueue.mpr ⟨member, dependents⟩
    have listed : .pushCustomer customer.id ∈ (start.rows.backfillTargets skipPayments).jobs :=
      List.mem_append_left _ (List.mem_append_left _ (List.mem_map.mpr ⟨_, queued, rfl⟩))
    have pushed : (PushJob.pushCustomer customer.id).Pushed _ :=
      pushed_of_succeeds isOpen (succeed _ listed)
    exact pushed
  rcases reaches isOpen with invoicing | none_
  · by_cases dependents : HasNoDependents start.rows skipPayments customer
    · exact alone dependents
    · rw [HasNoDependents, not_and_or] at dependents
      push Not at dependents
      rcases dependents with ⟨payment, listed, same⟩ | ⟨invoice, listed, same⟩
      · obtain ⟨billed, owner⟩ := owners_of_unsynced listed
        rw [← grown.invoiceIdOf] at billed
        rw [← grown.customerIdOf, same] at owner
        exact ((payments_pushed invoicing succeed listed).invoice _ billed).customer _ owner
      · have owner := customerIdOf_unsynced listed
        rw [← grown.customerIdOf, same] at owner
        exact (invoices_pushed invoicing succeed listed).customer _ owner
  · exact alone (none_ customer member)

theorem customer_left
    (shut : start.isOpen (some ConnectionRow.invoiceSyncEnabled) = false) {customerId : String}
    (unsynced : start.rows.link .contact customerId = none)
    (others : ∀ attempt ∈ attempts, attempt.job ≠ .pushCustomer customerId) :
    (attempts.foldl (attempted books) start).rows.link .contact customerId = none := by
  induction attempts generalizing start with
  | nil => exact unsynced
  | cons attempt later ih =>
      rw [List.forall_mem_cons] at others
      refine ih ?_ ?_ others.2
      · rw [attempted, Attempt.run, grown_run.isOpen]
        exact shut
      · obtain ⟨job, fates⟩ := attempt
        cases job with
        | pushCustomer other =>
            have apart : customerId ≠ other := fun same => others.1 (by rw [same])
            have steady : Steady (fun kind id => kind = .contact ∧ id = other)
                fun world => world.rows.link .contact customerId = none := by
              refine ⟨fun _ _ _ none_ => none_, ?_, ?_⟩
              · intro world kind id reason _ none_
                rw [link_markUnsynced]
                exact none_
              · rintro world kind id ref ⟨rfl, rfl⟩ _ none_
                rw [link_store_other world.rows fun same => apart same.2]
                exact none_
            exact (steady.keeps_pushCustomer books ⟨rfl, rfl⟩ false).at_end fates unsynced
        | pushInvoice invoiceId =>
            rw [attempted, Attempt.run, unchanged_of_shut shut]
            exact unsynced
        | pushPayment paymentId =>
            rw [attempted, Attempt.run, unchanged_of_shut shut]
            exact unsynced

end Queue

/-- When all the jobs that a backfill queues have succeeded, everything has been pushed that the
flags ask for, if and only if no customer was left to an invoice that is not to be pushed. -/
theorem backfill_honours_flags_iff {books : ZohoBooks PushError} {start : World}
    {skipPayments : Bool} {jobs : List PushJob} {counts : BackfillCounts}
    {attempts : List Attempt} (queued : enqueueBackfill start skipPayments = .ok (jobs, counts))
    (only : ∀ attempt ∈ attempts, attempt.job ∈ jobs)
    (succeed : ∀ job ∈ jobs, Succeeds books job attempts start) :
    Backfilled start (attempts.foldl (attempted books) start) skipPayments ↔
      ReachesCustomers start skipPayments := by
  have targets : jobs = (start.rows.backfillTargets skipPayments).jobs := by
    unfold enqueueBackfill at queued
    split at queued
    · cases queued
    · split at queued
      · cases queued
      · cases queued
        rfl
  subst targets
  constructor
  · intro backfilled isOpen
    by_contra unreached
    rw [not_or] at unreached
    obtain ⟨shut, left⟩ := unreached
    push Not at left
    obtain ⟨customer, member, dependents⟩ := left
    obtain ⟨row, listed, rfl⟩ := List.mem_map.mp member
    obtain ⟨listed, unsynced⟩ := List.mem_filter.mp listed
    have unsynced : row.zohoContactId = none := by simpa using unsynced
    have pushed := backfilled.customers isOpen row listed unsynced
    have here : start.rows.customer? row.id = some row :=
      find_eq_some start.rows.customerKeys listed
    have without : start.rows.link .contact row.id = none := by
      rw [BrandRows.link, BrandRows.remoteId?, here, Option.bind_some, unsynced]
      rfl
    have others : ∀ attempt ∈ attempts, attempt.job ≠ .pushCustomer row.id := by
      intro attempt member same
      have queued := only attempt member
      rw [same] at queued
      simp only [BackfillTargets.jobs, List.mem_append, List.mem_map, reduceCtorEq, and_false,
        exists_false, or_false, PushJob.pushCustomer.injEq] at queued
      obtain ⟨⟨id⟩, queued, rfl⟩ := queued
      exact dependents (mem_customersToEnqueue.mp queued).2
    rw [customer_left (Bool.not_eq_true _ ▸ shut) without others] at pushed
    cases pushed
  · intro reaches
    refine ⟨fun isOpen row member unsynced => ?_, fun isOpen row member unsynced issued => ?_,
      fun isOpen wanted row member unsynced settled => ?_⟩
    · exact customers_pushed reaches isOpen succeed (mem_unsyncedCustomers member unsynced)
    · exact (invoices_pushed isOpen succeed (mem_unsyncedInvoices member unsynced issued)).invoice
    · subst wanted
      obtain ⟨payment, listed, same⟩ := mem_unsyncedPayments member unsynced settled
      rw [← same]
      exact (payments_pushed isOpen succeed listed).payment

theorem backfill_honours_flags_iff_sample :
    Backfilled (sampleWorld true true)
      ([⟨.pushInvoice "invoice", []⟩].foldl (attempted sampleBooks) (sampleWorld true true))
      false := by
  have queued : enqueueBackfill (sampleWorld true true) false =
      .ok ([.pushInvoice "invoice"], ⟨0, 1, 0⟩) := by decide +kernel
  refine (backfill_honours_flags_iff queued ?_ ?_).mpr fun _ => .inl rfl
  · simp
  · intro job member
    obtain rfl := List.mem_singleton.mp member
    exact .inl ⟨rfl, by decide +kernel⟩

/-- With invoice sync off the one job there is returns without doing anything. -/
theorem backfill_leaves_customer :
    enqueueBackfill (sampleWorld true false) false =
        .ok ([.pushInvoice "invoice"], ⟨0, 1, 0⟩) ∧
      Succeeds sampleBooks (.pushInvoice "invoice") [⟨.pushInvoice "invoice", []⟩]
        (sampleWorld true false) ∧
      ¬Backfilled (sampleWorld true false)
        ([⟨.pushInvoice "invoice", []⟩].foldl (attempted sampleBooks) (sampleWorld true false))
        false := by
  refine ⟨by decide +kernel, .inl ⟨rfl, by decide +kernel⟩, fun backfilled => ?_⟩
  have pushed := backfilled.customers rfl sampleCustomerRow (List.mem_singleton.mpr rfl) rfl
  exact absurd pushed (by decide +kernel)

end PushJobs

end MultiBrandInvoicing
