import MultiBrandInvoicing.Integrations.PullBrand
import MultiBrandInvoicing.Promises.Logged
import MultiBrandInvoicing.Tenancy.Scopes

/-!
# Whose rows a pull writes

The pulls of one contact and of one invoice in `apps/api/src/integrations/zoho-pull.service.ts`
with the rows they write.  A pull runs under the scope of the brand it is told, not of whoever
asked for it, and stamps every row with that brand.
-/

set_option autoImplicit false

namespace MultiBrandInvoicing

open ZohoPullService Tenancy

inductive BrandTable where
  | customer | invoice | syncJob
  deriving DecidableEq, Repr

structure BrandRow where
  table : BrandTable
  brandId : String
  deriving DecidableEq, Repr

namespace PulledRows

abbrev Pull (α : Type) := Logged BrandRow PullError α

/-- Where a call runs: the tables, the scope it is given and the brand. -/
structure Place where
  tables : BrandTables
  scope : RequestScope
  brandId : String

/-- A write under the scope, which row-level security refuses for a brand it does not see. -/
def scopedWrite (place : Place) (table : BrandTable) (promise : Promise PullError Unit) :
    Pull Unit :=
  if appBrandVisible place.tables (databaseScopeSettings (.request place.scope)) place.brandId then
    .write ⟨table, place.brandId⟩ promise
  else .reject (.unknown "new row violates row-level security policy")

/-- The sync job row is written without a scope. -/
def recordPull {α : Type} (brandId : String) (job : JobAnswers) (work : Pull α) : Pull α := do
  .write ⟨.syncJob, brandId⟩ job.create
  let result ← work.attempt
  let _ ← (Logged.write ⟨.syncJob, brandId⟩ job.update).attempt
  match result with
  | .ok value => pure value
  | .error error => do
      .call (PullBrand.recordUnhealthy job error)
      .reject error

section Numbers

variable {ν : Type} (numbers : ZohoNumbers ν)

def pullOneCustomer (place : Place) (answers : CustomerAnswers) : Pull Bool :=
  recordPull place.brandId answers.job do
    let contact ← .call answers.contact
    let existing ← .call answers.existing
    let version := existing.bind fun row => row.header.zohoSyncedVersion
    if isOwnPushEcho numbers contact.lastModifiedTime version then pure false
    else do
      scopedWrite place .customer answers.transaction
      pure true

def invoiceCustomer (place : Place) (answers : InvoiceAnswers ν) : Pull String := do
  match ← .call answers.localCustomer with
  | some customerId => pure customerId
  | none => do
      let _ ← pullOneCustomer numbers place answers.cascade
      match ← .call answers.cascadedCustomer with
      | some customerId => pure customerId
      | none =>
          .reject (.integration .validation (s!"invoice {answers.item.invoiceId} references " ++
            s!"Zoho contact {answers.item.customerId}, which could not be pulled"))

def refreshLines (place : Place) (answers : InvoiceAnswers ν)
    (existing : Option ExistingInvoice) : Pull Unit :=
  if existing.any fun row => 0 < row.lineItems then do
    let _ ← .call answers.detail
    scopedWrite place .invoice answers.applyDetail
  else pure ()

def pullOneInvoice (place : Place) (answers : InvoiceAnswers ν) : Pull Bool :=
  recordPull place.brandId answers.job do
    let existing ← .call answers.existing
    let version := existing.bind ExistingInvoice.zohoSyncedVersion
    if isOwnPushEcho numbers answers.item.lastModifiedTime version then pure false
    else do
      let _ ← invoiceCustomer numbers place answers
      match supportedCurrency? answers.item.currencyCode with
      | none =>
          .reject (.integration .validation (s!"invoice {answers.item.invoiceId} is " ++
            s!"denominated in {answers.item.currencyCode}, which this platform does not " ++
            "support — it cannot be represented without corrupting the amount"))
      | some _ => do
          refreshLines place answers existing
          scopedWrite place .invoice (PullBrand.upsertHeader answers)
          pure true

/-! ## Only rows of its brand -/

def OfBrand (brandId : String) (row : BrandRow) : Prop := row.brandId = brandId

theorem ofBrand (table : BrandTable) (brandId : String) : OfBrand brandId ⟨table, brandId⟩ := rfl

theorem scopedWrite_only (place : Place) (table : BrandTable) (promise : Promise PullError Unit) :
    Logged.Only (OfBrand place.brandId) (scopedWrite place table promise) := by
  unfold scopedWrite
  split
  next => exact Logged.only_write (ofBrand table place.brandId) promise
  next => exact Logged.only_reject _

theorem recordPull_only {α : Type} {brandId : String} {job : JobAnswers} {work : Pull α}
    (only : Logged.Only (OfBrand brandId) work) :
    Logged.Only (OfBrand brandId) (recordPull brandId job work) := by
  have own := ofBrand .syncJob brandId
  refine (Logged.only_write own job.create).bind fun _ => ?_
  refine Logged.Only.bind only fun result => ?_
  refine Logged.Only.bind (Logged.only_write own job.update) fun _ => ?_
  cases result with
  | ok value => exact Logged.only_pure value
  | error error => exact (Logged.only_call _).bind fun _ => Logged.only_reject error

theorem pullOneCustomer_only (place : Place) (answers : CustomerAnswers) :
    Logged.Only (OfBrand place.brandId) (pullOneCustomer numbers place answers) := by
  refine recordPull_only ?_
  refine (Logged.only_call answers.contact).bind fun contact => ?_
  refine (Logged.only_call answers.existing).bind fun existing => ?_
  dsimp only
  split
  next => exact Logged.only_pure false
  next => exact (scopedWrite_only place .customer _).bind fun _ => Logged.only_pure true

theorem invoiceCustomer_only (place : Place) (answers : InvoiceAnswers ν) :
    Logged.Only (OfBrand place.brandId) (invoiceCustomer numbers place answers) := by
  refine (Logged.only_call answers.localCustomer).bind fun found => ?_
  cases found with
  | some customerId => exact Logged.only_pure customerId
  | none =>
      refine (pullOneCustomer_only numbers place answers.cascade).bind fun _ => ?_
      refine (Logged.only_call answers.cascadedCustomer).bind fun cascaded => ?_
      cases cascaded with
      | some customerId => exact Logged.only_pure customerId
      | none => exact Logged.only_reject _

theorem pullOneInvoice_only (place : Place) (answers : InvoiceAnswers ν) :
    Logged.Only (OfBrand place.brandId) (pullOneInvoice numbers place answers) := by
  refine recordPull_only ?_
  refine (Logged.only_call answers.existing).bind fun existing => ?_
  dsimp only
  split
  next => exact Logged.only_pure false
  next =>
    refine (invoiceCustomer_only numbers place answers).bind fun _ => ?_
    split
    next => exact Logged.only_reject _
    next =>
      have lines : Logged.Only (OfBrand place.brandId) (refreshLines place answers existing) := by
        unfold refreshLines
        split
        next =>
          exact (Logged.only_call answers.detail).bind fun _ => scopedWrite_only place .invoice _
        next => exact Logged.only_pure ()
      refine lines.bind fun _ => ?_
      exact (scopedWrite_only place .invoice _).bind fun _ => Logged.only_pure true

/-! ## What a pull comes to -/

def Place.Visible (place : Place) : Prop :=
  appBrandVisible place.tables (databaseScopeSettings (.request place.scope)) place.brandId = true

theorem scopedWrite_outcome {place : Place} (visible : place.Visible) (table : BrandTable)
    (promise : Promise PullError Unit) : (scopedWrite place table promise).outcome = promise := by
  have seen : appBrandVisible place.tables (databaseScopeSettings (.request place.scope))
      place.brandId = true := visible
  rw [scopedWrite, if_pos seen]
  rfl

theorem recordPull_outcome {α : Type} (brandId : String) (job : JobAnswers) (work : Pull α) :
    (recordPull brandId job work).outcome = PullBrand.recordPull job work.outcome := by
  unfold recordPull PullBrand.recordPull
  rw [Logged.bind_outcome, Logged.write_outcome]
  congr 1
  funext _
  rw [Logged.bind_outcome]
  cases done : work.outcome with
  | pending => simp [Logged.attempt, done]
  | rejected error =>
      simp only [Logged.attempt, done, Promise.fulfilled_bind]
      rw [← Logged.attempt, Logged.attempt_bind_outcome, Logged.bind_outcome]
      rfl
  | fulfilled value =>
      simp only [Logged.attempt, done, Promise.fulfilled_bind]
      rw [← Logged.attempt, Logged.attempt_bind_outcome]
      rfl

theorem pullOneCustomer_outcome {place : Place} (visible : place.Visible)
    (answers : CustomerAnswers) :
    (pullOneCustomer numbers place answers).outcome =
      PullBrand.pullOneCustomer numbers answers := by
  rw [pullOneCustomer, recordPull_outcome, PullBrand.pullOneCustomer]
  simp only [Logged.bind_outcome, Logged.call_outcome]
  congr 1
  cases answers.contact with
  | pending => rfl
  | rejected error => rfl
  | fulfilled contact =>
      cases answers.existing with
      | pending => rfl
      | rejected error => rfl
      | fulfilled existing =>
          simp only [Promise.fulfilled_bind]
          split
          next => rfl
          next => rw [Logged.bind_outcome, scopedWrite_outcome visible]; rfl

theorem invoiceCustomer_outcome {place : Place} (visible : place.Visible)
    (answers : InvoiceAnswers ν) :
    (invoiceCustomer numbers place answers).outcome =
      PullBrand.invoiceCustomer numbers answers := by
  unfold invoiceCustomer PullBrand.invoiceCustomer
  rw [Logged.bind_outcome, Logged.call_outcome]
  congr 1
  funext found
  cases found with
  | some customerId => rfl
  | none =>
      simp only [Logged.bind_outcome, pullOneCustomer_outcome numbers visible, Logged.call_outcome]
      congr 1
      funext _
      congr 1
      funext cascaded
      cases cascaded <;> rfl

theorem refreshLines_outcome {place : Place} (visible : place.Visible)
    (answers : InvoiceAnswers ν) (existing : Option ExistingInvoice) :
    (refreshLines place answers existing).outcome = PullBrand.refreshLines answers existing := by
  unfold refreshLines PullBrand.refreshLines
  split
  next => simp only [Logged.bind_outcome, Logged.call_outcome, scopedWrite_outcome visible]
  next => rfl

theorem pullOneInvoice_outcome {place : Place} (visible : place.Visible)
    (answers : InvoiceAnswers ν) :
    (pullOneInvoice numbers place answers).outcome = PullBrand.pullOneInvoice numbers answers := by
  unfold pullOneInvoice PullBrand.pullOneInvoice
  rw [recordPull_outcome, Logged.bind_outcome, Logged.call_outcome]
  congr 2
  funext existing
  dsimp only
  split
  next => rfl
  next =>
    rw [Logged.bind_outcome, invoiceCustomer_outcome numbers visible]
    congr 1
    funext _
    cases supportedCurrency? answers.item.currencyCode with
    | none => rfl
    | some currency =>
        simp only [Logged.bind_outcome, refreshLines_outcome visible, scopedWrite_outcome visible]
        rfl

end Numbers

end PulledRows

end MultiBrandInvoicing
