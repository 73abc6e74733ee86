import MultiBrandInvoicing.Lifecycle.Reachability

/-!
# Status and balance agree

Along every sequence of operations on a native invoice the status says how much of it
is paid.  A pending invoice may hold a full or a partial balance, so the invariant
also says what `previousStatus` may be: the status a decline returns to has to agree
with the balance as it stands.
-/

set_option autoImplicit false

namespace MultiBrandInvoicing

open ReadCommitted PaymentsService

/-- What `status` says about the balance of an invoice. -/
structure Agrees (status : InvoiceStatus) (invoice : Invoice) : Prop where
  nonneg : 0 ≤ invoice.balanceMinor
  within : invoice.balanceMinor ≤ invoice.totalMinor
  paid : status = .paid ↔ invoice.balanceMinor = 0
  partly : status = .partiallyPaid → invoice.balanceMinor < invoice.totalMinor
  whole : status ∈ [.draft, .sent, .viewed, .cancelled] →
    invoice.balanceMinor = invoice.totalMinor

/-- The invariant: the status agrees with the balance, and so does the status a decline
would return a pending invoice to. -/
structure Coherent (invoice : Invoice) : Prop where
  agrees : Agrees invoice.status invoice
  returns : ∀ target, invoice.revertTarget? = some target → Agrees target invoice

theorem revertTarget?_of_settled {invoice : Invoice} (settled : invoice.status ≠ .pendingPayment)
    (target : InvoiceStatus) : invoice.revertTarget? ≠ some target := by
  simp [Invoice.revertTarget?, settled]

/-- Outside PENDING_PAYMENT there is nothing to return to. -/
theorem Coherent.of_agrees {invoice : Invoice} (settled : invoice.status ≠ .pendingPayment)
    (agrees : Agrees invoice.status invoice) : Coherent invoice where
  agrees := agrees
  returns := fun target reverts => absurd reverts (revertTarget?_of_settled settled target)

theorem Coherent.owing {invoice : Invoice} (coherent : Coherent invoice)
    (payable : isPayable invoice.status = true) : 0 < invoice.balanceMinor := by
  have unpaid : invoice.status ≠ .paid := by
    intro paid
    rw [paid] at payable
    cases payable
  have nonzero : invoice.balanceMinor ≠ 0 := fun zero => unpaid (coherent.agrees.paid.mpr zero)
  have nonneg := coherent.agrees.nonneg
  omega

theorem Coherent.attempting {store : Store} (coherent : Coherent store.invoice)
    (payable : isPayable store.invoice.status = true) (payments : PaymentTable) :
    Coherent (store.attempting payments).invoice := by
  have owing := coherent.owing payable
  have before := coherent.agrees
  refine ⟨⟨before.nonneg, before.within, ?_, ?_, ?_⟩, ?_⟩
  · have unpaid : store.invoice.balanceMinor ≠ 0 := by omega
    simpa [Store.attempting] using unpaid
  · simp [Store.attempting]
  · simp [Store.attempting]
  · intro target reverts
    -- The slot holds the status the attempt was started from, which agreed already.
    simp only [Store.attempting, Invoice.revertTarget?, if_true, Option.filter_eq_some_iff] at reverts
    have same : store.invoice.status = target := Option.some.inj reverts.1
    subst same
    exact ⟨before.nonneg, before.within, before.paid, before.partly, before.whole⟩

theorem Coherent.afterSuccess {invoice : Invoice} (coherent : Coherent invoice)
    (occurredAt : Time) : Coherent (invoice.afterSuccess occurredAt) := by
  have within := coherent.agrees.within
  have nonneg := coherent.agrees.nonneg
  unfold Invoice.afterSuccess
  split
  · apply Coherent.of_agrees
    · simp
    · exact ⟨le_refl 0, nonneg.trans within, by simp, by simp, by simp⟩
  · exact coherent

theorem Coherent.afterDecline {invoice : Invoice} (coherent : Coherent invoice) :
    Coherent invoice.afterDecline := by
  unfold Invoice.afterDecline
  cases reverts : invoice.revertTarget? with
  | none => exact coherent
  | some target =>
      have agrees := coherent.returns target reverts
      have settled : target ≠ .pendingPayment := by
        intro pending
        subst pending
        simp [Invoice.revertTarget?, Option.filter_eq_some_iff] at reverts
      exact .of_agrees settled
        ⟨agrees.nonneg, agrees.within, agrees.paid, agrees.partly, agrees.whole⟩

theorem Coherent.afterResult {invoice : Invoice} (coherent : Coherent invoice)
    (status : PaymentIntentStatus) (occurredAt : Time) :
    Coherent (invoice.afterResult status occurredAt) := by
  cases status with
  | succeeded => exact coherent.afterSuccess occurredAt
  | failed => exact coherent.afterDecline
  | requiresAction => exact coherent
  | processing => exact coherent
  | cancelled => exact coherent

theorem Coherent.afterManualPayment {invoice : Invoice} (coherent : Coherent invoice)
    {amountMinor : Int} (exact_ : InvoicesService.ExactSums invoice amountMinor)
    (granted : InvoicesService.Grants invoice amountMinor) (paidAt : Time) :
    Coherent (InvoicesService.afterManualPayment invoice amountMinor paidAt) := by
  obtain ⟨_, positive, below⟩ := exact_.grants_iff.mp granted
  have within := coherent.agrees.within
  rw [exact_.afterManualPayment_eq]
  by_cases full : amountMinor = invoice.balanceMinor
  · apply Coherent.of_agrees
    · simp [InvoicesService.recordOnInvoice, full]
    · refine ⟨?_, ?_, ?_, ?_, ?_⟩ <;> simp [InvoicesService.recordOnInvoice, full]
      omega
  · apply Coherent.of_agrees
    · simp [InvoicesService.recordOnInvoice, full]
    · refine ⟨?_, ?_, ?_, ?_, ?_⟩ <;> simp [InvoicesService.recordOnInvoice, full]
      all_goals omega

/-- Quiet steps keep the invariant, unless a recorded payment is rounded. -/
theorem Coherent.quiet {recorded : Option Int} {store next : Store}
    (positive : 0 < store.invoice.totalMinor) (coherent : Coherent store.invoice)
    (exact_ : ∀ amountMinor ∈ recorded, InvoicesService.Grants store.invoice amountMinor →
      InvoicesService.ExactSums store.invoice amountMinor)
    (step : QuietStep store recorded next) : Coherent next.invoice := by
  have before := coherent.agrees
  cases step with
  | kept _ same =>
      rw [same]
      exact coherent
  | issued scope now draft lines total =>
      have whole := before.whole (by simp [draft])
      apply Coherent.of_agrees
      · simp [InvoicesService.Store.issued]
      · refine ⟨before.nonneg, before.within, ?_, ?_, ?_⟩ <;>
          simp [InvoicesService.Store.issued] <;> omega
  | viewed now sent =>
      have whole := before.whole (by simp [sent])
      have owing := coherent.owing (by simp [sent, isPayable, payableStatuses])
      apply Coherent.of_agrees
      · simp [PublicInvoicesService.Store.viewed]
      · refine ⟨before.nonneg, before.within, ?_, ?_, ?_⟩ <;>
          simp [PublicInvoicesService.Store.viewed] <;> omega
  | recorded paymentId uuid input amountMinor payments event _ granted rows same =>
      rw [same]
      exact coherent.afterManualPayment (exact_ amountMinor rfl granted) granted input.paidAt
  | cancelled scope now listed unpaid =>
      have within := before.within
      have whole : store.invoice.balanceMinor = store.invoice.totalMinor := by omega
      apply Coherent.of_agrees
      · simp [InvoicesService.Store.cancelled]
      · refine ⟨before.nonneg, before.within, ?_, ?_, ?_⟩ <;>
          simp [InvoicesService.Store.cancelled] <;> omega

theorem Coherent.safeFigures {invoice : Invoice} (coherent : Coherent invoice)
    (safe : isSafeInteger invoice.totalMinor = true) : InvoicesService.SafeFigures invoice :=
  InvoicesService.safeFigures_of_within safe coherent.agrees.nonneg coherent.agrees.within

/-- One operation keeps an invoice of a positive total coherent, unless it records a payment that
is rounded. -/
theorem Coherent.perform {π : Type} {env : Env} {store : Store} (operation : NativeOperation π)
    (native : store.invoice.isPushed = false) (positive : 0 < store.invoice.totalMinor)
    (coherent : Coherent store.invoice)
    (exact_ : ∀ amountMinor ∈ operation.recorded? store,
      InvoicesService.Grants store.invoice amountMinor →
        InvoicesService.ExactSums store.invoice amountMinor) :
    Coherent (operation.perform env store).invoice := by
  refine NativeOperation.perform_invariant (fun store => Coherent store.invoice) operation store
    ?_ ?_ ?_ native coherent
  · intro next holds step
    exact holds.quiet positive exact_ step
  · intro store method attempt holds opens
    exact holds.attempting opens.payable attempt.payments
  · intro store result holds about
    exact holds.afterResult result.status result.occurredAt

/-! ## Invoices of no worth -/

/-- An invoice that is not worth anything has nothing happening to it. -/
structure Dormant (store : Store) : Prop where
  status : store.invoice.status = .draft ∨ store.invoice.status = .cancelled
  unpaid : store.payments.rows = []
  whole : store.invoice.balanceMinor = store.invoice.totalMinor

theorem Dormant.closed {store : Store} (dormant : Dormant store) :
    isPayable store.invoice.status = false := by
  rcases dormant.status with draft | cancelled
  · rw [draft]
    rfl
  · rw [cancelled]
    rfl

theorem Dormant.quiet {recorded : Option Int} {store next : Store}
    (worthless : store.invoice.totalMinor ≤ 0) (dormant : Dormant store)
    (step : QuietStep store recorded next) : Dormant next := by
  have closed := dormant.closed
  cases step with
  | kept _ same =>
      rw [same]
      exact ⟨dormant.status, dormant.unpaid, dormant.whole⟩
  | issued scope now draft lines total => omega
  | viewed now sent =>
      rw [sent] at closed
      cases closed
  | recorded paymentId uuid input amountMinor payments event _ granted rows same =>
      rw [granted.payable] at closed
      cases closed
  | cancelled => exact ⟨.inr rfl, dormant.unpaid, dormant.whole⟩

theorem NativeReachable.dormant {π : Type} {env : Env} {store : Store}
    (reachable : NativeReachable π env store) (worthless : store.invoice.totalMinor ≤ 0) :
    Dormant store := by
  refine reachable.invariant (fun store => store.invoice.totalMinor ≤ 0 → Dormant store)
    ?_ ?_ ?_ ?_ worthless
  · intro brand id publicToken input store created _
    have new := InvoicesService.create_ok created
    exact ⟨.inl new.draft, new.unpaid, new.whole⟩
  · intro store recorded next holds step worthless
    have total : next.invoice.totalMinor = store.invoice.totalMinor :=
      congrArg InvoiceTerms.totalMinor step.terms
    rw [total] at worthless
    exact (holds worthless).quiet worthless step
  · intro store method attempt holds opens worthless
    have closed := (holds worthless).closed
    rw [opens.payable] at closed
    cases closed
  · intro store result holds about worthless
    have total : (store.apply result).invoice.totalMinor = store.invoice.totalMinor :=
      congrArg InvoiceTerms.totalMinor (terms_apply store result)
    rw [total] at worthless
    have none_ := about.member
    rw [(holds worthless).unpaid] at none_
    cases none_

/-! ## Safe totals -/

theorem coherent_created {brand : BrandRows} {id publicToken : String}
    {input : InvoiceDraftInput} {store : Store}
    (created : InvoicesService.create brand id publicToken input = .ok store)
    (positive : 0 < store.invoice.totalMinor) : Coherent store.invoice := by
  have new := InvoicesService.create_ok created
  have whole := new.whole
  apply Coherent.of_agrees
  · simp [new.draft]
  · rw [new.draft]
    exact ⟨by omega, by omega, by simp; omega, by simp, fun _ => whole⟩

/-- A native invoice with a positive total is coherent wherever it can get, if that total is a
safe integer. -/
theorem NativeReachable.coherent {π : Type} {env : Env} {store : Store}
    (reachable : NativeReachable π env store) (positive : 0 < store.invoice.totalMinor)
    (safe : isSafeInteger store.invoice.totalMinor = true) : Coherent store.invoice := by
  induction reachable with
  | created brand id publicToken input store created => exact coherent_created created positive
  | performed operation store reached ih =>
      have total := perform_total env operation reached.native
      rw [total] at positive safe
      have coherent := ih positive safe
      exact coherent.perform operation reached.native positive fun _ _ granted =>
        (coherent.safeFigures safe).exactSums_of_granted granted

theorem NativeReachable.positive_of_payable {π : Type} {env : Env} {store : Store}
    (reachable : NativeReachable π env store) (payable : isPayable store.invoice.status = true) :
    0 < store.invoice.totalMinor := by
  by_contra worthless
  have closed := (reachable.dormant (not_lt.mp worthless)).closed
  rw [payable] at closed
  cases closed

/-- Rounded or not, a recorded payment does not raise the balance above the total. -/
theorem QuietStep.balance_le {recorded : Option Int} {store next : Store}
    (step : QuietStep store recorded next) (double : IsDouble store.invoice.totalMinor)
    (within : store.invoice.balanceMinor ≤ store.invoice.totalMinor) :
    next.invoice.balanceMinor ≤ store.invoice.totalMinor := by
  cases step with
  | kept _ same => rw [same]; exact within
  | issued => exact within
  | viewed => exact within
  | recorded paymentId uuid input amountMinor payments event _ granted rows same =>
      rw [same]
      exact InvoicesService.newBalance_le double within granted.positive
  | cancelled => exact within

theorem NativeReachable.balance_le {π : Type} {env : Env} {store : Store}
    (reachable : NativeReachable π env store) :
    store.invoice.balanceMinor ≤ store.invoice.totalMinor := by
  rcases le_or_gt store.invoice.totalMinor 0 with worthless | positive
  · exact (reachable.dormant worthless).whole.le
  · refine (reachable.invariant (fun store => IsDouble store.invoice.totalMinor ∧
      (0 < store.invoice.totalMinor → store.invoice.balanceMinor ≤ store.invoice.totalMinor))
      ?_ ?_ ?_ ?_).2 positive
    · intro brand id publicToken input store created
      have new := InvoicesService.create_ok created
      exact ⟨new.worth ▸ isDouble_addNumbers _ _, fun _ => new.whole.le⟩
    · rintro store recorded next ⟨double, within⟩ step
      have total : next.invoice.totalMinor = store.invoice.totalMinor :=
        congrArg InvoiceTerms.totalMinor step.terms
      rw [total]
      exact ⟨double, fun positive => step.balance_le double (within positive)⟩
    · exact fun _ _ _ holds _ => holds
    · rintro store result ⟨double, within⟩ about
      have total : (store.apply result).invoice.totalMinor = store.invoice.totalMinor :=
        congrArg InvoiceTerms.totalMinor (terms_apply store result)
      rw [total]
      refine ⟨double, fun positive => ?_⟩
      by_cases succeeded : result.status = .succeeded
      · simp only [Store.apply, Store.resolve, Invoice.afterResult, succeeded,
          balance_afterSuccess]
        split
        · exact positive.le
        · exact within positive
      · have kept : (store.apply result).invoice.balanceMinor = store.invoice.balanceMinor :=
          balance_afterResult_of_unsuccessful store.invoice succeeded result.occurredAt
        rw [kept]
        exact within positive

/-- No payment recorded on a safe total is rounded. -/
theorem NativeReachable.throughout_exact {π : Type} {env : Env} {store : Store}
    (reachable : NativeReachable π env store)
    (safe : isSafeInteger store.invoice.totalMinor = true)
    (operations : List (NativeOperation π)) :
    Runs.Throughout (NativeOperation.perform env)
      (NativeOperation.Records InvoicesService.ExactSums) operations store := by
  induction operations generalizing store with
  | nil => trivial
  | cons operation rest ih =>
      refine ⟨?_, ih (.performed operation store reachable) ?_⟩
      · intro amountMinor records
        have granted := NativeOperation.granted_of_recorded? records
        have coherent := reachable.coherent (reachable.positive_of_payable granted.payable) safe
        exact (coherent.safeFigures safe).exactSums_of_granted granted
      · rw [perform_total env operation reachable.native]
        exact safe

structure Coheres (store : Store) : Prop where
  within : 0 ≤ store.invoice.balanceMinor ∧ store.invoice.balanceMinor ≤ store.invoice.totalMinor
  paid : store.invoice.status = .paid ↔ store.invoice.balanceMinor = 0
  partly : store.invoice.status = .partiallyPaid →
    0 < store.invoice.balanceMinor ∧ store.invoice.balanceMinor < store.invoice.totalMinor
  whole : store.invoice.status ∈ [.draft, .sent, .viewed, .cancelled] →
    store.invoice.balanceMinor = store.invoice.totalMinor

theorem Coherent.coheres {store : Store} (coherent : Coherent store.invoice) : Coheres store := by
  have agrees := coherent.agrees
  refine ⟨⟨agrees.nonneg, agrees.within⟩, agrees.paid, ?_, agrees.whole⟩
  intro partly
  have payable : isPayable store.invoice.status = true := by
    rw [partly]
    rfl
  exact ⟨coherent.owing payable, agrees.partly partly⟩

/-- Status and balance cohere in every state of a run whose recorded payments are not rounded,
and in every state at all where the total is a safe integer. -/
theorem status_balance_cohere {π : Type} {env : Env} {brand : BrandRows} {id publicToken : String}
    {input : InvoiceDraftInput} {store : Store}
    (created : InvoicesService.create brand id publicToken input = .ok store)
    (positive : 0 < store.invoice.totalMinor) (operations : List (NativeOperation π)) :
    (Runs.Throughout (NativeOperation.perform env)
        (NativeOperation.Records InvoicesService.ExactSums) operations store →
      Runs.Always (NativeOperation.perform env) Coheres operations store) ∧
      (isSafeInteger store.invoice.totalMinor = true →
        Runs.Always (NativeOperation.perform env) Coheres operations store) := by
  have start : NativeReachable π env store := .created brand id publicToken input store created
  have exactly (exact_ : Runs.Throughout (NativeOperation.perform env)
      (NativeOperation.Records InvoicesService.ExactSums) operations store) :
      Runs.Always (NativeOperation.perform env) Coheres operations store := by
    have along := Runs.always_of_throughout
      (P := fun store => NativeReachable π env store ∧ 0 < store.invoice.totalMinor ∧
        Coherent store.invoice) ?_ ⟨start, positive, coherent_created created positive⟩ exact_
    · exact along.mono fun store holds => holds.2.2.coheres
    · rintro store operation ⟨reached, positive, coherent⟩ exact_
      have total := perform_total env operation reached.native
      exact ⟨.performed operation store reached, total ▸ positive,
        coherent.perform operation reached.native positive fun amountMinor records _ =>
          exact_ amountMinor records⟩
  exact ⟨exactly, fun safe => exactly (start.throughout_exact safe operations)⟩

theorem status_balance_cohere_sample :
    (Runs.Throughout (NativeOperation.perform sampleEnv)
        (NativeOperation.Records InvoicesService.ExactSums)
        [sampleIssue GatewayWebhookEvent, samplePayment _ "m1" "40.00"] sampleInvoice →
      Runs.Always (NativeOperation.perform sampleEnv) Coheres
        [sampleIssue GatewayWebhookEvent, samplePayment _ "m1" "40.00"] sampleInvoice) ∧
      (isSafeInteger sampleInvoice.invoice.totalMinor = true →
        Runs.Always (NativeOperation.perform sampleEnv) Coheres
          [sampleIssue GatewayWebhookEvent, samplePayment _ "m1" "40.00"] sampleInvoice) :=
  status_balance_cohere sampleInvoice_created (by decide) _

/-- Lines over 90071992547409.86 and 0.05, the second taxed at its whole price. -/
def sampleVastDraft : InvoiceDraftInput where
  currency := .usd
  lines := [
    { itemName := "Service", description := none, quantity := "1"
      unitPrice := "90071992547409.86", taxExempt := true },
    { itemName := "Service", description := none, quantity := "1", unitPrice := "0.05"
      taxExempt := false }]
  taxRateBp := 10000
  cardFeeRateBp := 0
  notes := none

def sampleVastInvoice : Store where
  invoice := { sampleInvoice.invoice with
    subtotalMinor := 9007199254740991, taxRateBpApplied := 10000, taxMinor := 5
    cardFeeRateBpApplied := 0, totalMinor := 9007199254740996, balanceMinor := 9007199254740996 }
  lineItems := [
    { position := 0, itemName := "Service", description := none, quantity := 10000
      unitPriceMinor := 9007199254740986, lineTotalMinor := 9007199254740986, taxExempt := true },
    { position := 1, itemName := "Service", description := none, quantity := 10000
      unitPriceMinor := 5, lineTotalMinor := 5, taxExempt := false }]
  customer := sampleInvoice.customer
  settings := sampleInvoice.settings
  payments := UniqueTable.empty
  events := []
  checkSubmissions := []

theorem sampleVastInvoice_created :
    InvoicesService.create sampleBrand "invoice" "token" sampleVastDraft =
      .ok sampleVastInvoice := by
  decide +kernel

/-- All but five minor units are paid, then four: the total is reached and one is left. -/
theorem paid_with_balance :
    let final := NativeOperation.run sampleEnv
      [sampleIssue GatewayWebhookEvent, samplePayment _ "m1" "90071992547409.91",
        samplePayment _ "m2" "0.04"] sampleVastInvoice
    NativeReachable GatewayWebhookEvent sampleEnv final ∧ final.invoice.status = .paid ∧
      final.invoice.balanceMinor = 1 ∧ ¬Coheres final := by
  refine ⟨NativeReachable.run (.created _ _ _ _ _ sampleVastInvoice_created) _,
    by decide +kernel, by decide +kernel, ?_⟩
  intro coheres
  have cleared := coheres.paid.mp (by decide +kernel)
  exact absurd cleared (by decide +kernel)

end MultiBrandInvoicing
