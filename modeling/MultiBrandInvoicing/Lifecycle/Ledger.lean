import MultiBrandInvoicing.Lifecycle.Coherence

/-!
# The ledger of settled payments

A payment is worth its amount less the card fee that was quoted for its method.  While
the balance is kept by the invoice operations, the settled payments are rows of their
own; this file says when the two tell the same story.
-/

set_option autoImplicit false

namespace MultiBrandInvoicing

open ReadCommitted PaymentsService

/-- The card fee in the quotation for a method, zero where there is no quotation. -/
def Store.quotedFee (store : Store) (method : PaymentMethod) : Int :=
  match calculate (quoteInput store method) with
  | .ok quote => quote.cardFeeMinor
  | .error _ => 0

def Store.principal (store : Store) (payment : Payment) : Int :=
  payment.amountMinor - store.quotedFee payment.method

/-- What a payment contributes: its principal once it is settled. -/
def Store.settledPart (store : Store) (payment : Payment) : Int :=
  if payment.status = .settled then store.principal payment else 0

def Store.settledPrincipal (store : Store) : Int :=
  (store.payments.rows.map store.settledPart).sum

/-- The settled principal is what has been taken off the total. -/
def Store.Conserves (store : Store) : Prop :=
  store.settledPrincipal = store.invoice.totalMinor - store.invoice.balanceMinor

/-! ## The quotation behind a payment -/

theorem quoteInput_of_terms {store next : Store} (same : next.terms = store.terms)
    (method : PaymentMethod) : quoteInput next method = quoteInput store method := by
  have rates : next.invoice.taxRateBpApplied = store.invoice.taxRateBpApplied :=
    congrArg InvoiceTerms.taxRateBp same
  have fees : next.invoice.cardFeeRateBpApplied = store.invoice.cardFeeRateBpApplied :=
    congrArg InvoiceTerms.cardFeeRateBp same
  have lines : next.lineItems = store.lineItems := congrArg InvoiceTerms.lineItems same
  unfold quoteInput
  rw [rates, fees, lines]

theorem principal_of_terms {store next : Store} (same : next.terms = store.terms) :
    next.principal = store.principal := by
  funext payment
  unfold Store.principal Store.quotedFee
  rw [quoteInput_of_terms same]

theorem settledPart_of_terms {store next : Store} (same : next.terms = store.terms) :
    next.settledPart = store.settledPart := by
  funext payment
  unfold Store.settledPart
  rw [principal_of_terms same]

theorem quotedFee_of_feeless (store : Store) {method : PaymentMethod}
    (feeless : incursCardFee method = false) : store.quotedFee method = 0 := by
  unfold Store.quotedFee
  cases quoted : calculate (quoteInput store method) with
  | error error => rfl
  | ok quote =>
      exact calculate_feeless quoted feeless

theorem principal_manualPayment (store : Store) (paymentId uuid : String)
    (input : RecordManualPaymentInput) (amountMinor : Int) :
    store.principal (InvoicesService.manualPayment store paymentId uuid input amountMinor) =
      amountMinor := by
  have feeless : incursCardFee input.method.toPaymentMethod = false := by
    cases input.method <;> rfl
  have free := quotedFee_of_feeless store feeless
  simp [Store.principal, InvoicesService.manualPayment, free]

/-- An attempt is charged the price of the lines with the fee on it, as a number; without the fee
something is left of it. -/
theorem principal_opened_pos {store : Store} {method : PaymentMethod} {attempt : OpenedAttempt}
    (opens : Opens store method attempt) (positive : 0 < store.worth) :
    0 < store.principal attempt.result.payment := by
  obtain ⟨quote, quoted, amount⟩ := opens.quoted
  have fee : store.quotedFee method = quote.cardFeeMinor := by
    unfold Store.quotedFee
    rw [quoted]
  rw [Store.principal, amount, opens.method, fee]
  cases card : incursCardFee method with
  | false =>
      have free : quote.cardFeeMinor = 0 := calculate_feeless quoted card
      rw [quote_uncharged quoted card, free]
      omega
  | true =>
      obtain ⟨_, _, safe, taken⟩ := applyBasisPoints_eq_ok.mp (quote_fee quoted card)
      rw [← taken, isSafeInteger_iff] at safe
      -- One more than the fee is a number, so no sum above it is rounded below it.
      have charge : quote.cardFeeMinor + 1 ≤ quote.totalMinor := by
        have exact_ : toNumber (quote.cardFeeMinor + 1) = quote.cardFeeMinor + 1 :=
          Doubles.round_of_natAbs_le (by omega)
        rw [← exact_, quote_charge quoted card, withFee, ← taken]
        exact toNumber_mono (by omega)
      omega

/-! ## What each kind of step does to the payments -/

theorem QuietStep.ledger {recorded : Option Int} {store next : Store}
    (step : QuietStep store recorded next) :
    (recorded = none ∧ next.payments.rows = store.payments.rows ∧
        next.invoice.balanceMinor = store.invoice.balanceMinor) ∨
      ∃ paymentId uuid input amountMinor, recorded = some amountMinor ∧
        next.payments.rows = store.payments.rows ++
          [InvoicesService.manualPayment store paymentId uuid input amountMinor] ∧
        next.invoice.balanceMinor = InvoicesService.newBalance store.invoice amountMinor ∧
        InvoicesService.Grants store.invoice amountMinor := by
  cases step with
  | kept _ same =>
      rw [same]
      exact .inl ⟨rfl, rfl, rfl⟩
  | issued => exact .inl ⟨rfl, rfl, rfl⟩
  | viewed => exact .inl ⟨rfl, rfl, rfl⟩
  | recorded paymentId uuid input amountMinor payments event _ granted rows same =>
      rw [same]
      exact .inr ⟨paymentId, uuid, input, amountMinor, rfl, rows, rfl, granted⟩
  | cancelled => exact .inl ⟨rfl, rfl, rfl⟩

def GatewayResult.update (result : GatewayResult) : PaymentUpdate :=
  resultUpdate result.status result.occurredAt result.declineReason

theorem apply_rows (store : Store) (result : GatewayResult) :
    (store.apply result).payments.rows = store.payments.rows.map fun payment =>
      if payment.id = result.payment.id then payment.apply result.update else payment := by
  simp [Store.apply, Store.resolve, PaymentTable.applyUpdate, GatewayResult.update]

/-- A gateway result moves the settled principal by what it does to its own payment. -/
theorem settledPrincipal_apply {store : Store} {result : GatewayResult}
    (about : About store result) :
    (store.apply result).settledPrincipal = store.settledPrincipal -
      store.settledPart result.payment +
        store.settledPart (result.payment.apply result.update) := by
  have distinct := store.payments.distinct (fun payment => some payment.id)
    (by simp [paymentIndexes])
  have moved := UniqueTable.sum_update distinct about.member rfl
    (fun payment => payment.apply result.update) store.settledPart
  unfold Store.settledPrincipal
  rw [settledPart_of_terms (terms_apply store result), apply_rows]
  simpa only [Option.some.injEq] using moved

/-! ## What every state keeps -/

/-- Where the lines are worth something, so is every attempt that reached the gateway, its fee
aside. -/
def Attempted (store : Store) : Prop :=
  0 < store.worth → ∀ payment ∈ store.payments.rows, payment.gatewayReference.isSome = true →
    0 < store.principal payment

theorem worth_of_terms {store next : Store} (same : next.terms = store.terms) :
    next.worth = store.worth := by
  have rates : next.invoice.taxRateBpApplied = store.invoice.taxRateBpApplied :=
    congrArg InvoiceTerms.taxRateBp same
  have lines : next.lineItems = store.lineItems := congrArg InvoiceTerms.lineItems same
  unfold Store.worth
  rw [rates, lines]

theorem Attempted.of_terms {store next : Store} (same : next.terms = store.terms)
    (rows : 0 < store.worth → ∀ payment ∈ next.payments.rows,
      payment.gatewayReference.isSome = true → 0 < store.principal payment) :
    Attempted next := by
  unfold Attempted
  rw [worth_of_terms same, principal_of_terms same]
  exact rows

theorem Attempted.attempting {store : Store} {method : PaymentMethod} {attempt : OpenedAttempt}
    (attempted : Attempted store) (opens : Opens store method attempt) :
    Attempted (store.attempting attempt.payments) := by
  apply Attempted.of_terms (terms_attempting store attempt.payments)
  intro positive payment member referenced
  simp only [Store.attempting, opens.rows] at member
  rcases List.mem_append.mp member with earlier | last
  · exact attempted positive payment earlier referenced
  · rw [List.mem_singleton.mp last]
    exact principal_opened_pos opens positive

theorem Attempted.quiet {recorded : Option Int} {store next : Store} (attempted : Attempted store)
    (step : QuietStep store recorded next) : Attempted next := by
  apply Attempted.of_terms step.terms
  rcases step.ledger with ⟨_, rows, _⟩ | ⟨paymentId, uuid, input, amountMinor, _, rows, _, _⟩
  · rw [rows]
    exact attempted
  · rw [rows]
    intro positive payment member referenced
    rcases List.mem_append.mp member with earlier | last
    · exact attempted positive payment earlier referenced
    · rw [List.mem_singleton.mp last] at referenced
      cases referenced

theorem Attempted.apply {store : Store} (attempted : Attempted store) (result : GatewayResult) :
    Attempted (store.apply result) := by
  apply Attempted.of_terms (terms_apply store result)
  intro positive payment member referenced
  rw [apply_rows] at member
  obtain ⟨row, rowMember, rfl⟩ := List.mem_map.mp member
  by_cases same : row.id = result.payment.id
  · simp only [same, if_true] at referenced ⊢
    exact attempted positive row rowMember referenced
  · simp only [same, if_false] at referenced ⊢
    exact attempted positive row rowMember referenced

theorem NativeReachable.attempted {π : Type} {env : Env} {store : Store}
    (reachable : NativeReachable π env store) : Attempted store := by
  refine reachable.invariant Attempted ?_ ?_ ?_ ?_
  · intro brand id publicToken input store created _ payment member
    rw [(InvoicesService.create_ok created).unpaid] at member
    cases member
  · intro store recorded next attempted step
    exact attempted.quiet step
  · intro store method attempt attempted opens
    exact attempted.attempting opens
  · intro store result attempted about
    exact attempted.apply result

/-! ## When the ledger is conserved -/

/-- The result pays for what is owed: a success meets an unsettled payment whose principal is the
balance, of an invoice SETTLE_FULL may start from, or a payment that was settled already and an
invoice it takes nothing more from; anything else meets an unsettled payment. -/
def PaysOwed (store : Store) (result : GatewayResult) : Prop :=
  if result.status = .succeeded then
    if result.payment.status = .settled then
      store.invoice.status ∈ allowed .settleFull → store.invoice.balanceMinor = 0
    else store.invoice.status ∈ allowed .settleFull ∧
      store.invoice.balanceMinor = store.principal result.payment
  else result.payment.status ≠ .settled

instance (store : Store) (result : GatewayResult) : Decidable (PaysOwed store result) := by
  unfold PaysOwed
  infer_instance

/-- The payment is within the balance, and the balance less it is a number. -/
def TakenOff (invoice : Invoice) (amountMinor : Int) : Prop :=
  amountMinor ≤ invoice.balanceMinor ∧ IsDouble (invoice.balanceMinor - amountMinor)

instance (invoice : Invoice) (amountMinor : Int) : Decidable (TakenOff invoice amountMinor) :=
  inferInstanceAs (Decidable (amountMinor ≤ invoice.balanceMinor ∧
    IsDouble (invoice.balanceMinor - amountMinor)))

/-- The settled principal is what was taken off the total, and no more than the total. -/
def Store.LedgerHolds (store : Store) : Prop :=
  store.Conserves ∧ store.settledPrincipal ≤ store.invoice.totalMinor

/-- A ledger that is conserved holds as long as no balance is negative. -/
theorem Store.Conserves.ledgerHolds_iff {store : Store} (conserves : store.Conserves) :
    store.LedgerHolds ↔ 0 ≤ store.invoice.balanceMinor := by
  unfold Store.LedgerHolds
  rw [and_iff_right conserves]
  unfold Store.Conserves at conserves
  omega

/-- One gateway result keeps the ledger exactly when it pays for what is owed. -/
theorem conserves_apply_iff {store : Store} {result : GatewayResult}
    (positive : 0 < store.principal result.payment) (about : About store result)
    (conserves : store.Conserves) : (store.apply result).Conserves ↔ PaysOwed store result := by
  have before : store.settledPart result.payment =
      if result.payment.status = .settled then store.principal result.payment else 0 := rfl
  have after : store.settledPart (result.payment.apply result.update) =
      if result.status = .succeeded then store.principal result.payment else 0 := by
    have same : store.principal (result.payment.apply result.update) =
        store.principal result.payment := rfl
    have settles : (result.payment.apply result.update).status = .settled ↔
        result.status = .succeeded := resultUpdate_settled
    simp only [Store.settledPart, same, settles]
  have total : (store.apply result).invoice.totalMinor = store.invoice.totalMinor :=
    congrArg InvoiceTerms.totalMinor (terms_apply store result)
  have moved := settledPrincipal_apply about
  unfold Store.Conserves at conserves ⊢
  unfold PaysOwed
  rw [moved, total, before, after]
  by_cases succeeded : result.status = .succeeded
  · have balance : (store.apply result).invoice.balanceMinor =
        if store.invoice.status ∈ allowed .settleFull then 0
        else store.invoice.balanceMinor := by
      have invoice : (store.apply result).invoice =
          store.invoice.afterSuccess result.occurredAt := by
        simp [Store.apply, Store.resolve, succeeded, Invoice.afterResult]
      rw [invoice, balance_afterSuccess]
    rw [balance]
    by_cases settled : result.payment.status = .settled
    · by_cases listed : store.invoice.status ∈ allowed .settleFull
      · simp only [succeeded, settled, listed, if_true, true_implies]
        omega
      · simp only [succeeded, settled, listed, if_true, if_false, false_implies, iff_true]
        omega
    · by_cases listed : store.invoice.status ∈ allowed .settleFull
      · simp only [succeeded, settled, listed, if_true, if_false, true_and]
        omega
      · simp only [succeeded, settled, listed, if_true, if_false, false_and, iff_false]
        omega
  · have balance : (store.apply result).invoice.balanceMinor = store.invoice.balanceMinor :=
      balance_afterResult_of_unsuccessful store.invoice succeeded result.occurredAt
    rw [balance]
    by_cases settled : result.payment.status = .settled
    · simp only [succeeded, settled, if_true, if_false, not_true, iff_false, ne_eq]
      omega
    · simp only [succeeded, settled, if_false, ne_eq, not_false_iff, iff_true]
      omega

/-- The balance a gateway result leaves is none or the one before it. -/
theorem nonneg_apply {store : Store} (result : GatewayResult)
    (nonneg : 0 ≤ store.invoice.balanceMinor) : 0 ≤ (store.apply result).invoice.balanceMinor := by
  by_cases succeeded : result.status = .succeeded
  · simp only [Store.apply, Store.resolve, Invoice.afterResult, succeeded, balance_afterSuccess]
    split
    · exact le_rfl
    · exact nonneg
  · have kept : (store.apply result).invoice.balanceMinor = store.invoice.balanceMinor :=
      balance_afterResult_of_unsuccessful store.invoice succeeded result.occurredAt
    rw [kept]
    exact nonneg

theorem ledgerHolds_apply_iff {store : Store} {result : GatewayResult}
    (positive : 0 < store.principal result.payment) (about : About store result)
    (holds : store.LedgerHolds) : (store.apply result).LedgerHolds ↔ PaysOwed store result := by
  have nonneg := holds.1.ledgerHolds_iff.mp holds
  rw [← conserves_apply_iff positive about holds.1]
  exact ⟨fun both => both.1,
    fun conserves => conserves.ledgerHolds_iff.mpr (nonneg_apply result nonneg)⟩

/-- A recorded payment keeps the ledger exactly when it is taken off the balance. -/
theorem ledgerHolds_quiet_iff {recorded : Option Int} {store next : Store}
    (double : IsDouble store.invoice.balanceMinor) (holds : store.LedgerHolds)
    (step : QuietStep store recorded next) :
    next.LedgerHolds ↔ ∀ amountMinor ∈ recorded, TakenOff store.invoice amountMinor := by
  have total : next.invoice.totalMinor = store.invoice.totalMinor :=
    congrArg InvoiceTerms.totalMinor step.terms
  obtain ⟨conserves, within⟩ := holds
  unfold Store.Conserves Store.settledPrincipal at conserves
  unfold Store.settledPrincipal at within
  unfold Store.LedgerHolds Store.Conserves Store.settledPrincipal
  rw [settledPart_of_terms step.terms, total]
  rcases step.ledger with
    ⟨rfl, rows, balance⟩ | ⟨paymentId, uuid, input, amountMinor, rfl, rows, balance, granted⟩
  · rw [rows, balance]
    exact iff_of_true ⟨conserves, within⟩ (by simp)
  · have part : store.settledPart
        (InvoicesService.manualPayment store paymentId uuid input amountMinor) = amountMinor := by
      have settled : (InvoicesService.manualPayment store paymentId uuid input amountMinor).status =
          .settled := rfl
      rw [Store.settledPart, if_pos settled, principal_manualPayment]
    have left_ : InvoicesService.newBalance store.invoice amountMinor =
        toNumber (store.invoice.balanceMinor - amountMinor) := by
      rw [InvoicesService.newBalance, double]
      rfl
    rw [rows, balance, left_, List.map_append, List.sum_append, List.map_singleton,
      List.sum_singleton, part]
    simp only [Option.mem_def, Option.some.injEq, forall_eq', TakenOff, IsDouble]
    omega

theorem conserves_attempting {store : Store} {method : PaymentMethod} {attempt : OpenedAttempt}
    (opens : Opens store method attempt) (holds : store.LedgerHolds) :
    (store.attempting attempt.payments).LedgerHolds := by
  have part : store.settledPart attempt.result.payment = 0 := by
    simp [Store.settledPart, opens.initiated]
  unfold Store.LedgerHolds Store.Conserves Store.settledPrincipal at *
  rw [settledPart_of_terms (terms_attempting store attempt.payments)]
  simp only [Store.attempting, opens.rows]
  rw [List.map_append, List.sum_append, List.map_singleton, List.sum_singleton, part]
  omega

def KeepsLedger {π : Type} (env : Env) (store : Store) (operation : NativeOperation π) : Prop :=
  operation.Applies env PaysOwed store ∧ operation.Records TakenOff store

instance {π : Type} (env : Env) (store : Store) (operation : NativeOperation π) :
    Decidable (KeepsLedger env store operation) :=
  inferInstanceAs (Decidable (operation.Applies env PaysOwed store ∧
    operation.Records TakenOff store))

theorem Dormant.result?_eq_none {π : Type} (env : Env) {store : Store} (dormant : Dormant store)
    (native : store.invoice.isPushed = false) (operation : NativeOperation π) :
    operation.result? env store = none := by
  rcases operation.perform_cases env store native with
    ⟨before, result, brings, resolves, done⟩ | ⟨brings, _⟩
  · cases resolves with
    | delivered _ about =>
        have absent := about.member
        rw [dormant.unpaid] at absent
        cases absent
    | attempted method attempt opens =>
        have closed := dormant.closed
        rw [opens.payable] at closed
        cases closed
  · exact brings

theorem perform_ledgerHolds_iff {π : Type} {env : Env} {store : Store}
    (operation : NativeOperation π) (reachable : NativeReachable π env store)
    (holds : store.LedgerHolds) :
    (operation.perform env store).LedgerHolds ↔ KeepsLedger env store operation := by
  rcases operation.perform_cases env store reachable.native with
    ⟨before, result, brings, resolves, done⟩ | ⟨brings, step⟩
  · have only : KeepsLedger env store operation ↔ PaysOwed before result := by
      have silent := NativeOperation.recorded?_eq_none_of_result env brings
      simp [KeepsLedger, NativeOperation.Applies, NativeOperation.Records, brings, silent]
    -- A result is about an attempt, which nothing worthless has.
    have positive : 0 < store.invoice.totalMinor := by
      by_contra worthless
      have idle := (reachable.dormant (not_lt.mp worthless)).result?_eq_none env
        reachable.native operation
      rw [brings] at idle
      cases idle
    have worth : 0 < store.worth := reachable.worth.symm ▸ positive
    have attempted := reachable.attempted
    rw [done, only]
    cases resolves with
    | delivered _ about =>
        exact ledgerHolds_apply_iff
          (attempted worth result.payment about.member about.referenced) about holds
    | attempted method attempt opens =>
        have about : About (store.attempting attempt.payments) attempt.result :=
          ⟨by simp [Store.attempting, opens.rows], opens.referenced⟩
        have same : (store.attempting attempt.payments).worth = store.worth :=
          worth_of_terms (terms_attempting store attempt.payments)
        exact ledgerHolds_apply_iff
          (attempted.attempting opens (same ▸ worth) _ about.member about.referenced) about
          (conserves_attempting opens holds)
  · have only : KeepsLedger env store operation ↔
        ∀ amountMinor ∈ operation.recorded? store, TakenOff store.invoice amountMinor := by
      simp [KeepsLedger, NativeOperation.Applies, NativeOperation.Records, brings]
    rw [only]
    exact ledgerHolds_quiet_iff reachable.doubles.2 holds step

/-- A payment that is not rounded is taken off the balance. -/
theorem takenOff_of_exactSums {invoice : Invoice} {amountMinor : Int}
    (granted : InvoicesService.Grants invoice amountMinor)
    (exact_ : InvoicesService.ExactSums invoice amountMinor) : TakenOff invoice amountMinor :=
  ⟨(exact_.grants_iff.mp granted).2.2, exact_.rest⟩

/-- In a run from a new invoice the ledger holds in every state exactly when the total is
not negative and every gateway result that is applied, and every payment that is recorded, pays
for what is owed.  On a safe total only the gateway results are to be looked at. -/
theorem ledger_holds_iff {π : Type} {env : Env} {brand : BrandRows} {id publicToken : String}
    {input : InvoiceDraftInput} {store : Store}
    (created : InvoicesService.create brand id publicToken input = .ok store)
    (operations : List (NativeOperation π)) :
    (Runs.Always (NativeOperation.perform env) Store.LedgerHolds operations store ↔
      0 ≤ store.invoice.totalMinor ∧
        Runs.Throughout (NativeOperation.perform env) (KeepsLedger env) operations store) ∧
      (isSafeInteger store.invoice.totalMinor = true →
        (Runs.Throughout (NativeOperation.perform env) (KeepsLedger env) operations store ↔
          Runs.Throughout (NativeOperation.perform env)
            (NativeOperation.Applies env PaysOwed) operations store)) := by
  have reachable : NativeReachable π env store := .created brand id publicToken input store created
  have new := InvoicesService.create_ok created
  have whole := new.whole
  have nothing : store.settledPrincipal = 0 := by
    simp [Store.settledPrincipal, new.unpaid]
  have start : store.LedgerHolds ↔ 0 ≤ store.invoice.totalMinor := by
    unfold Store.LedgerHolds Store.Conserves
    omega
  have run (holds : store.LedgerHolds) :
      Runs.Always (NativeOperation.perform env) Store.LedgerHolds operations store ↔
        Runs.Throughout (NativeOperation.perform env) (KeepsLedger env) operations store :=
    Runs.always_iff_throughout (NativeReachable π env)
      (fun next operation reached => .performed operation next reached)
      (fun next operation reached holds => perform_ledgerHolds_iff operation reached holds)
      reachable holds
  rw [← start]
  refine ⟨⟨fun always => ⟨always.first, (run always.first).mp always⟩,
    fun ⟨holds, pays⟩ => (run holds).mpr pays⟩, fun safe => ⟨?_, fun pays => ?_⟩⟩
  · exact Runs.Throughout.mono fun _ _ keeps => keeps.1
  · refine (pays.and (reachable.throughout_exact safe operations)).mono ?_
    exact fun _ _ both => ⟨both.1, both.2.of_granted fun _ => takenOff_of_exactSums⟩

def sampleOverpayment : List (NativeOperation GatewayWebhookEvent) :=
  [sampleIssue _, sampleAttempt "pi" .processing 1, samplePayment _ "m1" "40.00",
    sampleDelivery "pi" .paymentSucceeded 2]

theorem ledger_holds_iff_sample :
    (Runs.Always (NativeOperation.perform sampleEnv) Store.LedgerHolds sampleOverpayment
        sampleInvoice ↔
      0 ≤ sampleInvoice.invoice.totalMinor ∧
        Runs.Throughout (NativeOperation.perform sampleEnv) (KeepsLedger sampleEnv)
          sampleOverpayment sampleInvoice) ∧
      (isSafeInteger sampleInvoice.invoice.totalMinor = true →
        (Runs.Throughout (NativeOperation.perform sampleEnv) (KeepsLedger sampleEnv)
            sampleOverpayment sampleInvoice ↔
          Runs.Throughout (NativeOperation.perform sampleEnv)
            (NativeOperation.Applies sampleEnv PaysOwed) sampleOverpayment sampleInvoice)) :=
  ledger_holds_iff sampleInvoice_created sampleOverpayment

/-- 140.00 settled on an invoice over 100.00. -/
theorem ledger_overpaid :
    let final := NativeOperation.run sampleEnv sampleOverpayment sampleInvoice
    final.settledPrincipal = 14000 ∧ final.invoice.totalMinor = 10000 ∧
      final.invoice.balanceMinor = 0 ∧ ¬final.LedgerHolds := by
  refine ⟨by decide, by decide, by decide, ?_⟩
  rintro ⟨_, within⟩
  exact absurd within (by decide)

end MultiBrandInvoicing
