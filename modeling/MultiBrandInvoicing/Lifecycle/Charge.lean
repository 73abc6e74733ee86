import MultiBrandInvoicing.Lifecycle.Reachability

/-!
# What the gateway is asked to charge

`createIntent` prices the stored lines again and never looks at what has been paid, so
the charge is what is owed exactly when the lines still come to the balance.
-/

set_option autoImplicit false

namespace MultiBrandInvoicing

open ReadCommitted PaymentsService

/-- The amount is what the invoice owes by this method, the card fee on the balance
included, and it is something. -/
def ChargesOwed (store : Store) (method : PaymentMethod) (amountMinor : Int) : Prop :=
  0 < amountMinor ∧
    if incursCardFee method then
      ∃ feeMinor, applyBasisPoints store.invoice.balanceMinor
          store.invoice.cardFeeRateBpApplied = .ok feeMinor ∧
        amountMinor = store.invoice.balanceMinor + feeMinor
    else amountMinor = store.invoice.balanceMinor

/-- A price of the lines that is charged as what is owed.  It is the balance, and the sum with the
card fee is a number; beyond the safe range a sum with the fee on another price may be rounded to
the one owed. -/
def ComesToOwed (store : Store) (method : PaymentMethod) (price : Int) : Prop :=
  let balanceMinor := store.invoice.balanceMinor
  let rateBp := store.invoice.cardFeeRateBpApplied
  if incursCardFee method then
    price = balanceMinor ∧ IsDouble (withFee balanceMinor rateBp) ∨
      price ≠ balanceMinor ∧ (applyBasisPoints balanceMinor rateBp).isOk = true ∧
        toNumber (withFee price rateBp) = withFee balanceMinor rateBp
  else price = balanceMinor

/-- A fee that can be taken of the balance makes it up to its price with the fee. -/
theorem owed_iff {balanceMinor rateBp amountMinor : Int} :
    (∃ feeMinor, applyBasisPoints balanceMinor rateBp = .ok feeMinor ∧
        amountMinor = balanceMinor + feeMinor) ↔
      (applyBasisPoints balanceMinor rateBp).isOk = true ∧
        amountMinor = withFee balanceMinor rateBp := by
  cases taken : applyBasisPoints balanceMinor rateBp with
  | error error => simp [Except.isOk, Except.toBool]
  | ok feeMinor =>
      have fee := (applyBasisPoints_ok taken).2
      simp [Except.isOk, Except.toBool, withFee, ← fee]

/-- A quotation for a method is what is owed when the lines come to it, and only then. -/
theorem chargesOwed_quote {store : Store} {method : PaymentMethod} {quote : CalculationResult}
    (quoted : calculate (quoteInput store method) = .ok quote)
    (owing : 0 < store.invoice.balanceMinor) :
    ChargesOwed store method quote.totalMinor ↔ ComesToOwed store method store.worth := by
  unfold ChargesOwed ComesToOwed
  cases card : incursCardFee method with
  | false =>
      simp only [quote_uncharged quoted card, Bool.false_eq_true, if_false]
      omega
  | true =>
      have charged := quote_fee quoted card
      have rate := (applyBasisPoints_ok charged).1
      have feeNonneg := HalfAway.quotient_nonneg (d := basisPointsScale) (by decide)
        (Int.mul_nonneg owing.le rate)
      have positive : 0 < withFee store.invoice.balanceMinor
          store.invoice.cardFeeRateBpApplied := by
        unfold withFee
        omega
      simp only [if_true, owed_iff, quote_charge quoted card]
      constructor
      · rintro ⟨_, taken, same⟩
        by_cases whole : store.worth = store.invoice.balanceMinor
        · exact .inl ⟨whole, by rwa [whole] at same⟩
        · exact .inr ⟨whole, taken, same⟩
      · rintro (⟨whole, double⟩ | ⟨_, taken, same⟩)
        · have same : toNumber (withFee store.worth store.invoice.cardFeeRateBpApplied) =
              withFee store.invoice.balanceMinor store.invoice.cardFeeRateBpApplied := by
            rw [whole]
            exact double
          refine ⟨by omega, ?_, same⟩
          rw [← whole, charged]
          rfl
        · exact ⟨by omega, taken, same⟩

/-- Where the amount charged is a safe integer, nothing but the balance will do. -/
theorem comesToOwed_of_safe {store : Store} {method : PaymentMethod} {quote : CalculationResult}
    (quoted : calculate (quoteInput store method) = .ok quote)
    (safe : isSafeInteger quote.totalMinor = true) :
    ComesToOwed store method store.worth ↔ store.worth = store.invoice.balanceMinor := by
  unfold ComesToOwed
  cases card : incursCardFee method with
  | false => simp
  | true =>
      rw [quote_charge quoted card, isSafeInteger_toNumber] at safe
      simp only [if_true]
      constructor
      · rintro (⟨whole, _⟩ | ⟨_, _, same⟩)
        · exact whole
        · rw [toNumber_of_safe safe] at same
          exact withFee_injective (calculate_eq_ok.mp quoted).1.cardFeeRate same
      · intro whole
        exact .inl ⟨whole, whole ▸ isDouble_of_safe safe⟩

section Attempts

variable {π : Type} (env : Env) (gateway : PaymentGatewayPort π) (store : Store)
  (paymentId : String) (scope : PublicScope) (method : PaymentMethod) (attemptNonce : String)

/-- The amounts of the attempt a `createIntent` opens: what it asks the gateway for and
what stands in the row it adds. -/
inductive Charged : Int → Prop where
  | call (input : CreateIntentInput)
      (called : .gatewayCreateIntent input ∈
        ((createIntent env gateway paymentId scope method attemptNonce).exec store).announced) :
      Charged input.amountMinor
  | row (payment : Payment)
      (added : payment ∈
        ((createIntent env gateway paymentId scope method attemptNonce).exec
          store).store.payments.rows)
      (fresh : payment ∉ store.payments.rows) : Charged payment.amountMinor

theorem added_row {payment : Payment}
    (added : payment ∈
      ((createIntent env gateway paymentId scope method attemptNonce).exec
        store).store.payments.rows)
    (fresh : payment ∉ store.payments.rows) :
    ∃ attempt, attempt? env gateway store paymentId scope method attemptNonce = some attempt ∧
      payment.amountMinor = attempt.result.payment.amountMinor := by
  rw [createIntent_store] at added
  cases opened : attempt? env gateway store paymentId scope method attemptNonce with
  | none =>
      rw [opened] at added
      exact absurd added fresh
  | some attempt =>
      have opens := attempt?_opens env gateway opened
      rw [opened] at added
      simp only [afterAttempt, Store.apply, Store.resolve, Store.attempting,
        PaymentTable.applyUpdate, UniqueTable.modify_rows, List.mem_map] at added
      obtain ⟨row, member, rfl⟩ := added
      refine ⟨attempt, rfl, ?_⟩
      by_cases same : row.id = attempt.result.payment.id
      · have only : row = attempt.result.payment :=
          UniqueTable.eq_of_index
            (attempt.payments.distinct (fun payment => some payment.id) (by simp [paymentIndexes]))
            member (by simp [opens.rows]) (congrArg some same) rfl
        simp [only, Payment.apply]
      · rw [opens.rows] at member
        simp only [same, decide_false, Bool.false_eq_true, if_false] at fresh
        rcases List.mem_append.mp member with earlier | last
        · exact absurd earlier fresh
        · exact absurd (congrArg Payment.id (List.mem_singleton.mp last)) same

theorem Charged.owing {amountMinor : Int}
    (charged : Charged env gateway store paymentId scope method attemptNonce amountMinor) :
    0 < store.invoice.balanceMinor := by
  cases charged with
  | call input called => exact (createIntent_calls env gateway called).2.1
  | row payment added fresh =>
      obtain ⟨attempt, opened, _⟩ :=
        added_row env gateway store paymentId scope method attemptNonce added fresh
      exact (attempt?_opens env gateway opened).owing

/-- Every amount an attempt charges is a quotation of the stored lines. -/
theorem Charged.quoted {amountMinor : Int}
    (charged : Charged env gateway store paymentId scope method attemptNonce amountMinor) :
    ∃ quote, calculate (quoteInput store method) = .ok quote ∧ amountMinor = quote.totalMinor := by
  cases charged with
  | call input called =>
      obtain ⟨_, _, _, quote, quoted, same, _⟩ := createIntent_calls env gateway called
      exact ⟨quote, quoted, same⟩
  | row payment added fresh =>
      obtain ⟨attempt, opened, same⟩ :=
        added_row env gateway store paymentId scope method attemptNonce added fresh
      obtain ⟨quote, quoted, amount⟩ := (attempt?_opens env gateway opened).quoted
      exact ⟨quote, quoted, same.trans amount⟩

end Attempts

def samplePartlyPaid : Store :=
  NativeOperation.run sampleEnv
    [sampleIssue GatewayWebhookEvent, samplePayment GatewayWebhookEvent "m1" "40.00"] sampleInvoice

theorem sampleCharged :
    Charged sampleEnv (sampleGateway "pi" .processing 0) samplePartlyPaid "pay" samplePayer .ach
      "nonce" 10000 :=
  .call (intentInput sampleEnv samplePartlyPaid .ach 10000 "invoice:10000:nonce") (by decide)

/-- An attempt charges what is owed exactly when the stored lines come to it: as long as the amount
is a safe integer, when they come to the balance.  On a native invoice the lines come to the total,
and without lines nothing owed is ever charged. -/
theorem charges_owed_iff {π : Type} (env : Env) (gateway : PaymentGatewayPort π) (store : Store)
    (paymentId : String) (scope : PublicScope) (method : PaymentMethod) (attemptNonce : String)
    {amountMinor : Int}
    (charged : Charged env gateway store paymentId scope method attemptNonce amountMinor) :
    (ChargesOwed store method amountMinor ↔ ComesToOwed store method store.worth) ∧
      (isSafeInteger amountMinor = true →
        (ChargesOwed store method amountMinor ↔ store.worth = store.invoice.balanceMinor)) ∧
      (NativeReachable π env store → store.worth = store.invoice.totalMinor) ∧
      (store.lineItems = [] → ¬ChargesOwed store method amountMinor) := by
  obtain ⟨quote, quoted, rfl⟩ := charged.quoted
  have owing := charged.owing
  refine ⟨chargesOwed_quote quoted owing, ?_, fun reachable => reachable.worth, ?_⟩
  · intro safe
    rw [chargesOwed_quote quoted owing, comesToOwed_of_safe quoted safe]
  · intro bare owed
    have nothing : store.worth = 0 := by simp [Store.worth, bare]
    have positive : 0 < quote.totalMinor := owed.1
    have charge : quote.totalMinor = 0 := by
      cases card : incursCardFee method with
      | false => exact (quote_uncharged quoted card).trans nothing
      | true => rw [quote_charge quoted card, nothing, withFee_zero, toNumber_zero]
    omega

theorem charges_owed_iff_sample :
    (ChargesOwed samplePartlyPaid .ach 10000 ↔
        ComesToOwed samplePartlyPaid .ach samplePartlyPaid.worth) ∧
      (isSafeInteger 10000 = true →
        (ChargesOwed samplePartlyPaid .ach 10000 ↔
          samplePartlyPaid.worth = samplePartlyPaid.invoice.balanceMinor)) ∧
      (NativeReachable GatewayWebhookEvent sampleEnv samplePartlyPaid →
        samplePartlyPaid.worth = samplePartlyPaid.invoice.totalMinor) ∧
      (samplePartlyPaid.lineItems = [] → ¬ChargesOwed samplePartlyPaid .ach 10000) :=
  charges_owed_iff _ _ _ _ _ _ _ sampleCharged

/-- With 60.00 left to pay the gateway is asked for 100.00. -/
theorem charges_total_after_partial_payment :
    NativeReachable GatewayWebhookEvent sampleEnv samplePartlyPaid ∧
      samplePartlyPaid.invoice.balanceMinor = 6000 ∧
      Charged sampleEnv (sampleGateway "pi" .processing 0) samplePartlyPaid "pay" samplePayer .ach
        "nonce" 10000 ∧
      ¬ChargesOwed samplePartlyPaid .ach 10000 := by
  refine ⟨(sampleInvoice_reachable _).run _, rfl, sampleCharged, ?_⟩
  intro owed
  have balance : (10000 : Int) = samplePartlyPaid.invoice.balanceMinor := owed.2
  exact absurd balance (by decide)

end MultiBrandInvoicing
