import MultiBrandInvoicing.Lifecycle.Charge
import MultiBrandInvoicing.Services.PublicInvoices

/-!
# What the payer is shown and what is charged

`apps/payment/src/app/i/[token]/page.tsx` and `payment-form.tsx`.  The page prices a
method from the amounts in the public view, `createIntent` from the stored lines.  The
form wants the two to agree to the minor unit.
-/

set_option autoImplicit false

namespace MultiBrandInvoicing

open ReadCommitted PaymentsService

namespace PaymentPage

def terminalStatusLabel : InvoiceStatus → Option String
  | .paid => some "This invoice has been paid."
  | .cancelled => some "This invoice was cancelled."
  | _ => none

/-- The page shows the payment form. -/
def offersPayment (invoice : PublicInvoiceView) : Bool :=
  (terminalStatusLabel invoice.status).isNone && isPayable invoice.status

def availableMethods (invoice : PublicInvoiceView) : List PaymentMethod :=
  let enabled := invoice.enabledMethods
  let candidates := [
    (PaymentMethod.card, enabled.card),
    (PaymentMethod.ach, enabled.ach),
    (PaymentMethod.wallet, enabled.applePay || enabled.googlePay),
    (PaymentMethod.check, enabled.check)]
  (candidates.filter fun candidate => candidate.2).map fun candidate => candidate.1

def quotedTotalFor (invoice : PublicInvoiceView) (method : PaymentMethod) :
    Except MoneyError Int :=
  if incursCardFee method then do
    let preFee := addNumbers invoice.subtotalMinor invoice.taxMinor
    let feeMinor ← applyBasisPoints preFee invoice.cardFeeRateBp
    return addNumbers preFee feeMinor
  else .ok invoice.balanceMinor

end PaymentPage

open PaymentPage

/-- The subtotal and the tax as the page adds them. -/
def Store.preFeeTotal (store : Store) : Int :=
  addNumbers (toNumber store.invoice.subtotalMinor) (toNumber store.invoice.taxMinor)

/-- The stored amounts the page prices a method from come to what the lines do.  Beyond the safe
range the fee may make two prices the same number. -/
def QuoteHolds (store : Store) (method : PaymentMethod) : Prop :=
  let rateBp := store.invoice.cardFeeRateBpApplied
  if incursCardFee method then
    store.worth = store.preFeeTotal ∨
      store.worth ≠ store.preFeeTotal ∧
        (applyBasisPoints store.preFeeTotal rateBp).isOk = true ∧
        toNumber (withFee store.worth rateBp) = toNumber (withFee store.preFeeTotal rateBp)
  else store.worth = toNumber store.invoice.balanceMinor

theorem quotedTotalFor_fee {store : Store} {method : PaymentMethod} {amountMinor : Int}
    (card : incursCardFee method = true) (status : InvoiceStatus)
    (stripeAccountId : Option String) (lines : List PublicInvoiceLine) :
    quotedTotalFor (PublicInvoicesService.publicView store status stripeAccountId lines) method =
        .ok amountMinor ↔
      (applyBasisPoints store.preFeeTotal store.invoice.cardFeeRateBpApplied).isOk = true ∧
        amountMinor = toNumber (withFee store.preFeeTotal store.invoice.cardFeeRateBpApplied) := by
  have priced : quotedTotalFor
      (PublicInvoicesService.publicView store status stripeAccountId lines) method =
        (applyBasisPoints store.preFeeTotal store.invoice.cardFeeRateBpApplied >>= fun feeMinor =>
          .ok (addNumbers store.preFeeTotal feeMinor)) := by
    rw [quotedTotalFor, if_pos card]
    rfl
  rw [priced]
  cases taken : applyBasisPoints store.preFeeTotal store.invoice.cardFeeRateBpApplied with
  | error error => simp [Except.isOk, Except.toBool, Bind.bind, Except.bind]
  | ok feeMinor =>
      have added : addNumbers store.preFeeTotal feeMinor =
          toNumber (withFee store.preFeeTotal store.invoice.cardFeeRateBpApplied) := by
        rw [(applyBasisPoints_ok taken).2]
        rfl
      simp [Except.isOk, Except.toBool, Bind.bind, Except.bind, added, eq_comm]

/-- The page's price is the server's exactly when the stored amounts it is made of come to
what the lines do. -/
theorem quotedTotalFor_iff {store : Store} {method : PaymentMethod} {quote : CalculationResult}
    (quoted : calculate (quoteInput store method) = .ok quote) (status : InvoiceStatus)
    (stripeAccountId : Option String) (lines : List PublicInvoiceLine) :
    quotedTotalFor (PublicInvoicesService.publicView store status stripeAccountId lines) method =
        .ok quote.totalMinor ↔ QuoteHolds store method := by
  unfold QuoteHolds
  cases card : incursCardFee method with
  | false =>
      rw [quotedTotalFor, card, quote_uncharged quoted card]
      simp only [Bool.false_eq_true, if_false, Except.ok.injEq]
      exact eq_comm
  | true =>
      have charged := quote_fee quoted card
      rw [quotedTotalFor_fee card, quote_charge quoted card]
      simp only [if_true]
      constructor
      · rintro ⟨taken, same⟩
        by_cases whole : store.worth = store.preFeeTotal
        · exact .inl whole
        · exact .inr ⟨whole, taken, same⟩
      · rintro (whole | ⟨_, taken, same⟩)
        · rw [← whole, charged]
          exact ⟨rfl, rfl⟩
        · exact ⟨taken, same⟩

/-- Where the amount charged is a safe integer, only the same price will do. -/
theorem quoteHolds_of_safe {store : Store} {method : PaymentMethod} {quote : CalculationResult}
    (quoted : calculate (quoteInput store method) = .ok quote)
    (safe : isSafeInteger quote.totalMinor = true) (card : incursCardFee method = true) :
    QuoteHolds store method ↔ store.worth = store.preFeeTotal := by
  rw [quote_charge quoted card, isSafeInteger_toNumber] at safe
  simp only [QuoteHolds, card, if_true, or_iff_left_iff_imp, and_imp]
  intro _ _ same
  have safePage := safe
  rw [← isSafeInteger_toNumber, same, isSafeInteger_toNumber] at safePage
  rw [toNumber_of_safe safe, toNumber_of_safe safePage] at same
  exact withFee_injective (calculate_eq_ok.mp quoted).1.cardFeeRate same

/-! ## Native invoices -/

theorem preFeeTotal_apply (store : Store) (result : GatewayResult) :
    (store.apply result).preFeeTotal = store.preFeeTotal := by
  cases status : result.status <;>
    simp only [Store.preFeeTotal, Store.apply, Store.resolve, Invoice.afterResult,
      Invoice.afterSuccess, Invoice.afterDecline, status] <;>
    split <;> rfl

theorem QuietStep.preFeeTotal {recorded : Option Int} {store next : Store}
    (step : QuietStep store recorded next) : next.preFeeTotal = store.preFeeTotal := by
  cases step with
  | kept _ same => rw [same]; rfl
  | issued => rfl
  | viewed => rfl
  | recorded paymentId uuid input amountMinor payments event _ granted rows same =>
      rw [same]; rfl
  | cancelled => rfl

/-- The stored subtotal and tax of a native invoice are added to its total. -/
theorem NativeReachable.summed {π : Type} {env : Env} {store : Store}
    (reachable : NativeReachable π env store) : store.preFeeTotal = store.invoice.totalMinor := by
  refine reachable.invariant (fun store => store.preFeeTotal = store.invoice.totalMinor) ?_ ?_ ?_ ?_
  · intro brand id publicToken input store created
    have new := InvoicesService.create_ok created
    rw [Store.preFeeTotal, toNumber_of_safe new.safeSums.1, toNumber_of_safe new.safeSums.2,
      new.summed]
  · intro store recorded next summed step
    have total : next.invoice.totalMinor = store.invoice.totalMinor :=
      congrArg InvoiceTerms.totalMinor step.terms
    rw [step.preFeeTotal, total, summed]
  · intro store method attempt summed opens
    exact summed
  · intro store result summed about
    have total : (store.apply result).invoice.totalMinor = store.invoice.totalMinor :=
      congrArg InvoiceTerms.totalMinor (terms_apply store result)
    rw [preFeeTotal_apply, total, summed]

/-! ## The quote and the charge -/

/-- The page quotes what an attempt charges exactly when the stored amounts come to what
the lines do: on a native invoice always for a method with a card fee, and for the others
while nothing has been paid. -/
theorem quotes_charge_iff {π : Type} (env : Env) (gateway : PaymentGatewayPort π) (store : Store)
    (paymentId : String) (scope : PublicScope) (method : PaymentMethod) (attemptNonce : String)
    (status : InvoiceStatus) (stripeAccountId : Option String) (lines : List PublicInvoiceLine)
    {amountMinor : Int}
    (charged : Charged env gateway store paymentId scope method attemptNonce amountMinor) :
    (quotedTotalFor (PublicInvoicesService.publicView store status stripeAccountId lines) method =
        .ok amountMinor ↔ QuoteHolds store method) ∧
      (isSafeInteger amountMinor = true → incursCardFee method = true →
        (QuoteHolds store method ↔ store.worth = store.preFeeTotal)) ∧
      (NativeReachable π env store →
        (quotedTotalFor (PublicInvoicesService.publicView store status stripeAccountId lines)
            method = .ok amountMinor ↔
          incursCardFee method = true ∨
            store.invoice.balanceMinor = store.invoice.totalMinor)) := by
  obtain ⟨quote, quoted, rfl⟩ := charged.quoted
  have right := quotedTotalFor_iff quoted status stripeAccountId lines
  refine ⟨right, quoteHolds_of_safe quoted, ?_⟩
  intro reachable
  have worth := reachable.worth
  have summed := reachable.summed
  have balance : toNumber store.invoice.balanceMinor = store.invoice.balanceMinor :=
    reachable.doubles.2
  rw [right, QuoteHolds]
  cases incursCardFee method with
  | true => simp [worth, summed]
  | false => simp [worth, balance, eq_comm]

def sampleView (store : Store) : PublicInvoiceView :=
  PublicInvoicesService.publicView store store.invoice.status (some "account") []

theorem quotes_charge_iff_sample :
    (quotedTotalFor (sampleView samplePartlyPaid) .ach = .ok 10000 ↔
        QuoteHolds samplePartlyPaid .ach) ∧
      (isSafeInteger 10000 = true → incursCardFee .ach = true →
        (QuoteHolds samplePartlyPaid .ach ↔
          samplePartlyPaid.worth = samplePartlyPaid.preFeeTotal)) ∧
      (NativeReachable GatewayWebhookEvent sampleEnv samplePartlyPaid →
        (quotedTotalFor (sampleView samplePartlyPaid) .ach = .ok 10000 ↔
          incursCardFee .ach = true ∨
            samplePartlyPaid.invoice.balanceMinor = samplePartlyPaid.invoice.totalMinor)) :=
  quotes_charge_iff _ _ _ _ _ _ _ _ _ _ sampleCharged

/-- With 60.00 left to pay the button says 60.00 and the gateway is asked for 100.00. -/
theorem quoted_balance_charged_total :
    NativeReachable GatewayWebhookEvent sampleEnv samplePartlyPaid ∧
      offersPayment (sampleView samplePartlyPaid) = true ∧
      PaymentMethod.ach ∈ availableMethods (sampleView samplePartlyPaid) ∧
      Charged sampleEnv (sampleGateway "pi" .processing 0) samplePartlyPaid "pay" samplePayer .ach
        "nonce" 10000 ∧
      quotedTotalFor (sampleView samplePartlyPaid) .ach = .ok 6000 :=
  ⟨(sampleInvoice_reachable _).run _, by decide, by decide, sampleCharged, rfl⟩

end MultiBrandInvoicing
