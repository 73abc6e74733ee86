import Mathlib.Data.List.Basic
import MultiBrandInvoicing.Money.Numbers

/-!
# The invoice state machine

`packages/shared/src/domain/invoice-status.ts`.  The guards take a context and
return a decision; nothing is stored here.  Below the definitions stands one
characterisation for each transition, which is how the services' proofs use them.
-/

set_option autoImplicit false

namespace MultiBrandInvoicing

inductive InvoiceStatus where
  | draft | sent | viewed | pendingPayment | partiallyPaid | paid | cancelled
  deriving DecidableEq, Repr

def InvoiceStatus.code : InvoiceStatus → String
  | .draft => "DRAFT"
  | .sent => "SENT"
  | .viewed => "VIEWED"
  | .pendingPayment => "PENDING_PAYMENT"
  | .partiallyPaid => "PARTIALLY_PAID"
  | .paid => "PAID"
  | .cancelled => "CANCELLED"

def terminalStatuses : List InvoiceStatus := [.paid, .cancelled]

def payableStatuses : List InvoiceStatus := [.sent, .viewed, .pendingPayment, .partiallyPaid]

def isTerminal (status : InvoiceStatus) : Bool := terminalStatuses.contains status

def isPayable (status : InvoiceStatus) : Bool := payableStatuses.contains status

inductive InvoiceTransition where
  | issue | firstView | initiatePayment | settlePartial | settleFull | paymentFailed | cancel
  | recordPayment
  deriving DecidableEq, Repr

def InvoiceTransition.code : InvoiceTransition → String
  | .issue => "ISSUE"
  | .firstView => "FIRST_VIEW"
  | .initiatePayment => "INITIATE_PAYMENT"
  | .settlePartial => "SETTLE_PARTIAL"
  | .settleFull => "SETTLE_FULL"
  | .paymentFailed => "PAYMENT_FAILED"
  | .cancel => "CANCEL"
  | .recordPayment => "RECORD_PAYMENT"

/-- `ALLOWED`: the statuses a transition may start from. -/
def allowed : InvoiceTransition → List InvoiceStatus
  | .issue => [.draft]
  | .firstView => [.sent]
  | .initiatePayment => [.sent, .viewed, .partiallyPaid, .pendingPayment]
  | .settlePartial => [.pendingPayment, .partiallyPaid]
  | .settleFull => [.pendingPayment, .partiallyPaid]
  | .paymentFailed => [.pendingPayment]
  | .cancel => [.draft, .sent, .viewed, .pendingPayment]
  | .recordPayment => [.sent, .viewed, .pendingPayment, .partiallyPaid]

structure TransitionContext where
  status : InvoiceStatus
  previousStatus : Option InvoiceStatus := none
  lineItemCount : Nat
  totalMinor : Int
  balanceMinor : Int
  settledMinor : Int
  customerHasDeliverableEmail : Bool
  deriving DecidableEq, Repr

inductive TransitionFailure where
  | illegalFromStatus | noLineItems | nonPositiveTotal | noDeliverableEmail | alreadySettled
  | balanceNotCleared | balanceAlreadyCleared | settledPaymentExists | noPreviousStatus
  | exceedsBalance
  deriving DecidableEq, Repr

inductive TransitionResult where
  | ok (target : InvoiceStatus)
  | refused (code : TransitionFailure) (message : String)
  deriving DecidableEq, Repr

def transitionGuards (transition : InvoiceTransition) (context : TransitionContext) :
    TransitionResult :=
  match transition with
  | .issue =>
      if context.lineItemCount < 1 then
        .refused .noLineItems "an invoice must carry at least one line item to issue"
      else if context.totalMinor ≤ 0 then
        .refused .nonPositiveTotal "invoice total must be positive to issue"
      else if !context.customerHasDeliverableEmail then
        .refused .noDeliverableEmail "the customer has no deliverable email address"
      else .ok .sent
  | .firstView => .ok .viewed
  | .initiatePayment =>
      if context.balanceMinor ≤ 0 then
        .refused .alreadySettled "the invoice balance is already cleared"
      else .ok .pendingPayment
  | .settlePartial =>
      if context.settledMinor ≤ 0 then
        .refused .balanceNotCleared "a partial settlement must be a positive amount"
      else if context.totalMinor ≤ context.settledMinor then
        .refused .balanceAlreadyCleared
          "cumulative settlement clears the invoice — use SETTLE_FULL"
      else .ok .partiallyPaid
  | .settleFull =>
      if context.settledMinor < context.totalMinor then
        .refused .balanceNotCleared
          "cumulative settlement does not cover the total — use SETTLE_PARTIAL"
      else .ok .paid
  | .paymentFailed =>
      match context.previousStatus with
      | none => .refused .noPreviousStatus "no prior status recorded to return to"
      | some previous =>
          if previous = .pendingPayment then
            .refused .noPreviousStatus "no prior status recorded to return to"
          else .ok previous
  | .cancel =>
      if 0 < context.settledMinor then
        .refused .settledPaymentExists "an invoice with a settled payment cannot be cancelled"
      else .ok .cancelled
  | .recordPayment =>
      if context.settledMinor ≤ subtractNumbers context.totalMinor context.balanceMinor then
        .refused .balanceNotCleared "a recorded payment must be a positive amount"
      else if context.totalMinor < context.settledMinor then
        .refused .exceedsBalance "the payment is more than the balance due"
      else if context.settledMinor = context.totalMinor then .ok .paid
      else .ok .partiallyPaid

def evaluateTransition (transition : InvoiceTransition) (context : TransitionContext) :
    TransitionResult :=
  if !(allowed transition).contains context.status then
    .refused .illegalFromStatus
      s!"{transition.code} is not permitted from {context.status.code}"
  else transitionGuards transition context

section Characterisations

variable {context : TransitionContext} {target : InvoiceStatus}

theorem evaluateTransition_ok_iff {transition : InvoiceTransition} :
    evaluateTransition transition context = .ok target ↔
      context.status ∈ allowed transition ∧ transitionGuards transition context = .ok target := by
  by_cases listed : context.status ∈ allowed transition <;>
    simp [evaluateTransition, listed]

theorem issue_ok_iff :
    evaluateTransition .issue context = .ok target ↔
      context.status = .draft ∧ 0 < context.lineItemCount ∧ 0 < context.totalMinor ∧
        context.customerHasDeliverableEmail = true ∧ target = .sent := by
  rw [evaluateTransition_ok_iff]
  simp only [allowed, transitionGuards, List.mem_singleton]
  split <;> rename_i lines
  · simp only [reduceCtorEq, and_false, false_iff]
    omega
  split <;> rename_i total
  · simp only [reduceCtorEq, and_false, false_iff]
    omega
  split <;> rename_i email
  · simp only [reduceCtorEq, and_false, false_iff]
    simp_all
  · have some_ : 0 < context.lineItemCount := by omega
    have positive : 0 < context.totalMinor := by omega
    simp_all [@eq_comm _ target]

theorem firstView_ok_iff :
    evaluateTransition .firstView context = .ok target ↔
      context.status = .sent ∧ target = .viewed := by
  rw [evaluateTransition_ok_iff]
  simp [allowed, transitionGuards, @eq_comm _ target]

theorem initiatePayment_ok_iff :
    evaluateTransition .initiatePayment context = .ok target ↔
      isPayable context.status = true ∧ 0 < context.balanceMinor ∧
        target = .pendingPayment := by
  have table : context.status ∈ allowed .initiatePayment ↔ isPayable context.status = true := by
    cases context.status <;> decide
  rw [evaluateTransition_ok_iff, table]
  simp only [transitionGuards]
  split <;> rename_i cleared
  · simp only [reduceCtorEq, and_false, false_iff]
    omega
  · have owing : 0 < context.balanceMinor := by omega
    simp [owing, @eq_comm _ target]

theorem settleFull_ok_iff :
    evaluateTransition .settleFull context = .ok target ↔
      (context.status = .pendingPayment ∨ context.status = .partiallyPaid) ∧
        context.totalMinor ≤ context.settledMinor ∧ target = .paid := by
  rw [evaluateTransition_ok_iff]
  simp only [allowed, transitionGuards, List.mem_cons, List.not_mem_nil, or_false]
  split <;> rename_i short
  · simp only [reduceCtorEq, and_false, false_iff]
    omega
  · have covered : context.totalMinor ≤ context.settledMinor := by omega
    simp [covered, @eq_comm _ target]

theorem paymentFailed_ok_iff :
    evaluateTransition .paymentFailed context = .ok target ↔
      context.status = .pendingPayment ∧ context.previousStatus = some target ∧
        target ≠ .pendingPayment := by
  rw [evaluateTransition_ok_iff]
  simp only [allowed, transitionGuards, List.mem_singleton]
  cases previous : context.previousStatus with
  | none => simp
  | some earlier =>
      by_cases pending : earlier = .pendingPayment
      · simp only [pending, if_true, reduceCtorEq, and_false, false_iff, Option.some.injEq]
        rintro ⟨_, rfl, different⟩
        exact different rfl
      · simp only [pending, if_false, TransitionResult.ok.injEq, Option.some.injEq]
        constructor
        · rintro ⟨status, rfl⟩
          exact ⟨status, rfl, pending⟩
        · rintro ⟨status, rfl, _⟩
          exact ⟨status, rfl⟩

theorem cancel_ok_iff :
    evaluateTransition .cancel context = .ok target ↔
      context.status ∈ allowed .cancel ∧ context.settledMinor ≤ 0 ∧ target = .cancelled := by
  rw [evaluateTransition_ok_iff]
  simp only [transitionGuards]
  split <;> rename_i settled
  · simp only [reduceCtorEq, and_false, false_iff]
    omega
  · have unsettled : context.settledMinor ≤ 0 := by omega
    simp [unsettled, @eq_comm _ target]

theorem recordPayment_ok_iff :
    evaluateTransition .recordPayment context = .ok target ↔
      isPayable context.status = true ∧
        subtractNumbers context.totalMinor context.balanceMinor < context.settledMinor ∧
        context.settledMinor ≤ context.totalMinor ∧
        target = if context.settledMinor = context.totalMinor then .paid else .partiallyPaid := by
  have table : context.status ∈ allowed .recordPayment ↔ isPayable context.status = true := by
    cases context.status <;> decide
  rw [evaluateTransition_ok_iff, table]
  simp only [transitionGuards]
  split <;> rename_i low
  · simp only [reduceCtorEq, and_false, false_iff]
    omega
  split <;> rename_i high
  · simp only [reduceCtorEq, and_false, false_iff]
    omega
  · have positive : subtractNumbers context.totalMinor context.balanceMinor <
        context.settledMinor := by omega
    have within : context.settledMinor ≤ context.totalMinor := by omega
    split <;> simp [positive, within, @eq_comm _ target]

end Characterisations

end MultiBrandInvoicing
