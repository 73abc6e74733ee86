import MultiBrandInvoicing.Lifecycle.Ordering

/-!
# Where declines lead back to

`previousStatus` is one slot.  An attempt started while another is open writes
PENDING_PAYMENT into it, and then no decline finds a status to return to.
-/

set_option autoImplicit false

namespace MultiBrandInvoicing

open ReadCommitted PaymentsService

inductive AttemptOperation (π : Type) where
  | start (gateway : PaymentGatewayPort π) (paymentId : String) (scope : PublicScope)
      (method : PaymentMethod) (attemptNonce : String)
  | report (news : GatewayReport π)

namespace AttemptOperation

variable {π : Type} (env : Env)

def operation : AttemptOperation π → NativeOperation π
  | start gateway paymentId scope method attemptNonce =>
      .createIntent gateway paymentId scope method attemptNonce
  | report news => news.operation

def perform (store : Store) (operation : AttemptOperation π) : Store :=
  operation.operation.perform env store

def opened? (store : Store) : AttemptOperation π → Option OpenedAttempt
  | start gateway paymentId scope method attemptNonce =>
      attempt? env gateway store paymentId scope method attemptNonce
  | report _ => none

def Unsuccessful (store : Store) (operation : AttemptOperation π) : Prop :=
  NativeOperation.Applies env (fun _ result => result.status ≠ .succeeded) store
    operation.operation

instance (store : Store) (operation : AttemptOperation π) :
    Decidable (operation.Unsuccessful env store) :=
  inferInstanceAs (Decidable (NativeOperation.Applies env _ store operation.operation))

/-- The operation opens no attempt while the invoice is PENDING_PAYMENT. -/
def StartsSettled (store : Store) (operation : AttemptOperation π) : Prop :=
  (operation.opened? env store).isSome = true → store.invoice.status ≠ .pendingPayment

theorem perform_cases {store : Store} {operation : AttemptOperation π}
    (unsuccessful : operation.Unsuccessful env store) :
    (operation.opened? env store = none ∧ (operation.perform env store = store ∨
        ∃ result, About store result ∧ result.status ≠ .succeeded ∧
          operation.perform env store = store.apply result)) ∨
      ∃ method attempt, operation.opened? env store = some attempt ∧ Opens store method attempt ∧
        attempt.result.status ≠ .succeeded ∧
        operation.perform env store = (store.attempting attempt.payments).apply attempt.result := by
  cases operation with
  | start gateway paymentId scope method attemptNonce =>
      have performed : (start gateway paymentId scope method attemptNonce).perform env store =
          afterAttempt store (attempt? env gateway store paymentId scope method attemptNonce) :=
        createIntent_store env gateway store paymentId scope method attemptNonce
      cases opened : attempt? env gateway store paymentId scope method attemptNonce with
      | none =>
          rw [opened] at performed
          exact .inl ⟨opened, .inl performed⟩
      | some attempt =>
          rw [opened] at performed
          have brings : (start gateway paymentId scope method attemptNonce).operation.result? env
              store = some (store.attempting attempt.payments, attempt.result) := by
            simp [operation, NativeOperation.result?, opened]
          exact .inr ⟨method, attempt, opened, attempt?_opens env gateway opened,
            unsuccessful _ brings, performed⟩
  | report news =>
      have performed := news.perform_eq env store
      left
      refine ⟨rfl, ?_⟩
      cases brings : news.result? store with
      | none =>
          rw [brings] at performed
          exact .inl performed
      | some result =>
          rw [brings] at performed
          have applied : news.operation.result? env store = some (store, result) := by
            rw [GatewayReport.operation_result?, brings]
            rfl
          exact .inr ⟨result, GatewayReport.result?_about brings, unsuccessful _ applied, performed⟩

end AttemptOperation

/-! ## Stuck, or on the way back -/

/-- The invoice is pending with nothing but PENDING_PAYMENT to return to. -/
structure Stuck (invoice : Invoice) : Prop where
  pending : invoice.status = .pendingPayment
  previous : invoice.previousStatus = some .pendingPayment

/-- The invoice is back at `original`, or an attempt whose id is not among the `known` ones
and which has not failed yet will take it there. -/
structure Returning (original : InvoiceStatus) (known : List String) (store : Store) : Prop where
  kept : ∀ id ∈ known, ∃ payment ∈ store.payments.rows, payment.id = id
  back : store.invoice.status = original ∨
    (store.invoice.status = .pendingPayment ∧ store.invoice.previousStatus = some original) ∧
      ∃ payment ∈ store.payments.rows, payment.gatewayReference.isSome = true ∧
        payment.id ∉ known ∧ payment.status ≠ .failed

theorem afterResult_of_unsuccessful (invoice : Invoice) {status : PaymentIntentStatus}
    (unsuccessful : status ≠ .succeeded) (occurredAt : Time) :
    status ≠ .failed ∧ invoice.afterResult status occurredAt = invoice ∨
      status = .failed ∧ invoice.afterResult status occurredAt = invoice.afterDecline := by
  cases status with
  | succeeded => exact absurd rfl unsuccessful
  | failed => exact .inr ⟨rfl, rfl⟩
  | requiresAction => exact .inl ⟨by simp, rfl⟩
  | processing => exact .inl ⟨by simp, rfl⟩
  | cancelled => exact .inl ⟨by simp, rfl⟩

theorem Stuck.afterResult {invoice : Invoice} (stuck : Stuck invoice)
    {status : PaymentIntentStatus} (unsuccessful : status ≠ .succeeded) (occurredAt : Time) :
    Stuck (invoice.afterResult status occurredAt) := by
  rcases afterResult_of_unsuccessful invoice unsuccessful occurredAt with ⟨_, same⟩ | ⟨_, declined⟩
  · rw [same]
    exact stuck
  · have kept : invoice.afterDecline = invoice := by
      simp [Invoice.afterDecline, Invoice.revertTarget?, stuck.pending, stuck.previous,
        Option.filter]
    rw [declined, kept]
    exact stuck

theorem Returning.apply {original : InvoiceStatus} {known : List String} {store : Store}
    {result : GatewayResult} (different : original ≠ .pendingPayment)
    (returning : Returning original known store)
    (unsuccessful : result.status ≠ .succeeded) :
    Returning original known (store.apply result) := by
  have moved : ∀ payment ∈ store.payments.rows,
      ∃ next ∈ (store.apply result).payments.rows, next.id = payment.id ∧
        next.gatewayReference = payment.gatewayReference ∧
          (result.status ≠ .failed → payment.status ≠ .failed → next.status ≠ .failed) := by
    intro payment member
    rw [apply_rows]
    by_cases same : payment.id = result.payment.id
    · refine ⟨_, List.mem_map.mpr ⟨payment, member, if_pos same⟩, rfl, rfl, ?_⟩
      intro lives _
      cases status : result.status <;>
        simp_all [Payment.apply, GatewayResult.update, resultUpdate]
    · exact ⟨_, List.mem_map.mpr ⟨payment, member, if_neg same⟩, rfl, rfl, fun _ lives => lives⟩
  refine ⟨?_, ?_⟩
  · intro id listed
    obtain ⟨payment, member, named⟩ := returning.kept id listed
    obtain ⟨next, nextMember, same, _⟩ := moved payment member
    exact ⟨next, nextMember, same.trans named⟩
  · have invoice : (store.apply result).invoice =
        store.invoice.afterResult result.status result.occurredAt := rfl
    rw [invoice]
    rcases returning.back with back | ⟨⟨pending, previous⟩, payment, member, referenced, new, lives⟩
    · left
      have settled : store.invoice.status ≠ .pendingPayment := by
        rw [back]
        exact different
      rcases afterResult_of_unsuccessful store.invoice unsuccessful result.occurredAt with
        ⟨_, same⟩ | ⟨_, declined⟩
      · rw [same]
        exact back
      · rw [declined, afterDecline_of_not_pending settled]
        exact back
    · rcases afterResult_of_unsuccessful store.invoice unsuccessful result.occurredAt with
        ⟨open_, same⟩ | ⟨_, declined⟩
      · right
        obtain ⟨next, nextMember, named, reference, stillLives⟩ := moved payment member
        rw [same]
        exact ⟨⟨pending, previous⟩, next, nextMember, by rw [reference]; exact referenced,
          by rw [named]; exact new, stillLives open_ lives⟩
      · left
        rw [declined, afterDecline_of_pending pending previous different]

theorem Returning.attempting {original : InvoiceStatus} {known : List String} {store : Store}
    {method : PaymentMethod} {attempt : OpenedAttempt} (returning : Returning original known store)
    (settled : store.invoice.status ≠ .pendingPayment) (opens : Opens store method attempt) :
    Returning original known (store.attempting attempt.payments) := by
  have back : store.invoice.status = original :=
    returning.back.resolve_right fun open_ => settled open_.1.1
  refine ⟨?_, .inr ⟨⟨rfl, congrArg some back⟩, attempt.result.payment, ?_, opens.referenced, ?_, ?_⟩⟩
  · intro id listed
    obtain ⟨payment, member, named⟩ := returning.kept id listed
    exact ⟨payment, by simp [Store.attempting, opens.rows, member], named⟩
  · simp [Store.attempting, opens.rows]
  · intro listed
    obtain ⟨payment, member, named⟩ := returning.kept _ listed
    exact opens.fresh payment member named
  · rw [opens.initiated]
    simp

section Steps

variable {π : Type} {env : Env} {store : Store} {operation : AttemptOperation π}

/-- An attempt started while another is pending leaves the invoice stuck. -/
theorem stuck_of_start (unsuccessful : operation.Unsuccessful env store)
    (opens : (operation.opened? env store).isSome = true)
    (pending : store.invoice.status = .pendingPayment) :
    Stuck (operation.perform env store).invoice := by
  rcases operation.perform_cases env unsuccessful with
    ⟨closed, _⟩ | ⟨method, attempt, _, _, failing, done⟩
  · rw [closed] at opens
    cases opens
  · have stuck : Stuck (store.attempting attempt.payments).invoice :=
      ⟨rfl, congrArg some pending⟩
    rw [done]
    exact stuck.afterResult failing attempt.result.occurredAt

theorem Stuck.perform (stuck : Stuck store.invoice)
    (unsuccessful : operation.Unsuccessful env store) :
    Stuck (operation.perform env store).invoice := by
  rcases operation.perform_cases env unsuccessful with
    ⟨_, same | ⟨result, _, failing, done⟩⟩ | ⟨method, attempt, opened, _⟩
  · rw [same]
    exact stuck
  · rw [done]
    exact stuck.afterResult failing result.occurredAt
  · exact stuck_of_start unsuccessful (by simp [opened]) stuck.pending

theorem balance_perform (unsuccessful : operation.Unsuccessful env store) :
    (operation.perform env store).invoice.balanceMinor = store.invoice.balanceMinor := by
  rcases operation.perform_cases env unsuccessful with
    ⟨_, same | ⟨result, _, failing, done⟩⟩ | ⟨method, attempt, _, _, failing, done⟩
  · rw [same]
  · rw [done]
    exact balance_afterResult_of_unsuccessful store.invoice failing result.occurredAt
  · rw [done]
    exact balance_afterResult_of_unsuccessful (store.attempting attempt.payments).invoice failing
      attempt.result.occurredAt

theorem Returning.perform {original : InvoiceStatus} {known : List String}
    (different : original ≠ .pendingPayment) (returning : Returning original known store)
    (unsuccessful : operation.Unsuccessful env store)
    (settled : operation.StartsSettled env store) :
    Returning original known (operation.perform env store) := by
  rcases operation.perform_cases env unsuccessful with
    ⟨_, same | ⟨result, _, failing, done⟩⟩ | ⟨method, attempt, opened, opens, failing, done⟩
  · rw [same]
    exact returning
  · rw [done]
    exact returning.apply different failing
  · have started := returning.attempting (settled (by simp [opened])) opens
    rw [done]
    exact started.apply different failing

end Steps

/-! ## Runs of attempts that all fail -/

section Declines

variable {π : Type} {env : Env} {store : Store} {operations : List (AttemptOperation π)}

theorem Stuck.run (stuck : Stuck store.invoice)
    (unsuccessful : Runs.Throughout (AttemptOperation.perform env)
      (AttemptOperation.Unsuccessful env) operations store) :
    Stuck (operations.foldl (AttemptOperation.perform env) store).invoice := by
  have always : Runs.Always (AttemptOperation.perform env) (fun store => Stuck store.invoice)
      operations store :=
    Runs.always_of_throughout (fun _ _ stuck failing => stuck.perform failing) stuck unsuccessful
  exact always.last

theorem stuck_run (unsuccessful : Runs.Throughout (AttemptOperation.perform env)
      (AttemptOperation.Unsuccessful env) operations store)
    (overlaps : ¬Runs.Throughout (AttemptOperation.perform env)
      (AttemptOperation.StartsSettled env) operations store) :
    Stuck (operations.foldl (AttemptOperation.perform env) store).invoice := by
  induction operations generalizing store with
  | nil => exact absurd trivial overlaps
  | cons operation rest ih =>
      by_cases settled : operation.StartsSettled env store
      · exact ih unsuccessful.2 fun later => overlaps ⟨settled, later⟩
      · unfold AttemptOperation.StartsSettled at settled
        rw [Classical.not_imp, not_not] at settled
        exact (stuck_of_start unsuccessful.1 settled.1 settled.2).run unsuccessful.2

theorem balance_run (unsuccessful : Runs.Throughout (AttemptOperation.perform env)
      (AttemptOperation.Unsuccessful env) operations store) :
    (operations.foldl (AttemptOperation.perform env) store).invoice.balanceMinor =
      store.invoice.balanceMinor := by
  induction operations generalizing store with
  | nil => rfl
  | cons operation rest ih => exact (ih unsuccessful.2).trans (balance_perform unsuccessful.1)

theorem returning_run (settled : store.invoice.status ≠ .pendingPayment)
    (unsuccessful : Runs.Throughout (AttemptOperation.perform env)
      (AttemptOperation.Unsuccessful env) operations store)
    (apart : Runs.Throughout (AttemptOperation.perform env)
      (AttemptOperation.StartsSettled env) operations store) :
    Returning store.invoice.status (store.payments.rows.map Payment.id)
      (operations.foldl (AttemptOperation.perform env) store) := by
  have start : Returning store.invoice.status (store.payments.rows.map Payment.id) store := by
    refine ⟨?_, .inl rfl⟩
    intro id listed
    obtain ⟨payment, member, named⟩ := List.mem_map.mp listed
    exact ⟨payment, member, named⟩
  have always : Runs.Always (AttemptOperation.perform env)
      (Returning store.invoice.status (store.payments.rows.map Payment.id)) operations store :=
    Runs.always_of_throughout (fun _ _ returning both => returning.perform settled both.1 both.2)
      start (unsuccessful.and apart)
  exact always.last

end Declines

/-- When all attempts of a run fail, the invoice ends in the status it had before the first
of them, with the same balance, exactly when that status was PENDING_PAYMENT or no attempt
was started while the invoice was PENDING_PAYMENT. -/
theorem decline_restores_iff {π : Type} (env : Env) {store : Store} {first : AttemptOperation π}
    {rest : List (AttemptOperation π)} (starts : (first.opened? env store).isSome = true)
    (unsuccessful : Runs.Throughout (AttemptOperation.perform env)
      (AttemptOperation.Unsuccessful env) (first :: rest) store)
    (failed : ∀ payment ∈
      ((first :: rest).foldl (AttemptOperation.perform env) store).payments.rows,
        payment.gatewayReference.isSome = true → payment.id ∉ store.payments.rows.map Payment.id →
          payment.status = .failed) :
    let final := (first :: rest).foldl (AttemptOperation.perform env) store
    (final.invoice.status = store.invoice.status ∧
        final.invoice.balanceMinor = store.invoice.balanceMinor) ↔
      store.invoice.status = .pendingPayment ∨
        Runs.Throughout (AttemptOperation.perform env) (AttemptOperation.StartsSettled env)
          (first :: rest) store := by
  intro final
  constructor
  · rintro ⟨restored, _⟩
    by_contra neither
    rw [not_or] at neither
    have stuck := stuck_run unsuccessful neither.2
    exact neither.1 (restored.symm.trans stuck.pending)
  · intro condition
    refine ⟨?_, balance_run unsuccessful⟩
    by_cases pending : store.invoice.status = .pendingPayment
    · have stuck : Stuck final.invoice :=
        (stuck_of_start unsuccessful.1 starts pending).run unsuccessful.2
      exact stuck.pending.trans pending.symm
    · have returning : Returning store.invoice.status (store.payments.rows.map Payment.id) final :=
        returning_run pending unsuccessful (condition.resolve_left pending)
      rcases returning.back with back | ⟨_, payment, member, referenced, new, lives⟩
      · exact back
      · exact absurd (failed payment member referenced new) lives

def sampleOverlap : List (AttemptOperation GatewayWebhookEvent) :=
  [.start (sampleGateway "pi1" .processing 1) "pi1" samplePayer .ach "pi1",
    .start (sampleGateway "pi2" .processing 1) "pi2" samplePayer .ach "pi2",
    .report (.webhook (sampleGateway "pi1" .processing 1) (sampleEvent "pi1" .paymentFailed 2) []
      none),
    .report (.webhook (sampleGateway "pi2" .processing 1) (sampleEvent "pi2" .paymentFailed 3) []
      none)]

theorem decline_restores_iff_sample :
    let store := (sampleIssue GatewayWebhookEvent).perform sampleEnv sampleInvoice
    let final := sampleOverlap.foldl (AttemptOperation.perform sampleEnv) store
    (final.invoice.status = store.invoice.status ∧
        final.invoice.balanceMinor = store.invoice.balanceMinor) ↔
      store.invoice.status = .pendingPayment ∨
        Runs.Throughout (AttemptOperation.perform sampleEnv)
          (AttemptOperation.StartsSettled sampleEnv) sampleOverlap store :=
  decline_restores_iff sampleEnv (by decide) (by decide) (by decide)

/-- Both attempts have failed, nothing else happened, and the invoice stays pending. -/
theorem overlapping_declines_stuck :
    let store := (sampleIssue GatewayWebhookEvent).perform sampleEnv sampleInvoice
    let final := sampleOverlap.foldl (AttemptOperation.perform sampleEnv) store
    store.invoice.status = .sent ∧
      Runs.Throughout (AttemptOperation.perform sampleEnv)
        (AttemptOperation.Unsuccessful sampleEnv) sampleOverlap store ∧
      final.payments.rows.map Payment.status = [.failed, .failed] ∧
      final.invoice.status = .pendingPayment := by
  decide

end MultiBrandInvoicing
