import MultiBrandInvoicing.Lifecycle.Decline

/-!
# Repeated attempts

`createIntent` looks its idempotency key up before it looks at the invoice, and nothing
it has written survives an error.  So of all calls under one key at most one opens an
attempt, and the others leave no trace.
-/

set_option autoImplicit false

namespace MultiBrandInvoicing

open ReadCommitted Program PaymentsService

/-! ## A call that fails -/

section Failing

variable {π : Type} (env : Env)

theorem require_uncommitted (condition : Bool) (error : ServiceError) :
    (require condition error).Uncommitted := by
  cases condition <;> trivial

theorem transitionOrConflict_uncommitted (transition : InvoiceTransition)
    (context : TransitionContext) : (transitionOrConflict transition context).Uncommitted := by
  unfold transitionOrConflict
  split <;> trivial

theorem updateInvoice_uncommitted (label : Effect) (id : String) (change : Invoice → Invoice) :
    (updateInvoice label id change).Uncommitted := by
  intro hit
  cases hit <;> trivial

theorem updatePayment_uncommitted (id : String) (data : PaymentUpdate) :
    (updatePayment id data).Uncommitted := by
  intro hit
  cases hit <;> trivial

theorem createPayment_uncommitted (payment : Payment) : (createPayment payment).Uncommitted := by
  intro hit
  cases hit <;> trivial

theorem updatePaymentReference_uncommitted (id reference : String) :
    (updatePaymentReference id reference).Uncommitted := by
  intro hit
  cases hit <;> trivial

theorem applySettlement_uncommitted (input : SettlementInput) :
    (applySettlement input).Uncommitted := by
  unfold applySettlement
  split
  · refine (updatePayment_uncommitted _ _).bind fun _ => ?_
    simp only
    split
    · trivial
    · exact (updateInvoice_uncommitted _ _ _).bind fun _ _ => trivial
  · refine (updatePayment_uncommitted _ _).bind fun _ => ?_
    simp only
    split
    · trivial
    · exact (updateInvoice_uncommitted _ _ _).bind fun _ _ => trivial
  · exact updatePayment_uncommitted _ _

theorem createIntent_atomic (gateway : PaymentGatewayPort π) (paymentId : String)
    (scope : PublicScope) (method : PaymentMethod) (attemptNonce : String) :
    (createIntent env gateway paymentId scope method attemptNonce).Atomic := by
  unfold createIntent
  refine Atomic.read fun store => ?_
  refine Atomic.bind (require_uncommitted _ _) fun _ => ?_
  refine Atomic.read fun settings => ?_
  refine Atomic.bind (require_uncommitted _ _) fun _ => ?_
  refine Atomic.bind (.ofExcept _ _) fun quote => ?_
  refine Atomic.read fun rows => ?_
  simp only
  split
  · trivial
  · unfold startAttempt
    refine Atomic.bind (transitionOrConflict_uncommitted _ _) fun target => ?_
    refine Atomic.bind (createPayment_uncommitted _) fun _ => ?_
    refine Atomic.bind (updateInvoice_uncommitted _ _ _) fun _ => ?_
    refine Atomic.bind (.ofExcept _ _) fun intent => ?_
    refine Atomic.bind (updatePaymentReference_uncommitted _ _) fun _ => ?_
    refine Atomic.bind (applySettlement_uncommitted _) fun _ => ?_
    refine Atomic.read fun final => ?_
    by_cases succeeded : intent.status = .succeeded
    · simp only [succeeded, if_true]
      trivial
    · simp only [succeeded, if_false]
      trivial

end Failing

/-! ## Calls under one key -/

namespace AttemptOperation

variable {π : Type} (env : Env)

def requests (store : Store) : AttemptOperation π → List CreateIntentInput
  | start gateway paymentId scope method attemptNonce =>
      ((createIntent env gateway paymentId scope method attemptNonce).exec
          store).announced.filterMap fun
        | .gatewayCreateIntent input => some input
        | _ => none
  | report _ => []

/-- A call with this nonce which charges this amount, if any; or news about an attempt. -/
def Repeats (charge : Int) (nonce : String) (store : Store) : AttemptOperation π → Prop
  | start _ _ _ method attemptNonce =>
      attemptNonce = nonce ∧
        ∀ quote ∈ (calculate (quoteInput store method)).toOption, quote.totalMinor = charge
  | report _ => True

instance (charge : Int) (nonce : String) (store : Store) :
    ∀ operation : AttemptOperation π, Decidable (operation.Repeats charge nonce store)
  | start _ _ _ method attemptNonce =>
      inferInstanceAs (Decidable (attemptNonce = nonce ∧
        ∀ quote ∈ (calculate (quoteInput store method)).toOption, quote.totalMinor = charge))
  | report _ => .isTrue trivial

end AttemptOperation

/-- What tells a payment row from others and never changes. -/
def Payment.mark (payment : Payment) : String × String := (payment.id, payment.idempotencyKey)

theorem marks_apply (store : Store) (result : GatewayResult) :
    (store.apply result).payments.rows.map Payment.mark =
      store.payments.rows.map Payment.mark := by
  rw [apply_rows, List.map_map]
  apply List.map_congr_left
  intro payment _
  by_cases about : payment.id = result.payment.id
  · simp only [Function.comp_apply, if_pos about]
    rfl
  · simp only [Function.comp_apply, if_neg about]

theorem id_afterResult (invoice : Invoice) (status : PaymentIntentStatus) (occurredAt : Time) :
    (invoice.afterResult status occurredAt).id = invoice.id := by
  rw [sameButSettlement_afterResult invoice status occurredAt]

structure AddedOnce (base : Store) (key : String) (store : Store) : Prop where
  invoice : store.invoice.id = base.invoice.id
  added : ∃ created, store.payments.rows.map Payment.mark =
      base.payments.rows.map Payment.mark ++ created ∧
    created.length ≤ 1 ∧ ∀ mark ∈ created, mark.2 = key

section Calls

variable {π : Type} {env : Env} {base store : Store} {charge : Int} {nonce : String}

theorem AddedOnce.apply {key : String} (once : AddedOnce base key store)
    (result : GatewayResult) : AddedOnce base key (store.apply result) where
  invoice := (id_afterResult store.invoice result.status result.occurredAt).trans once.invoice
  added := by
    rw [marks_apply]
    exact once.added

theorem AddedOnce.perform {operation : AttemptOperation π}
    (once : AddedOnce base (attemptKey env base charge nonce) store)
    (repeats : operation.Repeats charge nonce store) :
    AddedOnce base (attemptKey env base charge nonce) (operation.perform env store) := by
  cases operation with
  | report news =>
      have performed : (AttemptOperation.report news).perform env store =
          afterResult store (news.result? store) := news.perform_eq env store
      cases brings : news.result? store with
      | none =>
          rw [performed, brings]
          exact once
      | some result =>
          rw [performed, brings]
          exact once.apply result
  | start gateway paymentId scope method attemptNonce =>
      obtain ⟨rfl, charged⟩ := repeats
      have performed :
          (AttemptOperation.start gateway paymentId scope method attemptNonce).perform env store =
            afterAttempt store (attempt? env gateway store paymentId scope method attemptNonce) :=
        createIntent_store env gateway store paymentId scope method attemptNonce
      cases opened : attempt? env gateway store paymentId scope method attemptNonce with
      | none =>
          rw [performed, opened]
          exact once
      | some attempt =>
          obtain ⟨quote, quoted, key, unused⟩ := attempt?_key env gateway opened
          have opens := attempt?_opens env gateway opened
          have sameKey : attempt.result.payment.idempotencyKey =
              attemptKey env base charge attemptNonce := by
            rw [key, charged quote (by rw [quoted]; rfl)]
            simp only [attemptKey, once.invoice]
          obtain ⟨created, marks, _, keys⟩ := once.added
          -- Had a call before this one opened an attempt, its row would have the key.
          have first : created = [] := by
            cases created with
            | nil => rfl
            | cons mark rest =>
                have listed : mark ∈ store.payments.rows.map Payment.mark := by simp [marks]
                obtain ⟨row, member, same⟩ := List.mem_map.mp listed
                have rowKey : row.idempotencyKey = mark.2 := congrArg Prod.snd same
                exact absurd ((rowKey.trans (keys mark (by simp))).trans sameKey.symm)
                  (unused row member)
          have opening : AddedOnce base (attemptKey env base charge attemptNonce)
              (store.attempting attempt.payments) := by
            refine ⟨once.invoice, [attempt.result.payment.mark], ?_, by simp, ?_⟩
            · rw [first, List.append_nil] at marks
              simp [Store.attempting, opens.rows, marks]
            · intro mark member
              rw [List.mem_singleton.mp member]
              exact sameKey
          rw [performed, opened]
          exact opening.apply attempt.result

theorem requests_key {operation : AttemptOperation π}
    (repeats : operation.Repeats charge nonce store) :
    ∀ input ∈ operation.requests env store,
      input.idempotencyKey = attemptKey env store charge nonce := by
  intro input asked
  cases operation with
  | report news => cases asked
  | start gateway paymentId scope method attemptNonce =>
      obtain ⟨rfl, charged⟩ := repeats
      obtain ⟨effect, called, same⟩ := List.mem_filterMap.mp asked
      have isCall : effect = .gatewayCreateIntent input := by
        cases effect <;> simp at same
        rw [same]
      rw [isCall] at called
      obtain ⟨_, _, _, quote, quoted, _, key⟩ := createIntent_calls env gateway called
      rw [key, charged quote (by rw [quoted]; rfl)]

/-- A replay, whatever has become of the attempt. -/
theorem replay_keeps {gateway : PaymentGatewayPort π} {paymentId : String} {scope : PublicScope}
    {method : PaymentMethod} {quote : CalculationResult}
    (quoted : calculate (quoteInput store method) = .ok quote)
    (recorded : ∃ payment ∈ store.payments.rows,
      payment.idempotencyKey = attemptKey env store quote.totalMinor nonce) :
    let execution := (createIntent env gateway paymentId scope method nonce).exec store
    execution.store = store ∧ execution.announced = [] := by
  intro execution
  obtain ⟨payment, member, key⟩ := recorded
  cases found : store.payments.rows.find? fun payment =>
      payment.idempotencyKey = attemptKey env store quote.totalMinor nonce with
  | none => exact absurd key (by simpa using List.find?_eq_none.mp found payment member)
  | some existing =>
      by_cases here : store.invoice.id = scope.invoiceId
      · by_cases enabled : store.settings.any (isMethodEnabled method) = true
        · simp [execution, exec, createIntent, execFrom_bind, here, enabled, quoted, found]
        · simp [execution, exec, createIntent, execFrom_bind, here, enabled]
      · simp [execution, exec, createIntent, execFrom_bind, here]

end Calls

/-- Of any sequence of calls with one nonce that charge one amount, with news about the
attempts arriving in between, at most one adds a payment, and all that ask the gateway for
anything use one key.  A call that finds its key recorded changes nothing and asks for
nothing, and a call that fails leaves all rows as they were. -/
theorem createIntent_once {π : Type} (env : Env) (charge : Int) (nonce : String) (store : Store)
    (operations : List (AttemptOperation π))
    (repeats : Runs.Throughout (AttemptOperation.perform env)
      (fun store operation => operation.Repeats charge nonce store) operations store) :
    (∃ created,
      (operations.foldl (AttemptOperation.perform env) store).payments.rows.map Payment.mark =
          store.payments.rows.map Payment.mark ++ created ∧ created.length ≤ 1) ∧
      Runs.Throughout (AttemptOperation.perform env) (fun next operation =>
        ∀ input ∈ operation.requests env next,
          input.idempotencyKey = attemptKey env store charge nonce) operations store ∧
      (∀ (gateway : PaymentGatewayPort π) paymentId scope method attemptNonce next quote,
        calculate (quoteInput next method) = .ok quote →
        (∃ payment ∈ next.payments.rows,
          payment.idempotencyKey = attemptKey env next quote.totalMinor attemptNonce) →
        let execution :=
          (createIntent env gateway paymentId scope method attemptNonce).exec next
        execution.store = next ∧ execution.announced = []) ∧
      ∀ (gateway : PaymentGatewayPort π) paymentId scope method attemptNonce next error,
        ((createIntent env gateway paymentId scope method attemptNonce).exec next).outcome =
            .error error →
          ((createIntent env gateway paymentId scope method attemptNonce).exec next).store =
            next := by
  have start : AddedOnce store (attemptKey env store charge nonce) store :=
    ⟨rfl, [], by simp, by simp, by simp⟩
  have always : Runs.Always (AttemptOperation.perform env)
      (AddedOnce store (attemptKey env store charge nonce)) operations store :=
    Runs.always_of_throughout (fun _ _ once repeats => once.perform repeats) start repeats
  refine ⟨?_, ?_, ?_, ?_⟩
  · obtain ⟨created, marks, few, _⟩ := always.last.added
    exact ⟨created, marks, few⟩
  · have both := always.throughout.and repeats
    refine both.mono ?_
    rintro next operation ⟨once, repeats⟩ input asked
    rw [requests_key repeats input asked]
    simp only [attemptKey, once.invoice]
  · intro gateway paymentId scope method attemptNonce next quote quoted recorded
    exact replay_keeps quoted recorded
  · intro gateway paymentId scope method attemptNonce next error failed
    exact (createIntent_atomic env gateway paymentId scope method attemptNonce).store_of_error failed

def sampleReplays : List (AttemptOperation GatewayWebhookEvent) :=
  [.start (sampleGateway "pi" .processing 1) "first" samplePayer .ach "nonce",
    .report (.webhook (sampleGateway "pi" .processing 1) (sampleEvent "pi" .paymentFailed 2) []
      none),
    .start (sampleGateway "pi2" .succeeded 3) "second" samplePayer .ach "nonce",
    .start (sampleGateway "pi3" .succeeded 4) "third" samplePayer .check "nonce"]

theorem createIntent_once_sample :
    let store := (sampleIssue GatewayWebhookEvent).perform sampleEnv sampleInvoice
    ∃ created,
      (sampleReplays.foldl (AttemptOperation.perform sampleEnv) store).payments.rows.map
          Payment.mark = store.payments.rows.map Payment.mark ++ created ∧ created.length ≤ 1 := by
  intro store
  exact (createIntent_once sampleEnv 10000 "nonce" store sampleReplays (by decide)).1

end MultiBrandInvoicing
