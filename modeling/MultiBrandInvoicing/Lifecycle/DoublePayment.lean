import MultiBrandInvoicing.Lifecycle.Ledger

/-!
# Double payment and paid cancellation

A success marks its payment settled before it asks whether the invoice may be settled.
As long as the answer is yes, the first success pays the invoice, nothing moves a paid
invoice any more, and no second payment is settled.
-/

set_option autoImplicit false

namespace MultiBrandInvoicing

open ReadCommitted PaymentsService

def Payment.settledByGateway (payment : Payment) : Prop :=
  payment.gatewayReference.isSome = true ∧ payment.status = .settled

instance : DecidablePred Payment.settledByGateway := fun payment =>
  inferInstanceAs (Decidable (payment.gatewayReference.isSome = true ∧ payment.status = .settled))

/-- No two gateway payments are ever settled over these states, and a cancelled invoice
has no settled payment. -/
structure SettlesOnce (states : List Store) : Prop where
  once : ∀ first ∈ states, ∀ second ∈ states, ∀ payment ∈ first.payments.rows,
    ∀ other ∈ second.payments.rows, payment.settledByGateway → other.settledByGateway →
      payment.id = other.id
  cancelled : ∀ state ∈ states, state.invoice.status = .cancelled →
    ∀ payment ∈ state.payments.rows, payment.status ≠ .settled

/-- A success of a payment that is not settled yet meets an invoice that SETTLE_FULL may
start from. -/
def SettlesInFull (store : Store) (result : GatewayResult) : Prop :=
  result.status = .succeeded → result.payment.status ≠ .settled →
    store.invoice.status ∈ allowed .settleFull

instance (store : Store) (result : GatewayResult) : Decidable (SettlesInFull store result) :=
  inferInstanceAs (Decidable (_ → _ → _))

/-- The payment shows in the balance: taken off it, it leaves less than the total. -/
def ShowsInBalance (invoice : Invoice) (amountMinor : Int) : Prop :=
  toNumber (invoice.balanceMinor - amountMinor) < invoice.totalMinor

instance (invoice : Invoice) (amountMinor : Int) : Decidable (ShowsInBalance invoice amountMinor) :=
  inferInstanceAs (Decidable (_ < _))

def SettlesOpenly {π : Type} (env : Env) (store : Store) (operation : NativeOperation π) : Prop :=
  operation.Applies env SettlesInFull store ∧ operation.Records ShowsInBalance store

instance {π : Type} (env : Env) (store : Store) (operation : NativeOperation π) :
    Decidable (SettlesOpenly env store operation) :=
  inferInstanceAs (Decidable (operation.Applies env SettlesInFull store ∧
    operation.Records ShowsInBalance store))

/-! ## Where settled payments come from -/

theorem settled_quiet {recorded : Option Int} {store next : Store}
    (step : QuietStep store recorded next) {payment : Payment}
    (member : payment ∈ next.payments.rows) :
    payment ∈ store.payments.rows ∨ payment.gatewayReference = none := by
  rcases step.ledger with ⟨_, rows, _⟩ | ⟨paymentId, uuid, input, amountMinor, _, rows, _, _⟩
  · rw [rows] at member
    exact .inl member
  · rw [rows] at member
    rcases List.mem_append.mp member with earlier | last
    · exact .inl earlier
    · rw [List.mem_singleton.mp last]
      exact .inr rfl

theorem settled_attempting {store : Store} {method : PaymentMethod} {attempt : OpenedAttempt}
    (opens : Opens store method attempt) {payment : Payment}
    (member : payment ∈ (store.attempting attempt.payments).payments.rows)
    (settled : payment.status = .settled) : payment ∈ store.payments.rows := by
  simp only [Store.attempting, opens.rows] at member
  rcases List.mem_append.mp member with earlier | last
  · exact earlier
  · rw [List.mem_singleton.mp last, opens.initiated] at settled
    cases settled

theorem settled_apply {store : Store} {result : GatewayResult} {payment : Payment}
    (member : payment ∈ (store.apply result).payments.rows) (settled : payment.status = .settled) :
    result.status = .succeeded ∧ payment.id = result.payment.id ∨
      payment ∈ store.payments.rows := by
  rw [apply_rows] at member
  obtain ⟨row, rowMember, rfl⟩ := List.mem_map.mp member
  by_cases same : row.id = result.payment.id
  · rw [if_pos same] at settled ⊢
    exact .inl ⟨resultUpdate_settled.mp settled, same⟩
  · rw [if_neg same]
    exact .inr rowMember

/-! ## Before the first success -/

/-- No gateway payment is settled, and one recorded by hand shows in the balance. -/
structure Calm (store : Store) : Prop where
  none_ : ∀ payment ∈ store.payments.rows, ¬payment.settledByGateway
  recorded : ∀ payment ∈ store.payments.rows, payment.status = .settled →
    store.invoice.balanceMinor < store.invoice.totalMinor

structure PaidBy (id : String) (store : Store) : Prop where
  paid : store.invoice.status = .paid
  only : ∀ payment ∈ store.payments.rows, payment.settledByGateway → payment.id = id

theorem Calm.quiet {recorded : Option Int} {store next : Store} (calm : Calm store)
    (double : IsDouble store.invoice.balanceMinor)
    (lowers : ∀ amountMinor ∈ recorded, ShowsInBalance store.invoice amountMinor)
    (step : QuietStep store recorded next) : Calm next := by
  have total : next.invoice.totalMinor = store.invoice.totalMinor :=
    congrArg InvoiceTerms.totalMinor step.terms
  have unsettled : ∀ payment ∈ next.payments.rows, ¬payment.settledByGateway := by
    intro payment member settled
    rcases settled_quiet step member with earlier | manual
    · exact calm.none_ payment earlier settled
    · have referenced := settled.1
      rw [manual] at referenced
      cases referenced
  refine ⟨unsettled, fun payment member settled => ?_⟩
  rcases step.ledger with ⟨_, rows, balance⟩ | ⟨_, _, _, amountMinor, rfl, _, balance, _⟩
  · rw [rows] at member
    rw [balance, total]
    exact calm.recorded payment member settled
  · rw [balance, total, InvoicesService.newBalance, double]
    exact lowers amountMinor rfl

theorem Calm.attempting {store : Store} {method : PaymentMethod} {attempt : OpenedAttempt}
    (calm : Calm store) (opens : Opens store method attempt) :
    Calm (store.attempting attempt.payments) := by
  refine ⟨?_, ?_⟩
  · intro payment member settled
    exact calm.none_ payment (settled_attempting opens member settled.2) settled
  · intro payment member settled
    exact calm.recorded payment (settled_attempting opens member settled) settled

/-- A result either leaves things calm or is the success that pays the invoice. -/
theorem Calm.apply {store : Store} {result : GatewayResult} (calm : Calm store)
    (about : About store result) (settles : SettlesInFull store result) :
    Calm (store.apply result) ∨ PaidBy result.payment.id (store.apply result) := by
  have total : (store.apply result).invoice.totalMinor = store.invoice.totalMinor :=
    congrArg InvoiceTerms.totalMinor (terms_apply store result)
  by_cases succeeded : result.status = .succeeded
  · right
    have unsettled : result.payment.status ≠ .settled := fun settled =>
      calm.none_ result.payment about.member ⟨about.referenced, settled⟩
    have listed := settles succeeded unsettled
    have open_ : store.invoice.status = .pendingPayment ∨ store.invoice.status = .partiallyPaid := by
      simpa [allowed] using listed
    refine ⟨?_, ?_⟩
    · simp [Store.apply, Store.resolve, succeeded, Invoice.afterResult, Invoice.afterSuccess, open_]
    · intro payment member settled
      rcases settled_apply member settled.2 with ⟨_, same⟩ | earlier
      · exact same
      · exact absurd settled (calm.none_ payment earlier)
  · left
    have balance : (store.apply result).invoice.balanceMinor = store.invoice.balanceMinor :=
      balance_afterResult_of_unsuccessful store.invoice succeeded result.occurredAt
    have earlier : ∀ payment ∈ (store.apply result).payments.rows, payment.status = .settled →
        payment ∈ store.payments.rows := by
      intro payment member settled
      exact (settled_apply member settled).resolve_left fun both => succeeded both.1
    refine ⟨?_, ?_⟩
    · intro payment member settled
      exact calm.none_ payment (earlier payment member settled.2) settled
    · intro payment member settled
      rw [balance, total]
      exact calm.recorded payment (earlier payment member settled) settled

/-! ## After it -/

theorem QuietStep.invoice_of_paid {recorded : Option Int} {store next : Store}
    (step : QuietStep store recorded next) (paid : store.invoice.status = .paid) :
    next.invoice = store.invoice := by
  cases step with
  | kept _ same =>
      rw [same]
  | issued scope now draft lines total =>
      rw [paid] at draft
      cases draft
  | viewed now sent =>
      rw [paid] at sent
      cases sent
  | recorded paymentId uuid input amountMinor payments event _ granted rows same =>
      have payable := granted.payable
      rw [paid] at payable
      cases payable
  | cancelled scope now listed unpaid =>
      rw [paid] at listed
      simp [allowed] at listed

theorem PaidBy.quiet {id : String} {recorded : Option Int} {store next : Store}
    (paidBy : PaidBy id store) (step : QuietStep store recorded next) : PaidBy id next := by
  refine ⟨?_, ?_⟩
  · rw [step.invoice_of_paid paidBy.paid]
    exact paidBy.paid
  · intro payment member settled
    rcases settled_quiet step member with earlier | manual
    · exact paidBy.only payment earlier settled
    · have referenced := settled.1
      rw [manual] at referenced
      cases referenced

theorem PaidBy.apply {id : String} {store : Store} {result : GatewayResult}
    (paidBy : PaidBy id store) (about : About store result)
    (settles : SettlesInFull store result) : PaidBy id (store.apply result) := by
  refine ⟨?_, ?_⟩
  · have kept := afterResult_of_paid paidBy.paid result.status result.occurredAt
    have invoice : (store.apply result).invoice = store.invoice := kept
    rw [invoice]
    exact paidBy.paid
  · intro payment member settled
    rcases settled_apply member settled.2 with ⟨succeeded, same⟩ | earlier
    · rw [same]
      by_cases already : result.payment.status = .settled
      · exact paidBy.only result.payment about.member ⟨about.referenced, already⟩
      · have listed := settles succeeded already
        rw [paidBy.paid] at listed
        simp [allowed] at listed
    · exact paidBy.only payment earlier settled

/-! ## One operation and a run of them -/

section OneRun

variable {π : Type} {env : Env}

theorem calm_or_paid_perform {store : Store} (operation : NativeOperation π)
    (reachable : NativeReachable π env store) (calm : Calm store)
    (settles : SettlesOpenly env store operation) :
    Calm (operation.perform env store) ∨ ∃ id, PaidBy id (operation.perform env store) := by
  rcases operation.perform_cases env store reachable.native with
    ⟨before, result, brings, resolves, done⟩ | ⟨_, step⟩
  · have inFull := settles.1 (before, result) brings
    rw [done]
    cases resolves with
    | delivered _ about => exact (calm.apply about inFull).imp_right fun paid => ⟨_, paid⟩
    | attempted method attempt opens =>
        have about : About (store.attempting attempt.payments) attempt.result :=
          ⟨by simp [Store.attempting, opens.rows], opens.referenced⟩
        exact ((calm.attempting opens).apply about inFull).imp_right fun paid => ⟨_, paid⟩
  · exact .inl (calm.quiet reachable.doubles.2 settles.2 step)

theorem paid_perform {store : Store} {id : String} (operation : NativeOperation π)
    (native : store.invoice.isPushed = false) (paidBy : PaidBy id store)
    (settles : SettlesOpenly env store operation) : PaidBy id (operation.perform env store) := by
  rcases operation.perform_cases env store native with
    ⟨before, result, brings, resolves, done⟩ | ⟨_, step⟩
  · have inFull := settles.1 (before, result) brings
    rw [done]
    cases resolves with
    | delivered _ about => exact paidBy.apply about inFull
    | attempted method attempt opens =>
        have payable := opens.payable
        rw [paidBy.paid] at payable
        cases payable
  · exact paidBy.quiet step

/-- Along a run whose successes settle in full there is one gateway payment, if any, that
pays the invoice: the first success fixes it. -/
theorem calm_or_paid_run {store : Store} (operations : List (NativeOperation π))
    (reachable : NativeReachable π env store) (calm : Calm store)
    (settles : Runs.Throughout (NativeOperation.perform env) (SettlesOpenly env) operations
      store) :
    ∃ id, Runs.Always (NativeOperation.perform env)
      (fun store => Calm store ∨ PaidBy id store) operations store := by
  induction operations generalizing store with
  | nil => exact ⟨"", .inl calm⟩
  | cons operation rest ih =>
      have later : NativeReachable π env (operation.perform env store) :=
        .performed operation store reachable
      rcases calm_or_paid_perform operation reachable calm settles.1 with
        stillCalm | ⟨id, paidBy⟩
      · obtain ⟨id, always⟩ := ih later stillCalm settles.2
        exact ⟨id, .inl calm, always⟩
      · have always := Runs.always_of_throughout
          (P := fun store => NativeReachable π env store ∧ PaidBy id store)
          (fun next operation both inFull => ⟨.performed operation next both.1,
            paid_perform operation both.1.native both.2 inFull⟩)
          ⟨later, paidBy⟩ settles.2
        exact ⟨id, .inl calm, always.mono fun _ both => .inr both.2⟩

end OneRun

/-- Nothing has been taken off the balance of a cancelled invoice, and no decline returns to
CANCELLED. -/
structure Voided (invoice : Invoice) : Prop where
  whole : invoice.status = .cancelled → invoice.totalMinor ≤ invoice.balanceMinor
  returns : invoice.previousStatus ≠ some .cancelled

theorem Voided.afterResult {invoice : Invoice} (voided : Voided invoice)
    (status : PaymentIntentStatus) (occurredAt : Time) :
    Voided (invoice.afterResult status occurredAt) := by
  cases status with
  | succeeded =>
      simp only [Invoice.afterResult, Invoice.afterSuccess]
      split
      · exact ⟨by simp, by simp⟩
      · exact voided
  | failed =>
      simp only [Invoice.afterResult, Invoice.afterDecline]
      cases reverts : invoice.revertTarget? with
      | none => exact voided
      | some target =>
          refine ⟨fun cancelled => ?_, by simp⟩
          simp only at cancelled
          rw [cancelled] at reverts
          simp only [Invoice.revertTarget?, Option.ite_none_right_eq_some,
            Option.filter_eq_some_iff] at reverts
          exact absurd reverts.2.1 voided.returns
  | requiresAction => exact voided
  | processing => exact voided
  | cancelled => exact voided

theorem NativeReachable.voided {π : Type} {env : Env} {store : Store}
    (reachable : NativeReachable π env store) : Voided store.invoice := by
  refine reachable.invariant (fun store => Voided store.invoice) ?_ ?_ ?_ ?_
  · intro brand id publicToken input store created
    have new := InvoicesService.create_ok created
    refine ⟨by simp [new.draft], ?_⟩
    rw [InvoicesService.create_previousStatus created]
    decide
  · intro store recorded next voided step
    cases step with
    | kept _ same =>
        rw [same]
        exact voided
    | issued => exact ⟨by simp [InvoicesService.Store.issued], voided.returns⟩
    | viewed => exact ⟨by simp [PublicInvoicesService.Store.viewed], voided.returns⟩
    | recorded paymentId uuid input amountMinor payments event _ granted rows same =>
        rw [same]
        exact ⟨fun cancelled => absurd cancelled
          (InvoicesService.status_afterManualPayment store.invoice amountMinor input.paidAt),
          by simp [InvoicesService.Store.recorded, InvoicesService.afterManualPayment,
            InvoicesService.recordOnInvoice]⟩
    | cancelled scope now listed unpaid =>
        exact ⟨fun _ => unpaid, by simp [InvoicesService.Store.cancelled]⟩
  · intro store method attempt voided opens
    refine ⟨by simp [Store.attempting], fun cancelled => ?_⟩
    have payable := opens.payable
    rw [Option.some.inj cancelled] at payable
    cases payable
  · intro store result voided about
    exact voided.afterResult result.status result.occurredAt

/-- A payment that is not rounded shows in a balance that is at most the total. -/
theorem showsInBalance_of_exactSums {π : Type} {env : Env} {store : Store} {amountMinor : Int}
    (reachable : NativeReachable π env store)
    (granted : InvoicesService.Grants store.invoice amountMinor)
    (exact_ : InvoicesService.ExactSums store.invoice amountMinor) :
    ShowsInBalance store.invoice amountMinor := by
  have positive := granted.positive
  have within := reachable.balance_le
  unfold ShowsInBalance
  rw [exact_.rest]
  omega

/-- In a run from a new invoice in which every success of an unsettled payment meets an
invoice that may be settled in full, and every recorded payment shows in the balance, at most one
gateway payment is ever settled, and a cancelled invoice has no settled payment.  On a safe total
every recorded payment does show. -/
theorem no_double_payment {π : Type} {env : Env} {brand : BrandRows} {id publicToken : String}
    {input : InvoiceDraftInput} {store : Store}
    (created : InvoicesService.create brand id publicToken input = .ok store)
    (operations : List (NativeOperation π)) :
    (Runs.Throughout (NativeOperation.perform env) (SettlesOpenly env) operations store →
      SettlesOnce (Runs.visited (NativeOperation.perform env) operations store)) ∧
      (isSafeInteger store.invoice.totalMinor = true →
        (Runs.Throughout (NativeOperation.perform env) (SettlesOpenly env) operations store ↔
          Runs.Throughout (NativeOperation.perform env)
            (NativeOperation.Applies env SettlesInFull) operations store)) := by
  have reachable : NativeReachable π env store := .created brand id publicToken input store created
  have calm : Calm store := by
    have new := InvoicesService.create_ok created
    exact ⟨by simp [new.unpaid], by simp [new.unpaid]⟩
  constructor
  · intro settles
    obtain ⟨winner, always⟩ := calm_or_paid_run operations reachable calm settles
    have phases := Runs.always_iff_visited.mp always
    have reached := Runs.always_iff_visited.mp (reachable.always operations)
    have one : ∀ state ∈ Runs.visited (NativeOperation.perform env) operations store,
        ∀ payment ∈ state.payments.rows, payment.settledByGateway → payment.id = winner := by
      intro state seen payment member settled
      rcases phases state seen with calm | paidBy
      · exact absurd settled (calm.none_ payment member)
      · exact paidBy.only payment member settled
    refine ⟨?_, ?_⟩
    · intro first firstSeen second secondSeen payment member other otherMember settled otherSettled
      rw [one first firstSeen payment member settled,
        one second secondSeen other otherMember otherSettled]
    · intro state seen cancelled payment member settled
      have whole := (reached state seen).voided.whole cancelled
      rcases phases state seen with calm | paidBy
      · have below := calm.recorded payment member settled
        omega
      · rw [paidBy.paid] at cancelled
        cases cancelled
  · intro safe
    refine ⟨Runs.Throughout.mono fun _ _ settles => settles.1, fun settles => ?_⟩
    have along := (reachable.always operations).throughout
    refine ((settles.and (reachable.throughout_exact safe operations)).and along).mono ?_
    rintro state operation ⟨⟨inFull, exactly⟩, reached⟩
    exact ⟨inFull, exactly.of_granted fun _ granted exact_ =>
      showsInBalance_of_exactSums reached granted exact_⟩

def samplePaid : List (NativeOperation GatewayWebhookEvent) :=
  [sampleIssue _, sampleAttempt "pi" .processing 1, sampleDelivery "pi" .paymentSucceeded 2]

theorem no_double_payment_sample :
    SettlesOnce (Runs.visited (NativeOperation.perform sampleEnv) samplePaid sampleInvoice) :=
  (no_double_payment sampleInvoice_created samplePaid).1 (by decide)

/-- Two attempts that both succeed, and an attempt that succeeds after a cancellation. -/
theorem double_payment :
    let twice : List (NativeOperation GatewayWebhookEvent) :=
      [sampleIssue _, sampleAttempt "pi1" .processing 1, sampleAttempt "pi2" .processing 1,
        sampleDelivery "pi1" .paymentSucceeded 2, sampleDelivery "pi2" .paymentSucceeded 3]
    let late : List (NativeOperation GatewayWebhookEvent) :=
      [sampleIssue _, sampleAttempt "pi" .processing 1, sampleCancel _,
        sampleDelivery "pi" .paymentSucceeded 2]
    ¬SettlesOnce (Runs.visited (NativeOperation.perform sampleEnv) twice sampleInvoice) ∧
      ¬SettlesOnce (Runs.visited (NativeOperation.perform sampleEnv) late sampleInvoice) := by
  refine ⟨?_, ?_⟩
  · intro settles
    exact absurd settles.once (by decide)
  · intro settles
    exact absurd settles.cancelled (by decide)

end MultiBrandInvoicing
