import MultiBrandInvoicing.Lifecycle.StatusWrites
import MultiBrandInvoicing.Mirroring.PaymentPushes
import MultiBrandInvoicing.ReadCommitted.Journal

/-!
# What is committed when a push is enqueued

Three of the four calls that settle a payment enqueue its push after their commit.
`confirmClientResult` enqueues it inside the transaction that settles the payment, which may
still be rolled back.
-/

set_option autoImplicit false

namespace MultiBrandInvoicing

open ReadCommitted Program PaymentsService

inductive SettlingCall (π : Type) where
  | createIntent (gateway : PaymentGatewayPort π) (paymentId : String) (scope : PublicScope)
      (method : PaymentMethod) (attemptNonce : String)
  | handleWebhook (gateway : PaymentGatewayPort π) (rawBody : π)
      (headers : List (String × String)) (brandId : Option String)
  | confirmClientResult (gateway : PaymentGatewayPort π) (now : Time) (scope : PublicScope)
      (gatewayReference : String)
  | recordManualPayment (scope : Scope) (brandId id paymentId uuid : String)
      (input : RecordManualPaymentInput)

def SettlingCall.program {π : Type} (env : Env) : SettlingCall π → Tx Unit
  | createIntent gateway paymentId scope method attemptNonce =>
      discard (PaymentsService.createIntent env gateway paymentId scope method attemptNonce)
  | handleWebhook gateway rawBody headers brandId =>
      PaymentsService.handleWebhook gateway rawBody headers brandId
  | confirmClientResult gateway now scope gatewayReference =>
      discard (PaymentsService.confirmClientResult gateway now scope gatewayReference)
  | recordManualPayment scope brandId id paymentId uuid input =>
      discard (InvoicesService.recordManualPayment scope brandId id paymentId uuid input)

def SettlingCall.confirms {π : Type} : SettlingCall π → Bool
  | confirmClientResult _ _ _ _ => true
  | _ => false

def Store.hasPayment (store : Store) (id : String) : Bool :=
  store.payments.rows.any fun payment => payment.id = id

def Store.hasKey (store : Store) (idempotencyKey : String) : Bool :=
  store.payments.rows.any fun payment => payment.idempotencyKey = idempotencyKey

def Store.hasSettled (store : Store) (id : String) : Bool :=
  store.payments.rows.any fun payment =>
    payment.id = id && PaymentPushes.settledPaymentStatuses.contains payment.status

section Journals

variable {π : Type}

def LeftSettled (journal : Journal Store Effect) (paymentId : String) : Prop :=
  ∃ store, .left store ∈ journal ∧ store.hasSettled paymentId = true

def Backed (journal : Journal Store Effect) : Prop :=
  ∀ brandId paymentId, .told (.enqueue (.pushPayment brandId paymentId)) ∈ journal →
    LeftSettled journal paymentId

/-- Nobody deletes a payment, and the id and the key of a new one are locked. -/
def Store.cell : RowKey → Store → Bool
  | .payment id, store => store.hasPayment id
  | .paymentIdempotencyKey key, store => store.hasKey key
  | _, _ => true

def paymentRely : Rely Store RowKey Bool where
  holds _ := True
  leads before after := ∀ id, before.hasPayment id = true → after.hasPayment id = true
  cell := Store.cell

/-- A push that is enqueued after the commit is one of a payment that the commit has left
settled; the others are once their call has returned. -/
def enqueueConduct (call : SettlingCall π) : Conduct Store Effect ServiceError Unit where
  leaves _ _ _ := True
  tells journal _ label := call.confirms = false → ∀ brandId paymentId,
    label = .enqueue (.pushPayment brandId paymentId) → LeftSettled journal paymentId
  ends journal outcome := outcome = .ok () → call.confirms = true → Backed journal

end Journals

/-! ## Statements -/

/-- The change deletes no payment, and adds at most what the locked rows name. -/
structure Confined (rows : List RowKey) (change : Store → Store) : Prop where
  keeps : ∀ store id, store.hasPayment id = true → (change store).hasPayment id = true
  within : ∀ store row, row ∉ rows → (change store).cell row = store.cell row

theorem Confined.unchanged : Confined [] id := ⟨fun _ _ here => here, fun _ _ _ => rfl⟩

theorem Confined.andThen {rows taken : List RowKey} {pending change : Store → Store}
    (before : Confined rows pending) (next : Confined taken change) :
    Confined (taken ++ rows) (change ∘ pending) where
  keeps store id here := next.keeps _ id (before.keeps store id here)
  within store row outside := by
    rw [List.mem_append, not_or] at outside
    exact (next.within _ row outside.1).trans (before.within store row outside.2)

theorem confined_map {rows : List RowKey} {change : Store → Store}
    (same : ∀ store, ∃ revise : Payment → Payment,
      (∀ payment, (revise payment).id = payment.id ∧
        (revise payment).idempotencyKey = payment.idempotencyKey) ∧
      (change store).payments.rows = store.payments.rows.map revise) : Confined rows change := by
  have ids : ∀ store id, (change store).hasPayment id = store.hasPayment id := by
    intro store id
    obtain ⟨revise, kept, mapped⟩ := same store
    simp [Store.hasPayment, mapped, Function.comp_def, kept]
  have keys : ∀ store key, (change store).hasKey key = store.hasKey key := by
    intro store key
    obtain ⟨revise, kept, mapped⟩ := same store
    simp [Store.hasKey, mapped, Function.comp_def, kept]
  refine ⟨fun store id here => (ids store id).trans here, fun store row _ => ?_⟩
  cases row with
  | payment id => exact ids store id
  | paymentIdempotencyKey key => exact keys store key
  | _ => rfl

theorem confined_same {rows : List RowKey} {change : Store → Store}
    (same : ∀ store, (change store).payments = store.payments) : Confined rows change :=
  confined_map fun store => ⟨id, fun _ => ⟨rfl, rfl⟩, by rw [same, List.map_id]⟩

theorem confined_updatePayment {rows : List RowKey} (id : String) (data : PaymentUpdate) :
    Confined rows fun store => { store with payments := store.payments.applyUpdate id data } := by
  refine confined_map fun store => ⟨_, fun payment => ?_, rfl⟩
  split <;> exact ⟨rfl, rfl⟩

theorem confined_reference {rows : List RowKey} (id reference : String) :
    Confined rows fun store =>
      { store with
        payments := (store.payments.assignReference? id reference).getD store.payments } := by
  refine confined_map fun store => ?_
  cases assigned : store.payments.assignReference? id reference with
  | none => exact ⟨fun row => row, fun _ => ⟨rfl, rfl⟩, by simp⟩
  | some payments =>
      refine ⟨_, fun payment => ?_, UniqueTable.rows_of_update? assigned⟩
      split <;> exact ⟨rfl, rfl⟩

theorem confined_createPayment (payment : Payment) :
    Confined [.payment payment.id, .paymentIdempotencyKey payment.idempotencyKey] fun store =>
      { store with payments := (store.payments.insert? payment).getD store.payments } := by
  constructor
  · intro store id here
    rcases store.payments.rows_of_insert?_getD payment with same | added
    · rw [Store.hasPayment, same]
      exact here
    · rw [Store.hasPayment, added, List.any_append]
      exact Bool.or_eq_true_iff.mpr (.inl here)
  · intro store row outside
    rcases store.payments.rows_of_insert?_getD payment with same | added
    · cases row <;> simp [Store.cell, Store.hasPayment, Store.hasKey, same]
    · cases row with
      | payment id =>
          have other : payment.id ≠ id := by
            rintro rfl
            simp at outside
          simp [Store.cell, Store.hasPayment, added, other]
      | paymentIdempotencyKey key =>
          have other : payment.idempotencyKey ≠ key := by
            rintro rfl
            simp at outside
          simp [Store.cell, Store.hasKey, added, other]
      | _ => rfl

/-- Whatever the others commit, what is pending will leave rows with `P`. -/
structure Foreseen (rows : List RowKey) (knows : Store → Prop) (pending : Store → Store)
    (P : Store → Prop) : Prop where
  confined : Confined rows pending
  stable : paymentRely.Stable rows knows
  leads : ∀ store, knows store → P (pending store)

section Rules

variable {π α : Type} {call : SettlingCall π} {rows taken : List RowKey} {knows : Store → Prop}
  {pending change : Store → Store} {P Q : Store → Prop} {journal : Journal Store Effect}
  {last : α → Journal Store Effect → (Store → Store) → List RowKey → (Store → Prop) → Prop}

theorem Foreseen.start : Foreseen [] (fun _ => True) id fun _ => True :=
  ⟨.unchanged, Rely.stable_true, fun _ _ => trivial⟩

theorem Foreseen.mono (foreseen : Foreseen rows knows pending P)
    (implied : ∀ store, P store → Q store) : Foreseen rows knows pending Q :=
  ⟨foreseen.confined, foreseen.stable, fun store known => implied _ (foreseen.leads store known)⟩

theorem Foreseen.andThen (foreseen : Foreseen rows knows pending P)
    (confined : Confined taken change) (implied : ∀ store, P store → Q (change store)) :
    Foreseen (taken ++ rows) knows (change ∘ pending) Q :=
  ⟨foreseen.confined.andThen confined, foreseen.stable.locked taken,
    fun store known => implied _ (foreseen.leads store known)⟩

theorem Foreseen.honoured (foreseen : Foreseen rows knows pending P) (store : Store) :
    paymentRely.Honoured (enqueueConduct call) journal rows store (pending store) :=
  ⟨trivial, foreseen.confined.keeps store, foreseen.confined.within store, trivial⟩

theorem follows_ofExcept {δ ζ : Type} {wrap : δ → ServiceError} {result : Except δ ζ}
    {next : ζ → Tx α} (rest : ∀ value,
      (next value).Follows paymentRely (enqueueConduct call) last journal pending rows knows) :
    (Program.ofExcept wrap result >>= next).Follows paymentRely (enqueueConduct call) last journal
      pending rows knows :=
  Follows.ofExcept (fun _ _ => nofun) fun value _ => rest value

theorem follows_write {label : Effect} {applies : Store → Bool} {next : Bool → Tx α}
    (foreseen : Foreseen rows knows pending P) (confined : Confined taken change)
    (implied : ∀ store, P store → Q (change store))
    (hit : Foreseen (taken ++ rows) knows (change ∘ pending) Q →
      (next true).Follows paymentRely (enqueueConduct call) last (.wrote label :: journal)
        (change ∘ pending) (taken ++ rows) knows)
    (miss : (next false).Follows paymentRely (enqueueConduct call) last journal pending rows
      knows) :
    (writeRows label taken applies change >>= next).Follows paymentRely (enqueueConduct call) last
      journal pending rows knows :=
  Follows.writeRows foreseen.stable (hit (foreseen.andThen confined implied)) miss

theorem follows_orThrow {label : Effect} {applies : Store → Bool} {error : ServiceError}
    {next : Unit → Tx α} (foreseen : Foreseen rows knows pending P)
    (confined : Confined taken change) (implied : ∀ store, P store → Q (change store))
    (rest : Foreseen (taken ++ rows) knows (change ∘ pending) Q →
      (next ()).Follows paymentRely (enqueueConduct call) last (.wrote label :: journal)
        (change ∘ pending) (taken ++ rows) knows) :
    ((do
      let hit ← writeRows label taken applies change
      if hit then pure () else .throw error : Tx Unit) >>= next).Follows paymentRely
        (enqueueConduct call) last journal pending rows knows :=
  follows_write foreseen confined implied rest nofun

theorem follows_always {label : Effect} {applies : Store → Bool} {next : Unit → Tx α}
    (foreseen : Foreseen rows knows pending P) (confined : Confined taken change)
    (implied : ∀ store, P store → Q (change store))
    (hit : Foreseen (taken ++ rows) knows (change ∘ pending) Q →
      (next ()).Follows paymentRely (enqueueConduct call) last (.wrote label :: journal)
        (change ∘ pending) (taken ++ rows) knows)
    (miss : (next ()).Follows paymentRely (enqueueConduct call) last journal pending rows knows) :
    ((do
      let _ ← writeRows label taken applies change
      pure () : Tx Unit) >>= next).Follows paymentRely (enqueueConduct call) last journal pending
        rows knows :=
  follows_write foreseen confined implied hit miss

theorem follows_createPayment {payment : Payment} {next : Unit → Tx α}
    (foreseen : Foreseen rows knows pending P)
    (untouched : ∀ store, (pending store).payments = store.payments)
    (unreferenced : payment.gatewayReference = none)
    (rest : ∀ later taken pending learns,
      Foreseen taken learns pending (fun store => payment ∈ store.payments.rows) →
        (∀ label, .told label ∈ later → .told label ∈ journal) →
          (next ()).Follows paymentRely (enqueueConduct call) last later pending taken learns) :
    (createPayment payment >>= next).Follows paymentRely (enqueueConduct call) last journal
      pending rows knows := by
  have fresh : ∀ store : Store, (store.payments.insert? payment).isSome = true ↔
      store.hasPayment payment.id = false ∧ store.hasKey payment.idempotencyKey = false := by
    intro store
    rw [UniqueTable.isSome_insert?]
    simp [paymentIndexes, unreferenced, Store.hasPayment, Store.hasKey]
  intro store _ known
  refine ⟨fun inserts => ?_, fun _ => ?_⟩
  · have learns : paymentRely.Stable
        ([.payment payment.id, .paymentIdempotencyKey payment.idempotencyKey] ++ rows)
        fun store => (store.payments.insert? payment).isSome = true := by
      intro before after _ _ same inserts
      have id : after.hasPayment payment.id = before.hasPayment payment.id :=
        same (.payment payment.id) (by simp)
      have key : after.hasKey payment.idempotencyKey = before.hasKey payment.idempotencyKey :=
        same (.paymentIdempotencyKey payment.idempotencyKey) (by simp)
      rw [fresh] at inserts ⊢
      rwa [id, key]
    refine ⟨_, learns, by simpa only [untouched] using inserts, ?_⟩
    refine rest _ _ _ _ ⟨foreseen.confined.andThen (confined_createPayment payment), learns,
      fun store inserts => ?_⟩ (by simp)
    rw [← untouched] at inserts
    simp [UniqueTable.rows_of_insert?_isSome inserts]
  · exact ⟨knows, foreseen.stable, known, nofun⟩

theorem follows_commit {next : Unit → Tx α} (foreseen : Foreseen rows knows pending P)
    (rest : ∀ store, P store →
      (next ()).Follows paymentRely (enqueueConduct call) last (.left store :: journal) id []
        fun _ => True) :
    (commitNow >>= next).Follows paymentRely (enqueueConduct call) last journal pending rows
      knows :=
  Follows.commitNow (fun store _ _ => foreseen.honoured store) fun store _ known =>
    rest (pending store) (foreseen.leads store known)

def AtEnd (call : SettlingCall π) (journal : Journal Store Effect) (pending : Store → Store)
    (rows : List RowKey) (knows : Store → Prop) : Prop :=
  Foreseen rows knows pending fun store => call.confirms = true → Backed (.left store :: journal)

theorem AtEnd.finishes (ends : AtEnd call journal pending rows knows) :
    (enqueueConduct call).finishes paymentRely () journal pending rows knows :=
  fun store _ known => ⟨ends.honoured store, fun _ => ends.leads store known⟩

theorem discard_follows {program : Tx α}
    (follows : program.Follows paymentRely (enqueueConduct call)
      (fun _ => AtEnd call) [] id [] fun _ => True) :
    (discard program).Follows paymentRely (enqueueConduct call)
      ((enqueueConduct call).finishes paymentRely) [] id [] fun _ => True :=
  Follows.bind follows fun _ _ _ _ _ ends => ends.finishes

/-! ## The calls -/

theorem hasSettled_applyUpdate {store : Store} {id : String} {data : PaymentUpdate}
    (settled : data.status = .settled) (here : store.hasPayment id = true) :
    Store.hasSettled { store with payments := store.payments.applyUpdate id data } id = true := by
  obtain ⟨row, member, named⟩ := List.any_eq_true.mp here
  refine List.any_eq_true.mpr ⟨row.apply data, ?_, ?_⟩
  · simp only [PaymentTable.applyUpdate, UniqueTable.modify_rows, List.mem_map]
    exact ⟨row, member, by rw [if_pos named]⟩
  · have same : row.id = id := by simpa using named
    simp [Payment.apply, settled, same, PaymentPushes.settledPaymentStatuses]

def Applied (input : SettlementInput) (store : Store) : Prop :=
  input.gatewayStatus = .succeeded → store.hasSettled input.paymentId = true

/-- Applied to a payment that is there, a success will leave it settled. -/
theorem applySettlement_follows (input : SettlementInput)
    (foreseen : Foreseen rows knows pending fun store => store.hasPayment input.paymentId = true) :
    (applySettlement input).Follows paymentRely (enqueueConduct call)
      (fun _ later pending rows knows => Foreseen rows knows pending (Applied input) ∧
        ∀ label, .told label ∈ later → .told label ∈ journal)
      journal pending rows knows := by
  unfold applySettlement
  split
  next succeeded =>
    refine follows_orThrow (Q := Applied input) foreseen (confined_updatePayment _ _)
      (fun store here _ => hasSettled_applyUpdate rfl here) fun settles => ?_
    simp only
    split
    next => exact ⟨settles, by simp⟩
    next =>
      refine follows_orThrow (Q := Applied input) settles (confined_same fun _ => rfl)
        (fun _ applied => applied) fun settles => ?_
      refine follows_always (Q := Applied input) settles (confined_same fun _ => rfl)
        (fun _ applied => applied) (fun settles => ?_) ?_
      · exact ⟨settles, by simp⟩
      · exact ⟨settles, by simp⟩
  next failed =>
    have nothing : ∀ store, Applied input store := by
      intro store succeeded
      rw [failed] at succeeded
      cases succeeded
    refine follows_orThrow (Q := Applied input) foreseen (confined_updatePayment _ _)
      (fun _ _ => nothing _) fun declines => ?_
    simp only
    split
    next => exact ⟨declines, by simp⟩
    next =>
      refine follows_orThrow (Q := Applied input) declines (confined_same fun _ => rfl)
        (fun _ applied => applied) fun declines => ?_
      refine follows_always (Q := Applied input) declines (confined_same fun _ => rfl)
        (fun _ applied => applied) (fun declines => ?_) ?_
      · exact ⟨declines, by simp⟩
      · exact ⟨declines, by simp⟩
  next other _ =>
    refine Follows.writeRows foreseen.stable ?_ nofun
    exact ⟨foreseen.andThen (confined_updatePayment _ _) fun _ _ succeeded =>
      absurd succeeded other, by simp⟩

theorem hasPayment_of_mem {store : Store} {payment : Payment}
    (member : payment ∈ store.payments.rows) : store.hasPayment payment.id = true :=
  List.any_eq_true.mpr ⟨payment, member, by simp⟩

theorem follows_found {next : Store → Tx α}
    (rest : ∀ store, ∃ learns : Store → Prop, paymentRely.Stable [] learns ∧ learns store ∧
      (next store).Follows paymentRely (enqueueConduct call) last (.found store :: journal) id []
        learns) :
    (read >>= next).Follows paymentRely (enqueueConduct call) last journal id [] knows :=
  fun store _ _ => rest store

theorem Foreseen.found (paymentId : String) :
    Foreseen [] (fun store => store.hasPayment paymentId = true) id
      fun store => store.hasPayment paymentId = true :=
  ⟨.unchanged, fun _ _ _ leads _ here => leads _ here, fun _ here => here⟩

theorem AtEnd.start (late : call.confirms = false) : AtEnd call journal id [] fun _ => True :=
  Foreseen.start.mono fun _ _ confirms => by
    rw [late] at confirms
    cases confirms

theorem recordManualPayment_follows (scope : Scope) (brandId invoiceId paymentId uuid : String)
    (input : RecordManualPaymentInput) (late : call.confirms = false) :
    (InvoicesService.recordManualPayment scope brandId invoiceId paymentId uuid input).Follows
      paymentRely (enqueueConduct call) (fun _ => AtEnd call) [] id [] fun _ => True := by
  unfold InvoicesService.recordManualPayment
  refine Follows.read Rely.stable_true fun store _ _ => ?_
  refine follows_require (fun _ => nofun) fun _ => ?_
  refine follows_ofExcept fun amountMinor => ?_
  refine follows_transitionOrConflict (fun _ => nofun) fun target _ => ?_
  refine follows_write (Q := fun _ => True) .start (confined_same fun _ => rfl)
    (fun _ _ => trivial) (fun updated => ?_) nofun
  refine follows_require (fun _ => nofun) fun _ => ?_
  refine follows_createPayment updated (fun _ => rfl) rfl fun _ taken pending learns created _ => ?_
  have settled : Foreseen taken learns pending fun store => store.hasSettled paymentId = true :=
    created.mono fun store member => List.any_eq_true.mpr ⟨_, member, by
      simp [InvoicesService.manualPayment, PaymentPushes.settledPaymentStatuses]⟩
  have enqueues : ∀ later taken pending learns, 
      Foreseen taken learns pending (fun store => store.hasSettled paymentId = true) →
        (do
          let updated ← read
          commitNow
          announce (.enqueue (.pushPayment brandId paymentId))
          pure updated.invoice : Tx Invoice).Follows paymentRely (enqueueConduct call)
            (fun _ => AtEnd call) later pending taken learns := by
    intro later taken pending learns settled
    refine Follows.read settled.stable fun updated _ _ => ?_
    refine follows_commit settled fun store left => ?_
    refine Follows.announce (fun _ _ _ _ _ _ same => ?_) (.start late)
    cases same
    exact ⟨store, by simp, left⟩
  refine follows_always (Q := fun store => store.hasSettled paymentId = true) settled
    (confined_same fun _ => rfl) (fun _ left => left) (fun settled => ?_) ?_
  · exact enqueues _ _ _ _ settled
  · exact enqueues _ _ _ _ settled

variable (gateway : PaymentGatewayPort π)

theorem handleWebhook_follows (rawBody : π) (headers : List (String × String))
    (brandId : Option String) (late : call.confirms = false) :
    (handleWebhook gateway rawBody headers brandId).Follows paymentRely (enqueueConduct call)
      (fun _ => AtEnd call) [] id [] fun _ => True := by
  unfold handleWebhook
  refine follows_require (fun _ => nofun) fun _ => ?_
  refine follows_ofExcept fun event => ?_
  split
  next => exact .start late
  next attributed _ =>
    refine follows_found fun store => ?_
    have returns : ∀ journal, ∃ learns : Store → Prop, paymentRely.Stable [] learns ∧
        learns store ∧ (pure () : Tx Unit).Follows paymentRely (enqueueConduct call)
          (fun _ => AtEnd call) journal id [] learns :=
      fun _ => ⟨_, Rely.stable_true, trivial, .start late⟩
    simp only
    split
    next => exact returns _
    next payment found =>
      split
      next => exact returns _
      split
      next => exact returns _
      split
      next => exact returns _
      refine ⟨_, (Foreseen.found payment.id).stable,
        hasPayment_of_mem (List.mem_of_find?_eq_some found), ?_⟩
      refine Follows.bind (applySettlement_follows _ (.found _)) ?_
      rintro _ later pending rows knows ⟨applied, _⟩
      refine follows_commit applied fun left applied => ?_
      split
      next succeeded =>
        refine Follows.announce (fun _ _ _ _ _ _ same => ?_) (.start late)
        cases same
        exact ⟨left, by simp, applied succeeded⟩
      next => exact .start late

theorem reportPayment_follows {paymentId : String}
    (ends : ∀ store, AtEnd call (.found store :: journal) pending rows knows)
    (stable : paymentRely.Stable rows knows) :
    (reportPayment paymentId).Follows paymentRely (enqueueConduct call) (fun _ => AtEnd call)
      journal pending rows knows := by
  unfold reportPayment
  refine Follows.read stable fun store _ _ => ?_
  split
  next => exact nofun
  next => exact ends store

theorem confirmClientResult_follows (now : Time) (scope : PublicScope)
    (gatewayReference : String) :
    (confirmClientResult gateway now scope gatewayReference).Follows paymentRely
      (enqueueConduct (.confirmClientResult gateway now scope gatewayReference))
      (fun _ => AtEnd (.confirmClientResult gateway now scope gatewayReference)) [] id []
      fun _ => True := by
  have silent : ∀ {journal : Journal Store Effect} {pending : Store → Store}
      {rows : List RowKey} {knows : Store → Prop} {P : Store → Prop},
      Foreseen rows knows pending P → (∀ label, .told label ∉ journal) →
        AtEnd (.confirmClientResult gateway now scope gatewayReference) journal pending rows
          knows := by
    intro journal pending rows knows P foreseen told
    refine foreseen.mono fun store _ _ brandId paymentId member => ?_
    exact absurd member (by simpa using told _)
  unfold confirmClientResult
  refine follows_found fun store => ?_
  simp only
  split
  next => exact ⟨_, Rely.stable_true, trivial, nofun⟩
  next payment found =>
    have here : (store.payments.rows.any fun row => row.id = payment.id) = true :=
      hasPayment_of_mem (List.mem_of_find?_eq_some found)
    split
    next =>
      refine ⟨_, (Foreseen.found payment.id).stable, here, ?_⟩
      refine follows_ofExcept fun intent => ?_
      split
      next =>
        refine Follows.bind (applySettlement_follows _ (.found _)) ?_
        rintro _ later pending rows knows ⟨applied, told⟩
        split
        next succeeded =>
          refine Follows.announce (fun _ _ _ => nofun) ?_
          refine reportPayment_follows (fun report => ?_) applied.stable
          refine applied.mono fun left applied _ brandId paymentId member => ?_
          have earlier : Entry.told (.enqueue (.pushPayment brandId paymentId)) ∉ later :=
            fun member => by simpa using told _ member
          obtain ⟨_, rfl⟩ : brandId = payment.brandId ∧ paymentId = payment.id := by
            simpa [earlier] using member
          exact ⟨left, by simp, applied succeeded⟩
        next =>
          exact reportPayment_follows (fun report => silent applied (by simpa using told))
            applied.stable
      next =>
        exact reportPayment_follows (fun report => silent (.found _) (by simp))
          (Foreseen.found _).stable
    next => exact ⟨_, Rely.stable_true, trivial, silent .start (by simp)⟩

theorem startIntent_follows {next : PaymentIntent → Tx α} {input : CreateIntentInput}
    (rest : ∀ intent later, (next intent).Follows paymentRely (enqueueConduct call) last later
      pending rows knows) :
    (startIntent gateway input >>= next).Follows paymentRely (enqueueConduct call) last journal
      pending rows knows := by
  have silent : ∀ store, (enqueueConduct call).tells journal store (.gatewayCreateIntent input) :=
    fun _ _ _ _ => nofun
  unfold startIntent
  rw [bind_bind]
  refine Follows.announce (fun store _ _ => silent store) ?_
  exact follows_ofExcept fun intent => rest intent _

theorem createIntent_follows (env : Env) (paymentId : String) (scope : PublicScope)
    (method : PaymentMethod) (attemptNonce : String) (late : call.confirms = false) :
    (createIntent env gateway paymentId scope method attemptNonce).Follows paymentRely
      (enqueueConduct call) (fun _ => AtEnd call) [] id [] fun _ => True := by
  unfold createIntent
  refine Follows.read Rely.stable_true fun store _ _ => ?_
  refine follows_require (fun _ => nofun) fun _ => ?_
  refine Follows.read Rely.stable_true fun settings _ _ => ?_
  refine follows_require (fun _ => nofun) fun _ => ?_
  refine follows_ofExcept fun quote => ?_
  refine Follows.read Rely.stable_true fun keys _ _ => ?_
  simp only
  split
  next => exact .start late
  next =>
    unfold startAttempt
    refine follows_transitionOrConflict (fun _ => nofun) fun target _ => ?_
    refine follows_createPayment .start (fun _ => rfl) rfl
      fun later taken pending learns created _ => ?_
    have here : Foreseen taken learns pending fun store => store.hasPayment paymentId = true :=
      created.mono fun _ => hasPayment_of_mem
    refine follows_orThrow (Q := fun store => store.hasPayment paymentId = true) here
      (confined_same fun _ => rfl) (fun _ here => here) fun here => ?_
    refine startIntent_follows gateway fun intent later => ?_
    refine follows_orThrow (Q := fun store => store.hasPayment paymentId = true) here
      (confined_reference paymentId intent.gatewayReference)
      (fun store => Confined.keeps (confined_reference paymentId _ : Confined [] _) store paymentId)
      fun here => ?_
    refine Follows.bind (applySettlement_follows _ here) ?_
    rintro _ later pending rows knows ⟨applied, _⟩
    refine Follows.read applied.stable fun final _ _ => ?_
    refine follows_commit applied fun left applied => ?_
    by_cases succeeded : intent.status = .succeeded
    · simp only [succeeded, if_true]
      refine Follows.announce (fun _ _ _ _ _ _ same => ?_) (.start late)
      cases same
      exact ⟨left, by simp, applied succeeded⟩
    · simp only [succeeded, if_false]
      exact .start late

/-- In every call, what is enqueued after the commit is settled by then, and what is enqueued
before it is once the call has returned. -/
theorem settlingCall_follows (env : Env) (call : SettlingCall π) :
    (call.program env).Follows paymentRely (enqueueConduct call)
      ((enqueueConduct call).finishes paymentRely) [] id [] fun _ => True := by
  cases call with
  | createIntent gateway paymentId scope method attemptNonce =>
      exact discard_follows (createIntent_follows gateway env paymentId scope method attemptNonce
        rfl)
  | handleWebhook gateway rawBody headers brandId =>
      exact (handleWebhook_follows gateway rawBody headers brandId rfl).mono
        fun _ _ _ _ _ ends => ends.finishes
  | confirmClientResult gateway now scope gatewayReference =>
      exact discard_follows (confirmClientResult_follows gateway now scope gatewayReference)
  | recordManualPayment scope brandId id paymentId uuid input =>
      exact discard_follows (recordManualPayment_follows scope brandId id paymentId uuid input rfl)

end Rules

end MultiBrandInvoicing
