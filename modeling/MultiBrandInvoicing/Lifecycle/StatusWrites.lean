import MultiBrandInvoicing.Integrations.PullEffects
import MultiBrandInvoicing.Lifecycle.Reachability

/-!
# Status writes under READ COMMITTED

Every operation reads the status, decides, and writes the result.  Which of these
writes are still legal when they reach the row, whatever ran in between, is a fact
about the text of each operation and its WHERE clauses.
-/

set_option autoImplicit false

namespace MultiBrandInvoicing

open ReadCommitted Program

inductive StatusOperation (π ν : Type) where
  | view (numbers : ZohoNumbers ν) (brandId : String) (connected : Bool)
      (fetched : Except String (ZohoInvoiceDetail ν)) (now : Time)
      (stripeAccountId : Option String) (scope : PublicScope)
  | issue (scope : Scope) (brandId id : String) (now : Time)
  | createIntent (gateway : PaymentGatewayPort π) (paymentId : String) (scope : PublicScope)
      (method : PaymentMethod) (attemptNonce : String)
  | handleWebhook (gateway : PaymentGatewayPort π) (rawBody : π)
      (headers : List (String × String)) (brandId : Option String)
  | confirmClientResult (gateway : PaymentGatewayPort π) (now : Time) (scope : PublicScope)
      (gatewayReference : String)
  | recordManualPayment (scope : Scope) (brandId id paymentId uuid : String)
      (input : RecordManualPaymentInput)
  | cancel (scope : Scope) (brandId id : String) (now : Time)

def discard {α : Type} (program : Tx α) : Tx Unit := program >>= fun _ => pure ()

def StatusOperation.program {π ν : Type} (env : Env) : StatusOperation π ν → Tx Unit
  | view numbers brandId connected fetched now stripeAccountId scope =>
      discard (PublicInvoicesService.view
        (ZohoPullService.enrichInvoiceFromZohoOnDemand numbers brandId scope.invoiceId connected
          fetched) now stripeAccountId scope)
  | issue scope brandId id now => discard (InvoicesService.issue scope brandId id now)
  | createIntent gateway paymentId scope method attemptNonce =>
      discard (PaymentsService.createIntent env gateway paymentId scope method attemptNonce)
  | handleWebhook gateway rawBody headers brandId =>
      PaymentsService.handleWebhook gateway rawBody headers brandId
  | confirmClientResult gateway now scope gatewayReference =>
      discard (PaymentsService.confirmClientResult gateway now scope gatewayReference)
  | recordManualPayment scope brandId id paymentId uuid input =>
      discard (InvoicesService.recordManualPayment scope brandId id paymentId uuid input)
  | cancel scope brandId id now => discard (InvoicesService.cancel scope brandId id now)

/-! ## What the text of the operations says about their writes -/

/-- A status write sets the status its transition leads to, and CANCEL asks for the status
it was decided from; nothing else touches the status. -/
def Truthful (label : Effect) (applies : Store → Bool) (change : Store → Store) : Prop :=
  match label with
  | .statusWrite transition context target =>
      evaluateTransition transition context = .ok target ∧
        (∀ store, (change store).invoice.status = target) ∧
        (transition = .cancel → ∀ store, applies store = true →
          store.invoice.status = context.status)
  | _ => ∀ store, (change store).invoice.status = store.invoice.status

def KeepsRows (change : Store → Store) : Prop :=
  ∀ store, (change store).invoice.id = store.invoice.id ∧
    ∀ id, (∃ row ∈ store.payments.rows, row.id = id) →
      ∃ row ∈ (change store).payments.rows, row.id = id

def Modest (label : Effect) (applies : Store → Bool) (change : Store → Store) : Prop :=
  Truthful label applies change ∧ KeepsRows change

section Statements

variable {α : Type}

theorem modest_kept {applies : Store → Bool} {change : Store → Store}
    (status : ∀ store, (change store).invoice.status = store.invoice.status)
    (id : ∀ store, (change store).invoice.id = store.invoice.id)
    (payments : ∀ store, (change store).payments = store.payments) :
    Modest .rowWrite applies change := by
  refine ⟨status, fun store => ⟨id store, ?_⟩⟩
  intro named here
  rw [payments]
  exact here

theorem modest_detail {applies : Store → Bool} {change : Store → Store}
    (only : ∀ store, ZohoPullService.DetailOnly store (change store)) :
    Modest .rowWrite applies change := by
  refine modest_kept ?_ ?_ ?_
  · intro store
    rw [only store]
  · intro store
    rw [only store]
  · intro store
    rw [only store]

theorem modest_status {transition : InvoiceTransition} {context : TransitionContext}
    {target : InvoiceStatus} {applies : Store → Bool} {change : Store → Store}
    (granted : evaluateTransition transition context = .ok target)
    (sets : ∀ store, (change store).invoice.status = target)
    (id : ∀ store, (change store).invoice.id = store.invoice.id)
    (payments : ∀ store, (change store).payments = store.payments)
    (compares : transition = .cancel → ∀ store, applies store = true →
      store.invoice.status = context.status) :
    Modest (.statusWrite transition context target) applies change := by
  refine ⟨⟨granted, sets, compares⟩, fun store => ⟨id store, ?_⟩⟩
  intro named here
  rw [payments]
  exact here

theorem modest_updatePayment {applies : Store → Bool} (id : String) (data : PaymentUpdate) :
    Modest .rowWrite applies fun store =>
      { store with payments := store.payments.applyUpdate id data } := by
  refine ⟨fun _ => rfl, fun store => ⟨rfl, ?_⟩⟩
  rintro named ⟨row, member, rfl⟩
  simp only [PaymentTable.applyUpdate, UniqueTable.modify_rows, List.mem_map]
  refine ⟨_, ⟨row, member, rfl⟩, ?_⟩
  split <;> rfl

theorem modest_createPayment {applies : Store → Bool} (payment : Payment) :
    Modest .rowWrite applies fun store =>
      { store with payments := (store.payments.insert? payment).getD store.payments } := by
  refine ⟨fun _ => rfl, fun store => ⟨rfl, ?_⟩⟩
  rintro named ⟨row, member, rfl⟩
  refine ⟨row, ?_, rfl⟩
  change row ∈ ((store.payments.insert? payment).getD store.payments).rows
  cases inserted : store.payments.insert? payment with
  | none => exact member
  | some payments =>
      rw [Option.getD_some, UniqueTable.rows_of_insert? inserted]
      exact List.mem_append_left _ member

theorem modest_reference {applies : Store → Bool} (id reference : String) :
    Modest .rowWrite applies fun store =>
      { store with
        payments := (store.payments.assignReference? id reference).getD store.payments } := by
  refine ⟨fun _ => rfl, fun store => ⟨rfl, ?_⟩⟩
  rintro named ⟨row, member, rfl⟩
  change ∃ other ∈
    ((store.payments.assignReference? id reference).getD store.payments).rows, other.id = row.id
  cases assigned : store.payments.assignReference? id reference with
  | none => exact ⟨row, member, rfl⟩
  | some payments =>
      rw [Option.getD_some, UniqueTable.rows_of_update? assigned]
      refine ⟨_, List.mem_map.mpr ⟨row, member, rfl⟩, ?_⟩
      split <;> rfl

theorem modest_event {applies : Store → Bool} (event : InvoiceEvent) :
    Modest .rowWrite applies fun store => { store with events := store.events ++ [event] } :=
  modest_kept (fun _ => rfl) (fun _ => rfl) fun _ => rfl

theorem writes_require {condition : Bool} {error : ServiceError} {next : Unit → Tx α}
    (rest : condition = true → (next ()).Writes Modest) :
    (require condition error >>= next).Writes Modest := by
  cases condition with
  | false => trivial
  | true => exact rest rfl

theorem writes_transitionOrConflict {transition : InvoiceTransition} {context : TransitionContext}
    {next : InvoiceStatus → Tx α}
    (rest : ∀ target, evaluateTransition transition context = .ok target →
      (next target).Writes Modest) :
    (transitionOrConflict transition context >>= next).Writes Modest := by
  unfold transitionOrConflict
  cases decided : evaluateTransition transition context with
  | refused code message => trivial
  | ok target => exact rest target decided

theorem writes_orThrow {label : Effect} {rows : List RowKey} {applies : Store → Bool}
    {change : Store → Store} {error : ServiceError} {next : Unit → Tx α}
    (here : Modest label applies change) (rest : (next ()).Writes Modest) :
    ((do
      let hit ← writeRows label rows applies change
      if hit then pure () else .throw error : Tx Unit) >>= next).Writes Modest := by
  refine ⟨here, ?_⟩
  intro hit
  cases hit with
  | false => trivial
  | true => exact rest

theorem writes_always {label : Effect} {rows : List RowKey} {applies : Store → Bool}
    {change : Store → Store} {next : Unit → Tx α} (here : Modest label applies change)
    (rest : (next ()).Writes Modest) :
    ((do
      let _ ← writeRows label rows applies change
      pure () : Tx Unit) >>= next).Writes Modest :=
  ⟨here, fun _ => rest⟩

end Statements

section Operations

variable {π ν : Type} (env : Env)

theorem issue_writes (scope : Scope) (brandId id : String) (now : Time) :
    (InvoicesService.issue scope brandId id now).Writes Modest := by
  unfold InvoicesService.issue
  refine Writes.read fun store => ?_
  refine writes_require fun _ => ?_
  refine writes_transitionOrConflict fun target granted => ?_
  refine writes_orThrow (modest_status granted (fun _ => rfl) (fun _ => rfl) (fun _ => rfl)
      (by simp)) ?_
  refine Writes.read fun updated => ?_
  refine writes_always (modest_event _) ?_
  exact trivial

theorem recordManualPayment_writes (scope : Scope) (brandId id paymentId uuid : String)
    (input : RecordManualPaymentInput) :
    (InvoicesService.recordManualPayment scope brandId id paymentId uuid input).Writes
      Modest := by
  unfold InvoicesService.recordManualPayment
  refine Writes.read fun store => ?_
  refine writes_require fun _ => ?_
  refine Writes.ofExcept fun amountMinor _ => ?_
  refine writes_transitionOrConflict fun target granted => ?_
  refine Writes.writeRows (modest_status granted (fun _ => rfl) (fun _ => rfl) (fun _ => rfl)
      (by simp)) fun matched => ?_
  refine writes_require fun _ => ?_
  refine writes_orThrow (modest_createPayment _) ?_
  refine writes_always (modest_event _) ?_
  exact Writes.read fun _ => trivial

theorem cancel_writes (scope : Scope) (brandId id : String) (now : Time) :
    (InvoicesService.cancel scope brandId id now).Writes Modest := by
  unfold InvoicesService.cancel
  refine Writes.read fun store => ?_
  refine writes_require fun _ => ?_
  refine writes_transitionOrConflict fun target granted => ?_
  refine Writes.writeRows (modest_status granted (fun _ => rfl) (fun _ => rfl)
      (fun _ => rfl) ?_) fun matched => ?_
  · intro _ found applies
    simp only [Bool.and_eq_true, decide_eq_true_eq] at applies
    exact applies.2
  refine writes_require fun _ => ?_
  refine writes_always (modest_event _) ?_
  refine Writes.read fun updated => ?_
  refine Writes.commitNow ?_
  by_cases pushed : updated.invoice.isPushed = true
  · rw [if_pos pushed]
    exact trivial
  · rw [if_neg pushed]
    exact trivial

/-- Settling writes the status by SETTLE_FULL or PAYMENT_FAILED only. -/
theorem applySettlement_writes (input : PaymentsService.SettlementInput) :
    (PaymentsService.applySettlement input).Writes Modest := by
  unfold PaymentsService.applySettlement
  split
  · refine writes_orThrow (modest_updatePayment _ _) ?_
    simp only
    split
    · exact trivial
    · rename_i target granted
      refine writes_orThrow (modest_status granted (fun _ => rfl) (fun _ => rfl) (fun _ => rfl)
          (by simp)) ?_
      exact ⟨modest_event _, fun _ => trivial⟩
  · refine writes_orThrow (modest_updatePayment _ _) ?_
    simp only
    split
    · exact trivial
    · rename_i target granted
      refine writes_orThrow (modest_status granted (fun _ => rfl) (fun _ => rfl) (fun _ => rfl)
          (by simp)) ?_
      exact ⟨modest_event _, fun _ => trivial⟩
  · refine ⟨modest_updatePayment _ _, ?_⟩
    intro hit
    cases hit <;> trivial

theorem handleWebhook_writes (gateway : PaymentGatewayPort π) (rawBody : π)
    (headers : List (String × String)) (brandId : Option String) :
    (PaymentsService.handleWebhook gateway rawBody headers brandId).Writes Modest := by
  unfold PaymentsService.handleWebhook
  refine writes_require fun _ => ?_
  refine Writes.ofExcept fun event _ => ?_
  split
  · exact trivial
  · refine Writes.read fun store => ?_
    simp only
    split
    · exact trivial
    · split
      · exact trivial
      · split
        · exact trivial
        · split
          · exact trivial
          · refine Writes.bind (applySettlement_writes _) fun _ => ?_
            refine Writes.commitNow ?_
            split <;> exact trivial

theorem reportPayment_writes (paymentId : String) :
    (PaymentsService.reportPayment paymentId).Writes Modest := by
  unfold PaymentsService.reportPayment
  refine Writes.read fun store => ?_
  split <;> exact trivial

theorem confirmClientResult_writes (gateway : PaymentGatewayPort π) (now : Time)
    (scope : PublicScope) (gatewayReference : String) :
    (PaymentsService.confirmClientResult gateway now scope gatewayReference).Writes Modest := by
  unfold PaymentsService.confirmClientResult
  refine Writes.read fun store => ?_
  simp only
  split
  · exact trivial
  · split
    · refine Writes.ofExcept fun intent _ => ?_
      split
      · refine Writes.bind (applySettlement_writes _) fun _ => ?_
        split
        · exact Writes.announce (reportPayment_writes _)
        · exact reportPayment_writes _
      · exact reportPayment_writes _
    · exact trivial

theorem createIntent_writes (gateway : PaymentGatewayPort π) (paymentId : String)
    (scope : PublicScope) (method : PaymentMethod) (attemptNonce : String) :
    (PaymentsService.createIntent env gateway paymentId scope method attemptNonce).Writes
      Modest := by
  unfold PaymentsService.createIntent
  refine Writes.read fun store => ?_
  refine writes_require fun _ => ?_
  refine Writes.read fun _ => ?_
  refine writes_require fun _ => ?_
  refine Writes.ofExcept fun quote _ => ?_
  refine Writes.read fun _ => ?_
  simp only
  split
  · exact trivial
  · unfold PaymentsService.startAttempt
    refine writes_transitionOrConflict fun target granted => ?_
    refine writes_orThrow (modest_createPayment _) ?_
    refine writes_orThrow (modest_status granted (fun _ => rfl) (fun _ => rfl) (fun _ => rfl)
        (by simp)) ?_
    refine Writes.bind (Writes.announce ?_) fun intent => ?_
    · cases gateway.createIntent _ <;> exact trivial
    refine writes_orThrow (modest_reference _ _) ?_
    refine Writes.bind (applySettlement_writes _) fun _ => ?_
    refine Writes.read fun final => ?_
    refine Writes.commitNow ?_
    by_cases succeeded : intent.status = .succeeded
    · simp only [succeeded, if_true]
      exact trivial
    · simp only [succeeded, if_false]
      exact trivial

theorem enrich_writes (numbers : ZohoNumbers ν) (brandId invoiceId : String) (connected : Bool)
    (fetched : Except String (ZohoInvoiceDetail ν)) :
    (ZohoPullService.enrichInvoiceFromZohoOnDemand numbers brandId invoiceId connected
      fetched).Writes Modest := by
  unfold ZohoPullService.enrichInvoiceFromZohoOnDemand
  refine Writes.read fun existing => ?_
  split
  · refine Writes.ofExcept fun detail _ => Writes.bind ?_ fun _ => trivial
    refine Writes.mono ?_ (ZohoPullService.applyInvoiceDetail_only numbers invoiceId detail _)
    rintro label applies change ⟨rfl, only⟩
    exact modest_detail only
  · exact trivial

theorem view_writes {enrich : Tx Bool} (quiet : enrich.Writes Modest) (now : Time)
    (stripeAccountId : Option String) (scope : PublicScope) :
    (PublicInvoicesService.view enrich now stripeAccountId scope).Writes Modest := by
  unfold PublicInvoicesService.view
  refine Writes.read fun first => ?_
  split
  · refine Writes.bind ?_ fun store => Writes.bind ?_ fun status =>
      Writes.ofExcept fun _ _ => trivial
    · unfold PublicInvoicesService.loadEnriched
      split
      · refine Writes.bind quiet.attempt fun enriched => Writes.commitNow ?_
        split
        · exact fun _ => trivial
        · exact trivial
      · exact trivial
    · unfold PublicInvoicesService.recordFirstView
      split
      · split
        · exact trivial
        · rename_i target granted
          refine writes_orThrow (modest_status granted (fun _ => rfl) (fun _ => rfl) (fun _ => rfl)
              (by simp)) ?_
          exact writes_always (modest_event _) trivial
      · exact trivial
  · exact trivial

theorem program_writes (operation : StatusOperation π ν) :
    (operation.program env).Writes Modest := by
  cases operation with
  | view numbers brandId connected fetched now stripeAccountId scope =>
      have quiet := enrich_writes numbers brandId scope.invoiceId connected fetched
      exact Writes.bind (view_writes quiet now stripeAccountId scope) fun _ => trivial
  | issue scope brandId id now =>
      exact Writes.bind (issue_writes scope brandId id now) fun _ => trivial
  | createIntent gateway paymentId scope method attemptNonce =>
      exact Writes.bind (createIntent_writes env gateway paymentId scope method attemptNonce)
        fun _ => trivial
  | handleWebhook gateway rawBody headers brandId =>
      exact handleWebhook_writes gateway rawBody headers brandId
  | confirmClientResult gateway now scope gatewayReference =>
      exact Writes.bind (confirmClientResult_writes gateway now scope gatewayReference)
        fun _ => trivial
  | recordManualPayment scope brandId id paymentId uuid input =>
      exact Writes.bind (recordManualPayment_writes scope brandId id paymentId uuid input)
        fun _ => trivial
  | cancel scope brandId id now =>
      exact Writes.bind (cancel_writes scope brandId id now) fun _ => trivial

end Operations

/-! ## When a write is legal where it lands -/

/-- The write sets the status the state machine gives for its transition from the status
stored in the row, or leaves the status alone. -/
def LegalWrite (label : Effect) (before after : Store) : Prop :=
  match label with
  | .statusWrite transition context target =>
      evaluateTransition transition { context with status := before.invoice.status } =
          .ok target ∧
        after.invoice.status = target
  | _ => after.invoice.status = before.invoice.status

/-- What the stored status may have become since the operation read it.  CANCEL compares
it in its WHERE clause. -/
def StillOpen (label : Effect) (stored : InvoiceStatus) : Prop :=
  match label with
  | .statusWrite transition context _ =>
      match transition with
      | .cancel => True
      | .initiatePayment => isPayable stored = true
      | .recordPayment => isPayable stored = true
      | .settleFull => stored = .pendingPayment ∨ stored = .partiallyPaid
      | .settlePartial => stored = .pendingPayment ∨ stored = .partiallyPaid
      | .issue => stored = context.status
      | .firstView => stored = context.status
      | .paymentFailed => stored = context.status
  | _ => True

/-- A decision made from one status holds from every status its transition may start from:
the guards look at everything but the status. -/
theorem evaluateTransition_from {transition : InvoiceTransition} {context : TransitionContext}
    {target : InvoiceStatus} (granted : evaluateTransition transition context = .ok target)
    (stored : InvoiceStatus) :
    evaluateTransition transition { context with status := stored } = .ok target ↔
      stored ∈ allowed transition := by
  have guards : transitionGuards transition { context with status := stored } =
      transitionGuards transition context := by
    cases transition <;> rfl
  rw [evaluateTransition_ok_iff, guards]
  exact and_iff_left (evaluateTransition_ok_iff.mp granted).2

theorem legalWrite_iff {label : Effect} {applies : Store → Bool} {change : Store → Store}
    {before : Store} (truthful : Truthful label applies change) (hit : applies before = true) :
    LegalWrite label before (change before) ↔ StillOpen label before.invoice.status := by
  cases label with
  | statusWrite transition context target =>
      obtain ⟨granted, sets, compares⟩ := truthful
      have started : context.status ∈ allowed transition := (evaluateTransition_ok_iff.mp granted).1
      have only : LegalWrite (.statusWrite transition context target) before (change before) ↔
          before.invoice.status ∈ allowed transition := by
        simp only [LegalWrite, sets before, and_true]
        exact evaluateTransition_from granted before.invoice.status
      rw [only]
      cases transition with
      | cancel =>
          rw [compares rfl before hit]
          exact iff_of_true started trivial
      | initiatePayment =>
          simp only [StillOpen]
          cases before.invoice.status <;> decide
      | recordPayment =>
          simp only [StillOpen]
          cases before.invoice.status <;> decide
      | settleFull => simp [StillOpen, allowed]
      | settlePartial => simp [StillOpen, allowed]
      | issue =>
          have read : context.status = .draft := by simpa [allowed] using started
          simp [StillOpen, allowed, read]
      | firstView =>
          have read : context.status = .sent := by simpa [allowed] using started
          simp [StillOpen, allowed, read]
      | paymentFailed =>
          have read : context.status = .pendingPayment := by simpa [allowed] using started
          simp [StillOpen, allowed, read]
  | rowWrite => exact iff_of_true (truthful before) trivial
  | gatewayCreateIntent input => exact iff_of_true (truthful before) trivial
  | enqueue job => exact iff_of_true (truthful before) trivial

/-- A legal status write never replaces PAID or CANCELLED. -/
theorem not_terminal_of_legal {transition : InvoiceTransition} {context : TransitionContext}
    {target : InvoiceStatus} {before after : Store}
    (legal : LegalWrite (.statusWrite transition context target) before after) :
    isTerminal before.invoice.status = false := by
  have listed : before.invoice.status ∈ allowed transition :=
    (evaluateTransition_ok_iff.mp legal.1).1
  cases status : before.invoice.status <;> cases transition <;>
    simp_all [allowed, isTerminal, terminalStatuses]

/-- In every interleaving, every write of every operation is legal where it lands exactly
when the stored status is still one its operation can go on from, and then it replaces no
final status. -/
theorem status_writes_legal_iff {ι π ν : Type} [DecidableEq ι] (env : Env)
    (operations : ι → StatusOperation π ν) {store : Store} {schedule : List (Action ι)}
    {final : Config ι Store RowKey Effect ServiceError Unit}
    (run : (Config.start store fun session => (operations session).program env).run? schedule =
      some final)
    {session : ι} {label : Effect} {before after : Store}
    (made : Event.wrote session label before after ∈ final.history) :
    (LegalWrite label before after ↔ StillOpen label before.invoice.status) ∧
      (LegalWrite label before after → isTerminal before.invoice.status = true →
        after.invoice.status = before.invoice.status) := by
  have text : ∀ session, ((operations session).program env).Writes Modest :=
    fun session => program_writes env (operations session)
  have iff_ : LegalWrite label before after ↔ StillOpen label before.invoice.status :=
    Config.wrote_holds (Q := fun label before after =>
        LegalWrite label before after ↔ StillOpen label before.invoice.status)
      (fun _ _ _ _ modest hit => legalWrite_iff modest.1 hit) text run made
  refine ⟨iff_, ?_⟩
  intro legal terminal
  cases label with
  | statusWrite transition context target =>
      rw [not_terminal_of_legal legal] at terminal
      cases terminal
  | rowWrite => exact legal
  | gatewayCreateIntent input => exact legal
  | enqueue job => exact legal

/-! ## A page view overtaken by a cancellation -/

def sampleNumbers : ZohoNumbers Unit where
  mul := fun _ _ => ()
  roundScaled := fun _ _ => 0
  ratioBp := fun _ _ => 0
  parseDate := fun _ => none

def sampleViewAndCancel : Bool → StatusOperation GatewayWebhookEvent Unit
  | true => .view sampleNumbers "brand" false (.error "not connected") 5 none samplePayer
  | false => .cancel (.user "staff") "brand" "invoice" 4

def sampleOvertaken : List (Action Bool) :=
  .advance true :: List.replicate 6 (.advance false) ++ List.replicate 3 (.advance true)

/-- The cancellation's own write is legal: its WHERE clause has compared the status. -/
theorem status_writes_legal_iff_sample :
    ∃ final context before after,
      (Config.start ((sampleIssue GatewayWebhookEvent).perform sampleEnv sampleInvoice)
        fun session => (sampleViewAndCancel session).program sampleEnv).run? sampleOvertaken =
          some final ∧
      Event.wrote false (.statusWrite .cancel context .cancelled) before after ∈
        final.history ∧
      LegalWrite (.statusWrite .cancel context .cancelled) before after := by
  have cancels : ∃ final context before after,
      (Config.start ((sampleIssue GatewayWebhookEvent).perform sampleEnv sampleInvoice)
        fun session => (sampleViewAndCancel session).program sampleEnv).run? sampleOvertaken =
          some final ∧
      Event.wrote false (.statusWrite .cancel context .cancelled) before after ∈
        final.history :=
    ⟨_, _, _, _, rfl, List.mem_of_getElem? (i := 2) rfl⟩
  obtain ⟨final, context, before, after, run, made⟩ := cancels
  refine ⟨final, context, before, after, run, made, ?_⟩
  exact (status_writes_legal_iff sampleEnv sampleViewAndCancel run made).1.mpr trivial

theorem cancelled_overwritten :
    ∃ final label before after,
      (Config.start ((sampleIssue GatewayWebhookEvent).perform sampleEnv sampleInvoice)
        fun session => (sampleViewAndCancel session).program sampleEnv).run? sampleOvertaken =
          some final ∧
      Event.wrote true label before after ∈ final.history ∧
      before.invoice.status = .cancelled ∧ ¬LegalWrite label before after ∧
      final.committed.invoice.status = .viewed := by
  refine ⟨_, _, _, _, rfl, List.mem_of_getElem? (i := 7) rfl, rfl, ?_, rfl⟩
  intro legal
  exact absurd legal.1 (by decide)

end MultiBrandInvoicing
