import MultiBrandInvoicing.Lifecycle.Ledger
import MultiBrandInvoicing.Mirroring.Reconciliation
import MultiBrandInvoicing.Mirroring.RoundTrip

/-!
# What payments apply to a pushed invoice

A payment is pushed for the amount it was taken for, the card fee of its method included.  The
invoice is pushed with its stored columns, and the card fee stored with an invoice created here
is always zero: whatever was charged on top, or paid twice, is applied to lines that do not
have it.  Pushes and operations take turns here in any order.
-/

set_option autoImplicit false

namespace MultiBrandInvoicing

open ReadCommitted Program PaymentsService ZohoBooksAdapter ZohoSyncService Reconciliation

namespace ZohoBooksAdapter

def amountApplied (payment : AccountingPayment) : ℚ :=
  minorToDecimal payment.amountMinor (toCurrencyCode payment.currency)

end ZohoBooksAdapter

namespace AppliedAmounts

/-- What can happen to a native invoice and its payments, here and on the way to Zoho. -/
inductive Action (π : Type) where
  | operate (operation : NativeOperation π)
  | pushInvoice (answers : PushAnswers)
  | pushPayment (paymentId : String) (answers : PushAnswers)

def step {π : Type} (env : Env) (store : Store) : Action π → Store
  | .operate operation => operation.perform env store
  | .pushInvoice answers => ((ZohoSyncService.pushInvoice answers).exec store).store
  | .pushPayment paymentId answers =>
      ((ZohoSyncService.pushPayment paymentId answers).exec store).store

/-- Lines are sent for an invoice that has been issued and is not cancelled. -/
def SendsLines (store : Store) : Prop :=
  store.invoice.status ≠ .draft ∧ store.invoice.status ≠ .cancelled

/-- Settled payments together apply no more than the total of the lines that were pushed, as the
decimals that are sent. -/
def AppliedWithin (pushed settled : Store) : Prop :=
  ∀ contact lineItems, pushedLineItems none (toAccountingInvoice pushed contact) = .ok lineItems →
    ∀ payments : List Payment, payments.Sublist settled.payments.rows →
      (∀ payment ∈ payments, payment.status = .settled) →
      ∀ invoiceRemoteId customerRemoteId,
        (payments.map fun payment => Json.decimal
            (amountApplied (toAccountingPayment payment invoiceRemoteId customerRemoteId))).sum ≤
          (sentTotal (toCurrencyCode pushed.invoice.currency) lineItems : ℚ) /
            10 ^ minorUnitExponent (toCurrencyCode pushed.invoice.currency)

/-! ## When there is room -/

def settledAmount (payment : Payment) : Int :=
  if payment.status = .settled then payment.amountMinor else 0

def settledMinor (store : Store) : Int := (store.payments.rows.map settledAmount).sum

/-- The decimal that is sent for an amount is not above it. -/
def SentWithin (currency : String) (amountMinor : Int) : Prop :=
  Json.decimal (minorToDecimal (toNumber amountMinor) (toCurrencyCode currency)) ≤
    amountMinor / 10 ^ minorUnitExponent (toCurrencyCode currency)

instance (currency : String) (amountMinor : Int) : Decidable (SentWithin currency amountMinor) :=
  inferInstanceAs (Decidable (_ ≤ _))

theorem sentWithin_of_small (currency : String) {amountMinor : Int}
    (small : amountMinor.natAbs ≤ 2 ^ 50) : SentWithin currency amountMinor := by
  have whole : toNumber amountMinor = amountMinor := Doubles.round_of_natAbs_le (by omega)
  rw [SentWithin, whole, decimal_minorToDecimal small]

/-- When a payment succeeds, what is settled already and its card fee come to no more than the
negative tax that is not sent: without one, nothing is settled and there is no fee.  Total and fee
are added, and the sum is sent, without rounding it up. -/
def LeavesRoom (store : Store) (result : GatewayResult) : Prop :=
  result.status = .succeeded → result.payment.status ≠ .settled →
    settledMinor store + store.quotedFee result.payment.method ≤ unsentTax store ∧
      addNumbers store.invoice.totalMinor (store.quotedFee result.payment.method) ≤
        store.invoice.totalMinor + store.quotedFee result.payment.method ∧
      SentWithin store.invoice.currency result.payment.amountMinor

instance (store : Store) (result : GatewayResult) : Decidable (LeavesRoom store result) :=
  inferInstanceAs (Decidable (_ → _ → _))

/-- A payment is recorded against a balance that counts what is settled, and no more than the
balance; it is sent without rounding it up. -/
def Counts (store : Store) (invoice : Invoice) (amountMinor : Int) : Prop :=
  settledMinor store ≤ invoice.totalMinor - invoice.balanceMinor + unsentTax store ∧
    amountMinor ≤ invoice.balanceMinor ∧ SentWithin invoice.currency amountMinor

instance (store : Store) (invoice : Invoice) (amountMinor : Int) :
    Decidable (Counts store invoice amountMinor) :=
  inferInstanceAs (Decidable (_ ∧ _ ∧ _))

def Careful {π : Type} (env : Env) (store : Store) : Action π → Prop
  | .operate operation =>
      operation.Applies env LeavesRoom store ∧ operation.Records (Counts store) store
  | _ => True

instance decidableCareful {π : Type} (env : Env) (store : Store) :
    ∀ action : Action π, Decidable (Careful env store action)
  | .operate operation =>
      inferInstanceAs (Decidable (operation.Applies env LeavesRoom store ∧
        operation.Records (Counts store) store))
  | .pushInvoice _ => .isTrue trivial
  | .pushPayment _ _ => .isTrue trivial

/-! ## A push leaves the amounts alone -/

/-- The rows after a push: as they were, or with the id and version of Zoho's answer, which
takes lines to send. -/
def Pushed (store next : Store) : Prop :=
  next = store ∨ store.lineItems.isEmpty = false ∧ ∃ result, next = RoundTrip.linked store result

theorem lines_of_valid {store : Store} {contact : String}
    (valid : validateInvoiceForSync (toAccountingInvoice store contact) = none) :
    store.lineItems.isEmpty = false := by
  cases bare : store.lineItems with
  | cons line rest => rfl
  | nil =>
      simp only [validateInvoiceForSync, toAccountingInvoice, bare] at valid
      split at valid
      · cases valid
      · cases valid

theorem pushInvoice_pushed (answers : PushAnswers) (store : Store) :
    ∃ outcome next, (ZohoSyncService.pushInvoice answers).execFrom store store =
        ⟨outcome, next, next, []⟩ ∧ Pushed store next := by
  unfold ZohoSyncService.pushInvoice
  simp only [read_bind, execFrom_select]
  cases answers.contact with
  | error message => exact ⟨_, store, rfl, .inl rfl⟩
  | ok contact =>
      simp only [ofExcept_ok, done_bind]
      cases contact.filter (· ≠ "") with
      | none => exact ⟨_, store, rfl, .inl rfl⟩
      | some contact =>
          dsimp only
          cases valid : validateInvoiceForSync (toAccountingInvoice store contact) with
          | some reason => exact ⟨_, store, rfl, .inl rfl⟩
          | none =>
              simp only [refuse, pure_eq_done, done_bind]
              cases answers.pushInvoice (toAccountingInvoice store contact) with
              | error message => exact ⟨_, store, rfl, .inl rfl⟩
              | ok result =>
                  refine ⟨.ok (), RoundTrip.linked store result, ?_,
                    .inr ⟨lines_of_valid valid, result, rfl⟩⟩
                  simp [execFrom_bind, commitNow, RoundTrip.linked]

def LeavesRows {α : Type} (program : Tx α) : Prop :=
  ∀ store, (program.execFrom store store).store = store

theorem leavesRows_throw {α : Type} (error : ServiceError) :
    LeavesRows (.throw error : Tx α) := fun _ => rfl

theorem leavesRows_select {α : Type} {next : Store → Tx α} (leaves : ∀ view, LeavesRows (next view)) :
    LeavesRows (.select next) := fun store => leaves store store

theorem leavesRows_refuse {α : Type} (reason : Option String) {next : Unit → Tx α}
    (leaves : LeavesRows (next ())) : LeavesRows (refuse reason >>= next) := by
  cases reason with
  | some reason => exact leavesRows_throw _
  | none => exact leaves

theorem leavesRows_ofExcept {α β δ : Type} {wrap : δ → ServiceError} {answer : Except δ β}
    {next : β → Tx α} (leaves : ∀ value, LeavesRows (next value)) :
    LeavesRows (ofExcept wrap answer >>= next) := by
  cases answer with
  | error error => exact leavesRows_throw _
  | ok value => exact leaves value

theorem LeavesRows.pushed {α : Type} {program : Tx α} (leaves : LeavesRows program)
    {store next : Store} (pushed : Pushed store next) :
    Pushed store (program.execFrom next next).store := by
  rw [leaves next]
  exact pushed

theorem pushPayment_pushed (paymentId : String) (answers : PushAnswers) (store : Store) :
    Pushed store ((ZohoSyncService.pushPayment paymentId answers).exec store).store := by
  obtain ⟨outcome, next, ran, pushed⟩ := pushInvoice_pushed answers store
  unfold ZohoSyncService.pushPayment exec
  simp only [read_bind, execFrom_select]
  split
  · exact .inl rfl
  · split
    case' isTrue => refine LeavesRows.pushed ?_ (.inl rfl)
    case' isFalse =>
      rw [execFrom_bind, ran]
      rcases outcome with error | done
      · exact pushed
      refine LeavesRows.pushed ?_ pushed
    all_goals
      refine leavesRows_select fun refreshed => ?_
      split
      · exact leavesRows_throw _
      · refine leavesRows_ofExcept fun contact => ?_
        split
        · refine leavesRows_refuse _ (leavesRows_ofExcept fun _ store => ?_)
          simp only [writeRows_bind, execFrom_write]
          split <;> rfl
        · exact leavesRows_throw _

/-! ## What is settled stays within what is pushed -/

/-- What every payment keeps: an attempt was charged the total and the fee of its method, and what
is settled is not sent for more than it is. -/
structure Kept (store : Store) (payment : Payment) : Prop where
  charged : payment.gatewayReference.isSome = true → payment.amountMinor =
    addNumbers store.invoice.totalMinor (store.quotedFee payment.method)
  currency : payment.currency = store.invoice.currency
  nonneg : 0 ≤ payment.amountMinor
  sent : payment.status = .settled → SentWithin store.invoice.currency payment.amountMinor

/-- What every state keeps: the amounts the invoice was created with, which are what its lines are
worth, and, once it has been issued, no more settled than its lines come to when they are pushed. -/
structure Sound (amounts : Amounts) (store : Store) : Prop where
  same : store.amounts = amounts
  lined : (store.invoice.isPushed && store.lineItems.isEmpty) = false
  worth : store.worth = store.invoice.totalMinor
  payments : ∀ payment ∈ store.payments.rows, Kept store payment
  issued : store.invoice.status ∈ [.draft, .cancelled] ∨ 0 < store.invoice.totalMinor
  within : 0 < store.invoice.totalMinor →
    settledMinor store ≤ store.invoice.totalMinor + unsentTax store

variable {amounts : Amounts} {store next : Store}

theorem Sound.created {brand : BrandRows} {id publicToken : String} {input : InvoiceDraftInput}
    (created : InvoicesService.create brand id publicToken input = .ok store) :
    Sound store.amounts store := by
  have new := InvoicesService.create_ok created
  have unlinked : store.invoice.zohoInvoiceId = none := new.unlinked
  refine ⟨rfl, by simp [Invoice.isPushed, unlinked], new.worth.symm, by simp [new.unpaid],
    .inl (by simp [new.draft]), fun positive => ?_⟩
  have nothing : settledMinor store = 0 := by simp [settledMinor, new.unpaid]
  have unsent : 0 ≤ unsentTax store := le_max_left 0 _
  omega

theorem Sound.pushed (sound : Sound amounts store) (pushed : Pushed store next) :
    Sound amounts next := by
  rcases pushed with same | ⟨lines, result, rfl⟩
  · rw [same]
    exact sound
  · exact ⟨sound.same, by simpa [RoundTrip.linked] using fun _ => lines, sound.worth,
      fun payment member => ⟨(sound.payments payment member).charged,
        (sound.payments payment member).currency, (sound.payments payment member).nonneg,
        (sound.payments payment member).sent⟩, sound.issued, sound.within⟩

theorem total_of_amounts (same : next.amounts = store.amounts) :
    next.invoice.totalMinor = store.invoice.totalMinor := congrArg Amounts.totalMinor same

theorem unsentTax_of_amounts (same : next.amounts = store.amounts) :
    unsentTax next = unsentTax store :=
  congrArg (fun amounts => max 0 (-amounts.taxMinor)) same

theorem currency_of_amounts (same : next.amounts = store.amounts) :
    next.invoice.currency = store.invoice.currency := congrArg Amounts.currency same

theorem lined_of_terms (same : next.terms = store.terms) :
    (next.invoice.isPushed && next.lineItems.isEmpty) =
      (store.invoice.isPushed && store.lineItems.isEmpty) := by
  have linked : next.invoice.zohoInvoiceId = store.invoice.zohoInvoiceId :=
    congrArg InvoiceTerms.zohoInvoiceId same
  have lines : next.lineItems = store.lineItems := congrArg InvoiceTerms.lineItems same
  rw [Invoice.isPushed, Invoice.isPushed, linked, lines]

theorem quotedFee_of_terms (same : next.terms = store.terms) (method : PaymentMethod) :
    next.quotedFee method = store.quotedFee method := by
  unfold Store.quotedFee
  rw [quoteInput_of_terms same]

theorem Kept.of_same {payment : Payment} (kept : Kept store payment)
    (amounts : next.amounts = store.amounts) (terms : next.terms = store.terms) :
    Kept next payment := by
  refine ⟨fun referenced => ?_, ?_, kept.nonneg, fun settled => ?_⟩
  · rw [total_of_amounts amounts, quotedFee_of_terms terms]
    exact kept.charged referenced
  · rw [currency_of_amounts amounts]
    exact kept.currency
  · rw [currency_of_amounts amounts]
    exact kept.sent settled

theorem Sound.positive (sound : Sound amounts store)
    (payable : isPayable store.invoice.status = true) : 0 < store.invoice.totalMinor := by
  rcases sound.issued with closed | positive
  · simp only [List.mem_cons, List.not_mem_nil, or_false] at closed
    rcases closed with draft | cancelled
    · rw [draft] at payable
      cases payable
    · rw [cancelled] at payable
      cases payable
  · exact positive

theorem charged_opened {method : PaymentMethod} {attempt : OpenedAttempt}
    (opens : Opens store method attempt) : attempt.result.payment.amountMinor =
      addNumbers store.worth (store.quotedFee attempt.result.payment.method) := by
  obtain ⟨quote, quoted, amount⟩ := opens.quoted
  have worth : quote.preFeeTotalMinor = store.worth := calculate_worth quoted
  have fee : store.quotedFee method = quote.cardFeeMinor := by
    unfold Store.quotedFee
    rw [quoted]
  rw [amount, calculate_total quoted, worth, opens.method, fee]

theorem quotedFee_nonneg (worth : 0 ≤ store.worth) (method : PaymentMethod) :
    0 ≤ store.quotedFee method := by
  unfold Store.quotedFee
  cases quoted : calculate (quoteInput store method) with
  | error error => exact le_rfl
  | ok quote =>
      cases card : incursCardFee method with
      | true => exact applyBasisPoints_nonneg worth (quote_fee quoted card)
      | false => exact (calculate_feeless quoted card).ge

theorem settledAmount_manualPayment (store : Store) (paymentId uuid : String)
    (input : RecordManualPaymentInput) (amountMinor : Int) :
    settledAmount (InvoicesService.manualPayment store paymentId uuid input amountMinor) =
      amountMinor := if_pos rfl

theorem settledMinor_append {payment : Payment}
    (rows : next.payments.rows = store.payments.rows ++ [payment]) :
    settledMinor next = settledMinor store + settledAmount payment := by
  simp [settledMinor, rows]

theorem Sound.quiet {recorded : Option Int} (sound : Sound amounts store)
    (step : QuietStep store recorded next)
    (counts : ∀ amountMinor ∈ recorded, Counts store store.invoice amountMinor) :
    Sound amounts next := by
  have total := total_of_amounts step.amounts
  have kept (payment : Payment) (member : payment ∈ store.payments.rows) : Kept next payment :=
    (sound.payments payment member).of_same step.amounts step.terms
  have worth : next.worth = next.invoice.totalMinor := by
    rw [worth_of_terms step.terms, total, sound.worth]
  have issued : next.invoice.status ∈ [.draft, .cancelled] ∨ 0 < next.invoice.totalMinor := by
    rw [total]
    cases step with
    | kept _ same =>
        rw [same]
        exact sound.issued
    | issued scope now draft lines positive => exact .inr positive
    | viewed now sent => exact .inr (sound.positive (by rw [sent]; rfl))
    | recorded paymentId uuid input amountMinor payments event _ granted rows same =>
        exact .inr (sound.positive granted.payable)
    | cancelled scope now listed unpaid => exact .inl (by simp [InvoicesService.Store.cancelled])
  refine ⟨step.amounts.trans sound.same, (lined_of_terms step.terms).trans sound.lined, worth, ?_,
    issued, ?_⟩
  · rcases step.ledger with ⟨_, rows, _⟩ | ⟨paymentId, uuid, input, amountMinor, some_, rows, _, granted⟩
    · rw [rows]
      exact kept
    · obtain ⟨_, _, sent⟩ := counts amountMinor some_
      rw [rows]
      intro payment member
      rcases List.mem_append.mp member with earlier | last
      · exact kept payment earlier
      · rw [List.mem_singleton.mp last]
        refine ⟨fun referenced => (by cases referenced), (currency_of_amounts step.amounts).symm,
          granted.positive.le, fun _ => ?_⟩
        rw [currency_of_amounts step.amounts]
        exact sent
  · intro positive
    rw [total] at positive ⊢
    rw [unsentTax_of_amounts step.amounts]
    have before := sound.within positive
    rcases step.ledger with ⟨_, rows, _⟩ | ⟨paymentId, uuid, input, amountMinor, some_, rows, _, _⟩
    · rw [settledMinor, rows]
      exact before
    · obtain ⟨settled, owed, _⟩ := counts amountMinor some_
      rw [settledMinor_append rows, settledAmount_manualPayment]
      omega

theorem Sound.attempting (sound : Sound amounts store) {method : PaymentMethod}
    {attempt : OpenedAttempt} (opens : Opens store method attempt)
    (currency : attempt.result.payment.currency = store.invoice.currency) :
    Sound amounts (store.attempting attempt.payments) := by
  have positive := sound.positive opens.payable
  have charged := charged_opened opens
  have fee := quotedFee_nonneg (sound.worth.symm ▸ positive.le) attempt.result.payment.method
  have rows : (store.attempting attempt.payments).payments.rows =
      store.payments.rows ++ [attempt.result.payment] := opens.rows
  have unsettled : attempt.result.payment.status ≠ .settled := by simp [opens.initiated]
  rw [sound.worth] at charged
  refine ⟨sound.same, sound.lined, sound.worth, ?_, .inr positive, fun _ => ?_⟩
  · rw [rows]
    intro payment member
    rcases List.mem_append.mp member with earlier | last
    · exact (sound.payments payment earlier).of_same rfl rfl
    · rw [List.mem_singleton.mp last]
      refine ⟨fun _ => charged, currency, ?_, fun settled => absurd settled unsettled⟩
      rw [charged]
      exact (toNumber_pos.mpr (by omega)).le
  · have part : settledAmount attempt.result.payment = 0 := if_neg unsettled
    rw [settledMinor_append rows, part, Int.add_zero]
    exact sound.within positive

theorem settledMinor_apply {result : GatewayResult} (about : About store result) :
    settledMinor (store.apply result) = settledMinor store - settledAmount result.payment +
      settledAmount (result.payment.apply result.update) := by
  have distinct := store.payments.distinct (fun payment => some payment.id)
    (by simp [paymentIndexes])
  have moved := UniqueTable.sum_update distinct about.member rfl
    (fun payment => payment.apply result.update) settledAmount
  unfold settledMinor
  rw [apply_rows]
  simpa only [Option.some.injEq] using moved

/-- Only a success adds to what is settled, and only once: the total and the card fee. -/
theorem Sound.settles (sound : Sound amounts store) {result : GatewayResult}
    (about : About store result) (room : LeavesRoom store result)
    (positive : 0 < store.invoice.totalMinor) :
    settledMinor (store.apply result) ≤ store.invoice.totalMinor + unsentTax store := by
  have before := sound.within positive
  have kept := sound.payments result.payment about.member
  have nonneg := kept.nonneg
  have charged := kept.charged about.referenced
  have settles : (result.payment.apply result.update).status = .settled ↔
      result.status = .succeeded := resultUpdate_settled
  have after : settledAmount (result.payment.apply result.update) =
      if result.status = .succeeded then result.payment.amountMinor else 0 := by
    simp only [settledAmount, settles]
    rfl
  rw [settledMinor_apply about, after]
  by_cases settled : result.payment.status = .settled
  · rw [settledAmount, if_pos settled]
    split <;> omega
  · rw [settledAmount, if_neg settled]
    by_cases succeeded : result.status = .succeeded
    · obtain ⟨left, added, _⟩ := room succeeded settled
      rw [if_pos succeeded]
      omega
    · rw [if_neg succeeded]
      omega

theorem Sound.apply (sound : Sound amounts store) {result : GatewayResult}
    (about : About store result) (room : LeavesRoom store result) :
    Sound amounts (store.apply result) := by
  have same := amounts_apply store result
  have terms := terms_apply store result
  have total := total_of_amounts same
  refine ⟨same.trans sound.same, (lined_of_terms terms).trans sound.lined, ?_, ?_, ?_, ?_⟩
  · rw [worth_of_terms terms, total, sound.worth]
  · intro payment member
    rw [apply_rows] at member
    obtain ⟨row, known, rfl⟩ := List.mem_map.mp member
    have kept := (sound.payments row known).of_same same terms
    split
    case isFalse => exact kept
    case isTrue its =>
      have distinct := store.payments.distinct (fun payment => some payment.id)
        (by simp [paymentIndexes])
      have its : row = result.payment :=
        UniqueTable.eq_of_index distinct known about.member rfl (congrArg some its.symm)
      refine ⟨kept.charged, kept.currency, kept.nonneg, fun settles => ?_⟩
      have succeeded : result.status = .succeeded := resultUpdate_settled.mp settles
      by_cases settled : row.status = .settled
      · exact kept.sent settled
      · rw [currency_of_amounts same]
        rw [its] at settled ⊢
        exact (room succeeded settled).2.2
  · rw [total]
    rcases sound.issued with closed | positive
    · have settled : store.invoice.status ∉ allowed .settleFull := by
        simp only [List.mem_cons, List.not_mem_nil, or_false] at closed
        rcases closed with draft | cancelled
        · simp [draft, allowed]
        · simp [cancelled, allowed]
      have kept : (store.apply result).invoice = store.invoice :=
        afterResult_of_closed settled result.status result.occurredAt
      rw [kept]
      exact .inl closed
    · exact .inr positive
  · rw [total, unsentTax_of_amounts same]
    exact sound.settles about room

section Runs

variable {π : Type} {env : Env}

theorem result?_currency {operation : NativeOperation π} {before : Store} {result : GatewayResult}
    (brings : operation.result? env store = some (before, result))
    (currency : ∀ payment ∈ store.payments.rows, payment.currency = store.invoice.currency) :
    result.payment.currency = store.invoice.currency := by
  cases operation with
  | createIntent gateway paymentId scope method attemptNonce =>
      obtain ⟨attempt, opened, same⟩ := Option.map_eq_some_iff.mp brings
      cases same
      exact attempt?_currency env gateway opened
  | handleWebhook gateway rawBody headers brandId =>
      obtain ⟨applied, delivered, same⟩ := Option.map_eq_some_iff.mp brings
      cases same
      exact currency _ (webhookResult?_about delivered).member
  | confirmClientResult gateway now scope gatewayReference =>
      obtain ⟨applied, confirmed, same⟩ := Option.map_eq_some_iff.mp brings
      cases same
      exact currency _ (confirmedResult?_about confirmed).member
  | issue => cases brings
  | view => cases brings
  | recordManualPayment => cases brings
  | submitCheck => cases brings
  | approve => cases brings
  | reject => cases brings
  | cancel => cases brings

theorem Sound.step (sound : Sound amounts store) {action : Action π}
    (careful : Careful env store action) : Sound amounts (AppliedAmounts.step env store action) := by
  cases action with
  | pushInvoice answers =>
      obtain ⟨outcome, next, ran, pushed⟩ := pushInvoice_pushed answers store
      have rows : ((ZohoSyncService.pushInvoice answers).exec store).store = next := by
        rw [exec, ran]
        cases outcome <;> rfl
      simp only [AppliedAmounts.step, rows]
      exact sound.pushed pushed
  | pushPayment paymentId answers => exact sound.pushed (pushPayment_pushed paymentId answers store)
  | operate operation =>
      obtain ⟨applies, records⟩ := careful
      simp only [AppliedAmounts.step]
      rcases operation.perform_cases_of_lines env store sound.lined with
        ⟨before, result, brings, resolves, done⟩ | ⟨_, quiet, _⟩
      · have room : LeavesRoom before result := applies (before, result) brings
        rw [done]
        cases resolves with
        | delivered _ about => exact sound.apply about room
        | attempted method attempt opens =>
            have currency := result?_currency brings fun payment member =>
              (sound.payments payment member).currency
            exact (sound.attempting opens currency).apply
              ⟨by simp [Store.attempting, opens.rows], opens.referenced⟩ room
      · exact sound.quiet quiet records

/-! ## From the rows to what is sent -/

theorem roundedTotal_of_amounts (same : next.amounts = store.amounts) :
    roundedTotal next = roundedTotal store :=
  congrArg (fun amounts => amounts.totalMinor - (amounts.subtotalMinor + amounts.taxMinor)) same

theorem sentDrift_of_amounts (same : next.amounts = store.amounts) :
    sentDrift next = sentDrift store := by
  have lines : next.lineItems = store.lineItems := congrArg Amounts.lineItems same
  have tax : next.invoice.taxMinor = store.invoice.taxMinor := congrArg Amounts.taxMinor same
  rw [sentDrift, sentDrift, currency_of_amounts same, lines, tax]

theorem Sound.chosen (sound : Sound amounts store) {payments : List Payment}
    (chosen : payments.Sublist store.payments.rows)
    (settled : ∀ payment ∈ payments, payment.status = .settled) :
    (payments.map Payment.amountMinor).sum ≤ settledMinor store := by
  have each : payments.map Payment.amountMinor = payments.map settledAmount :=
    List.map_congr_left fun payment member => (if_pos (settled payment member)).symm
  rw [each]
  refine (chosen.map settledAmount).sum_le_sum fun amount member => ?_
  obtain ⟨payment, known, rfl⟩ := List.mem_map.mp member
  unfold settledAmount
  split
  · exact (sound.payments payment known).nonneg
  · exact le_rfl

/-- What settled payments apply is at most their amounts. -/
theorem Sound.applied (sound : Sound amounts store) {payments : List Payment}
    (chosen : payments.Sublist store.payments.rows)
    (settled : ∀ payment ∈ payments, payment.status = .settled)
    (invoiceRemoteId customerRemoteId : String) :
    (payments.map fun payment => Json.decimal
        (amountApplied (toAccountingPayment payment invoiceRemoteId customerRemoteId))).sum ≤
      ((payments.map Payment.amountMinor).sum : ℚ) /
        10 ^ minorUnitExponent (toCurrencyCode store.invoice.currency) := by
  have each : ∀ payment ∈ payments, Json.decimal
      (amountApplied (toAccountingPayment payment invoiceRemoteId customerRemoteId)) ≤
        payment.amountMinor / 10 ^ minorUnitExponent (toCurrencyCode store.invoice.currency) := by
    intro payment member
    have kept := sound.payments payment (chosen.subset member)
    have currency : (toAccountingPayment payment invoiceRemoteId customerRemoteId).currency =
        store.invoice.currency := kept.currency
    rw [amountApplied, currency]
    exact kept.sent (settled payment member)
  clear chosen settled
  induction payments with
  | nil => simp
  | cons payment rest ih =>
      have first := each payment (by simp)
      have others := ih fun other member => each other (by simp [member])
      simp only [List.map_cons, List.sum_cons]
      rw [Int.cast_add, add_div]
      exact add_le_add first others

theorem Sound.appliedWithin {pushed settled : Store} (priced : amounts.Priced)
    (first : Sound amounts pushed) (second : Sound amounts settled) (sends : SendsLines pushed)
    (covers : roundedTotal pushed ≤ sentDrift pushed) : AppliedWithin pushed settled := by
  intro contact lineItems sent payments chosen settles invoiceRemoteId customerRemoteId
  have same : settled.amounts = pushed.amounts := second.same.trans first.same.symm
  have positive : 0 < pushed.invoice.totalMinor := by
    rcases first.issued with closed | positive
    · simp only [List.mem_cons, List.not_mem_nil, or_false] at closed
      rcases closed with draft | cancelled
      · exact absurd draft sends.1
      · exact absurd cancelled sends.2
    · exact positive
  have applied := second.applied chosen settles invoiceRemoteId customerRemoteId
  rw [currency_of_amounts same] at applied
  have within := second.within (by rw [total_of_amounts same]; exact positive)
  rw [total_of_amounts same, unsentTax_of_amounts same] at within
  have total := sentTotal_pushed (first.same ▸ priced) sent
  have least : (payments.map Payment.amountMinor).sum ≤
      sentTotal (toCurrencyCode pushed.invoice.currency) lineItems := by
    have some_ := second.chosen chosen settles
    omega
  refine applied.trans (div_le_div_of_nonneg_right ?_ (by positivity))
  exact_mod_cast least

/-- In every run of operations and pushes in which each success leaves room and each payment is
recorded against a balance that counts what is settled, any settled payments apply no more than
the pushed lines come to, whenever either was pushed; for lines that are sent for the total at
least, as those are that are sent as they are. -/
theorem applied_within_pushed {brand : BrandRows} {id publicToken : String}
    {input : InvoiceDraftInput} (created : InvoicesService.create brand id publicToken input =
      .ok store) {actions : List (Action π)}
    (careful : Runs.Throughout (AppliedAmounts.step env) (Careful env) actions store) :
    (IsExact store → roundedTotal store ≤ sentDrift store) ∧
      (roundedTotal store ≤ sentDrift store →
        ∀ pushed ∈ Runs.visited (AppliedAmounts.step env) actions store, SendsLines pushed →
          ∀ settled ∈ Runs.visited (AppliedAmounts.step env) actions store,
            AppliedWithin pushed settled) := by
  have priced := created_priced created
  refine ⟨fun exact_ => ?_, fun covers => ?_⟩
  · rw [exact_.roundedTotal priced, exact_.sentDrift]
  · have sound := Runs.always_iff_visited.mp (Runs.always_of_throughout
      (fun _ _ sound careful => sound.step careful) (Sound.created created) careful)
    intro pushed member sends settled other
    have first := sound pushed member
    refine Sound.appliedWithin priced first (sound settled other) sends ?_
    rw [roundedTotal_of_amounts first.same, sentDrift_of_amounts first.same]
    exact covers

end Runs

/-! ## A card fee -/

def sampleAnswers : PushAnswers where
  contact := .ok (some "contact")
  pushInvoice := fun _ => .ok RoundTrip.sampleRef
  pushPayment := fun _ => .ok RoundTrip.sampleRef

def samplePaid (method : PaymentMethod) : List (Action GatewayWebhookEvent) :=
  [.operate (sampleIssue _), .pushInvoice sampleAnswers,
    .operate (.createIntent (sampleGateway "pi" .succeeded 1) "pi" samplePayer method "pi"),
    .pushPayment "pi" sampleAnswers]

def samplePaidBy (method : PaymentMethod) : Store :=
  (samplePaid method).foldl (step sampleEnv) sampleInvoice

theorem samplePaidBy_visited (method : PaymentMethod) :
    samplePaidBy method ∈ Runs.visited (step sampleEnv) (samplePaid method) sampleInvoice := by
  simp [Runs.visited, samplePaid, samplePaidBy]

theorem applied_within_pushed_sample :
    SendsLines (samplePaidBy .ach) ∧ AppliedWithin (samplePaidBy .ach) (samplePaidBy .ach) := by
  have sends : SendsLines (samplePaidBy .ach) := ⟨by decide +kernel, by decide +kernel⟩
  have exact_ : IsExact sampleInvoice :=
    ⟨by decide +kernel, by decide +kernel, by decide +kernel, by decide +kernel⟩
  have careful : Runs.Throughout (step sampleEnv) (Careful sampleEnv) (samplePaid .ach)
      sampleInvoice := by decide +kernel
  have within := applied_within_pushed sampleInvoice_created careful
  exact ⟨sends, within.2 (within.1 exact_) _ (samplePaidBy_visited .ach) sends _
    (samplePaidBy_visited .ach)⟩

/-- The card fee of three percent is applied beside the 100.00 that were pushed. -/
theorem card_fee_beyond_pushed :
    InvoicesService.create sampleBrand "invoice" "token" sampleDraft = .ok sampleInvoice ∧
      samplePaidBy .card ∈ Runs.visited (step sampleEnv) (samplePaid .card) sampleInvoice ∧
      SendsLines (samplePaidBy .card) ∧
      ¬AppliedWithin (samplePaidBy .card) (samplePaidBy .card) := by
  refine ⟨sampleInvoice_created, samplePaidBy_visited .card, ⟨by decide +kernel, by decide +kernel⟩,
    fun within => ?_⟩
  have applied := within "contact" _ (pushedLineItems_ok none (by decide +kernel) "contact")
    (samplePaidBy .card).payments.rows (List.Sublist.refl _) (by decide +kernel) "z1" "contact"
  exact absurd applied (by decide +kernel)

end AppliedAmounts

end MultiBrandInvoicing
