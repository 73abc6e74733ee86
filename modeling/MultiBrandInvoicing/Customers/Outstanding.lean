import MultiBrandInvoicing.Customers.CustomerList
import MultiBrandInvoicing.Mirroring.AppliedAmounts

/-!
# What customers owe

The figure a list attaches adds up every balance of the customer, on the ground that a paid or
cancelled invoice has none left; the filter `hasOutstanding` looks at the status as well.  A
payment leaves no balance behind, a cancellation does not touch it, and a pull stores what Zoho
says.  The two therefore agree as long as nothing is closed with a balance.
-/

set_option autoImplicit false

namespace MultiBrandInvoicing

open ReadCommitted Program PaymentsService ZohoPullService

namespace CustomersService

/-! ## Figure and filter -/

def isClosed (record : InvoiceRecord) : Bool :=
  isTerminal record.store.invoice.status

/-- The balances of the invoices that are neither paid nor cancelled. -/
def owedMinor (records : List InvoiceRecord) : Int :=
  ((records.filter fun record => !isClosed record).map
    InvoiceRecord.balanceMinor).sum

/-- The figure of a row is what is owed, and the filter selects by it. -/
structure RowAgrees (containsInsensitive : String → String → Bool) (tables : CustomerTables)
    (brandId : String) (row : CustomerListRow) : Prop where
  figure : row.outstandingMinor = owedMinor (tables.invoicesOf row.id)
  owing : ∀ query : CustomerListQuery, customerWhere containsInsensitive tables brandId
        { query with hasOutstanding := some true } row.toListedCustomer = true ↔
      customerWhere containsInsensitive tables brandId { query with hasOutstanding := none }
          row.toListedCustomer = true ∧ 0 < row.outstandingMinor
  settled : ∀ query : CustomerListQuery, customerWhere containsInsensitive tables brandId
        { query with hasOutstanding := some false } row.toListedCustomer = true ↔
      customerWhere containsInsensitive tables brandId { query with hasOutstanding := none }
          row.toListedCustomer = true ∧ row.outstandingMinor = 0

/-- No balance is negative, and all of them together are a number without rounding. -/
structure Countable (records : List InvoiceRecord) : Prop where
  nonneg : ∀ record ∈ records, 0 ≤ record.balanceMinor
  exact_ : (records.map InvoiceRecord.balanceMinor).sum ≤ 2 ^ 53

def FiguresAgree (tables : CustomerTables) : Prop :=
  ∀ containsInsensitive brandId query,
    ∀ row ∈ (list containsInsensitive tables brandId query).data,
      Countable (tables.invoicesOf row.id) → RowAgrees containsInsensitive tables brandId row

section Figures

variable {records : List InvoiceRecord}

/-- The balances that are not owed are those of closed invoices. -/
theorem sum_eq_owed_add (records : List InvoiceRecord) :
    (records.map InvoiceRecord.balanceMinor).sum = owedMinor records +
      ((records.filter isClosed).map InvoiceRecord.balanceMinor).sum := by
  induction records with
  | nil => rfl
  | cons record rest ih =>
      rw [List.map_cons, List.sum_cons, ih]
      cases closed : isClosed record with
      | true =>
          simp only [owedMinor, List.filter_cons, closed, Bool.not_true, Bool.false_eq_true,
            if_false, if_true, List.map_cons, List.sum_cons]
          omega
      | false =>
          simp only [owedMinor, List.filter_cons, closed, Bool.not_false, Bool.false_eq_true,
            if_false, if_true, List.map_cons, List.sum_cons]
          omega

theorem sum_nonneg (nonneg : ∀ record ∈ records, 0 ≤ record.balanceMinor) :
    0 ≤ (records.map InvoiceRecord.balanceMinor).sum := by
  refine List.sum_nonneg fun balance member => ?_
  obtain ⟨record, here, rfl⟩ := List.mem_map.mp member
  exact nonneg record here

theorem sum_eq_zero_iff (nonneg : ∀ record ∈ records, 0 ≤ record.balanceMinor) :
    (records.map InvoiceRecord.balanceMinor).sum = 0 ↔
      ∀ record ∈ records, record.balanceMinor = 0 := by
  induction records with
  | nil => simp
  | cons record rest ih =>
      have first := nonneg record List.mem_cons_self
      have others : ∀ other ∈ rest, 0 ≤ other.balanceMinor :=
        fun other member => nonneg other (List.mem_cons_of_mem _ member)
      have sum := sum_nonneg others
      rw [List.map_cons, List.sum_cons, List.forall_mem_cons, ← ih others]
      omega

/-- Something is owed exactly when there is an outstanding invoice. -/
theorem owedMinor_pos_iff (nonneg : ∀ record ∈ records, 0 ≤ record.balanceMinor) :
    0 < owedMinor records ↔ records.any isOutstanding = true := by
  have open_ : ∀ record ∈ records.filter (fun record => !isClosed record),
      0 ≤ record.balanceMinor := fun record member => nonneg record (List.mem_filter.mp member).1
  have zero := sum_eq_zero_iff open_
  have least := sum_nonneg open_
  rw [List.any_eq_true]
  constructor
  · intro owed
    by_contra none_
    have nothing : owedMinor records = 0 := by
      refine zero.mpr fun record member => ?_
      obtain ⟨here, opened⟩ := List.mem_filter.mp member
      by_contra owing
      have balance := nonneg record here
      exact none_ ⟨record, here, isOutstanding_iff.mpr ⟨by omega, by
        simpa [isClosed] using opened⟩⟩
    omega
  · rintro ⟨record, here, outstanding⟩
    obtain ⟨positive, opened⟩ := isOutstanding_iff.mp outstanding
    have member : record ∈ records.filter fun record => !isClosed record :=
      List.mem_filter.mpr ⟨here, by simp [isClosed, opened]⟩
    by_contra nothing
    have sum : owedMinor records = 0 := le_antisymm (not_lt.mp nothing) least
    have balance := zero.mp sum record member
    omega

variable {containsInsensitive : String → String → Bool} {tables : CustomerTables}
  {brandId : String} {query : CustomerListQuery} {row : CustomerListRow}

/-- A row agrees exactly when no closed invoice of its customer has a balance. -/
theorem rowAgrees_iff (member : row ∈ (list containsInsensitive tables brandId query).data)
    (countable : Countable (tables.invoicesOf row.id)) :
    RowAgrees containsInsensitive tables brandId row ↔
      ∀ record ∈ tables.invoicesOf row.id, isClosed record = true →
        record.balanceMinor = 0 := by
  have parts := sum_eq_owed_add (tables.invoicesOf row.id)
  have least := sum_nonneg countable.nonneg
  have most := countable.exact_
  have figure : row.outstandingMinor =
      ((tables.invoicesOf row.id).map InvoiceRecord.balanceMinor).sum := by
    rw [(mem_list_data containsInsensitive member).2.2]
    exact Doubles.round_of_natAbs_le (by omega)
  have closed : ∀ record ∈ (tables.invoicesOf row.id).filter isClosed,
      0 ≤ record.balanceMinor :=
    fun record here => countable.nonneg record (List.mem_filter.mp here).1
  have zero := sum_eq_zero_iff closed
  constructor
  · intro agrees record here shut
    have nothing := agrees.figure
    exact zero.mp (by omega) record (List.mem_filter.mpr ⟨here, shut⟩)
  · intro cleared
    have nothing := zero.mpr fun record here =>
      cleared record (List.mem_filter.mp here).1 (List.mem_filter.mp here).2
    have owed : row.outstandingMinor = owedMinor (tables.invoicesOf row.id) := by omega
    have positive := owedMinor_pos_iff countable.nonneg
    rw [← owed] at positive
    refine ⟨owed, fun asked => ?_, fun asked => ?_⟩
    · rw [customerWhere_hasOutstanding, Bool.and_eq_true, positive]
      rfl
    · have none_ : row.outstandingMinor = 0 ↔
          ¬(tables.invoicesOf row.id).any isOutstanding = true := by
        rw [← positive]
        omega
      rw [customerWhere_hasOutstanding, Bool.and_eq_true, none_]
      simp [outstandingClause]

end Figures

/-! ## What can happen to the rows -/

/-- How Zoho answers when an invoice is viewed that has no lines yet. -/
structure Enrichment (ν : Type) where
  connected : Bool
  fetched : Except String (ZohoInvoiceDetail ν)

inductive Step (ν π : Type) where
  /-- Any write of the customers, here or by a pull. -/
  | writeCustomers (customers : List ListedCustomer)
  | create (brand : BrandRows) (id publicToken : String) (input : InvoiceDraftInput)
      (customerId : String) (invoiceDate dueDate : Time)
  | operate (invoiceId : String) (operation : NativeOperation π) (enrichment : Enrichment ν)
  | pull (localCustomerId : String → String) (creation : InvoiceCreation)
      (invoice : ZohoInvoice ν) (answers : PullAnswers ν)
  | pushInvoice (invoiceId : String) (answers : PushAnswers)
  | pushPayment (invoiceId paymentId : String) (answers : PushAnswers)

def add (tables : CustomerTables) (record : InvoiceRecord) : CustomerTables :=
  { tables with invoices := tables.invoices ++ [record] }

def revise (tables : CustomerTables) (here : InvoiceRecord → Bool)
    (change : InvoiceRecord → InvoiceRecord) : CustomerTables :=
  { tables with
    invoices := tables.invoices.map fun record => if here record then change record else record }

def isNamed (invoiceId : String) (record : InvoiceRecord) : Bool :=
  record.store.invoice.id = invoiceId

def isLinkedTo (remoteId : String) (record : InvoiceRecord) : Bool :=
  record.store.invoice.zohoInvoiceId = some remoteId

def onStore (change : Store → Store) (record : InvoiceRecord) : InvoiceRecord :=
  { record with store := change record.store }

section Machine

variable {ν π : Type} (numbers : ZohoNumbers ν) (env : Env)

/-- A view has its lines fetched by the pull service. -/
def enriching (enrichment : Enrichment ν) : NativeOperation π → NativeOperation π
  | .view _ now stripeAccountId scope =>
      .view (enrichInvoiceFromZohoOnDemand numbers scope.brandId scope.invoiceId
        enrichment.connected enrichment.fetched) now stripeAccountId scope
  | operation => operation

def step (tables : CustomerTables) : Step ν π → CustomerTables
  | .writeCustomers customers => { tables with customers }
  | .create brand id publicToken input customerId invoiceDate dueDate =>
      match InvoicesService.create brand id publicToken input with
      | .error _ => tables
      | .ok store => add tables { store, customerId, invoiceDate, dueDate }
  | .operate invoiceId operation enrichment =>
      revise tables (isNamed invoiceId) (onStore fun store =>
        (enriching numbers enrichment operation).perform env store)
  | .pull localCustomerId creation invoice answers =>
      if tables.invoices.any (isLinkedTo invoice.item.invoiceId) then
        revise tables (isLinkedTo invoice.item.invoiceId) fun record =>
          (updatePulled numbers localCustomerId record invoice answers).2
      else
        match createPulled numbers localCustomerId creation invoice answers with
        | .error _ => tables
        | .ok record => add tables record
  | .pushInvoice invoiceId answers =>
      revise tables (isNamed invoiceId) (onStore fun store =>
        ((ZohoSyncService.pushInvoice answers).exec store).store)
  | .pushPayment invoiceId paymentId answers =>
      revise tables (isNamed invoiceId) (onStore fun store =>
        ((ZohoSyncService.pushPayment paymentId answers).exec store).store)

/-! ## When nothing is closed with a balance -/

def CancelsCleared (store : Store) : NativeOperation π → Prop
  | .cancel _ brandId id _ =>
      InvoicesService.isInvoice store brandId id = true →
        evaluateTransition .cancel (InvoicesService.cancelContext store) = .ok .cancelled →
          store.invoice.balanceMinor = 0
  | _ => True

def PaysBalance (invoice : Invoice) (amountMinor : Int) : Prop :=
  InvoicesService.settledWith invoice amountMinor = toNumber invoice.totalMinor →
    amountMinor = toNumber invoice.balanceMinor

instance (invoice : Invoice) (amountMinor : Int) : Decidable (PaysBalance invoice amountMinor) :=
  inferInstanceAs (Decidable (_ → _))

/-- Among safe integers it always does. -/
theorem paysBalance_of_safe {invoice : Invoice} (figures : InvoicesService.SafeFigures invoice)
    {amountMinor : Int} (granted : InvoicesService.Grants invoice amountMinor) :
    PaysBalance invoice amountMinor := by
  have exact_ := figures.exactSums_of_granted granted
  have total : toNumber invoice.totalMinor = invoice.totalMinor := exact_.total
  have balance : toNumber invoice.balanceMinor = invoice.balanceMinor := exact_.balance
  rw [PaysBalance, exact_.settledWith_eq, total, balance]
  omega

def BringsCleared (item : ZohoInvoiceListItem ν) : Prop :=
  isTerminal ((invoiceStatusMap item.status).getD .sent) = true →
    ∀ currency, supportedCurrency? item.currencyCode = some currency →
      decimalToMinor numbers item.balance currency = 0

def ClosesCleared (tables : CustomerTables) : Step ν π → Prop
  | .operate invoiceId operation _ =>
      ∀ record ∈ tables.invoices, isNamed invoiceId record = true →
        CancelsCleared record.store operation ∧ operation.Records PaysBalance record.store
  | .pull _ _ invoice _ => BringsCleared numbers invoice.item
  | _ => True

/-! ## A closed invoice has no balance -/

/-- A closed invoice has no balance, and no decline takes an invoice back to a closed status. -/
structure Cleared (invoice : Invoice) : Prop where
  closed : isTerminal invoice.status = true → invoice.balanceMinor = 0
  returns : ∀ previous, invoice.previousStatus = some previous → isTerminal previous = false

variable {store next : Store} {invoice : Invoice}

theorem Cleared.of_same {changed : Invoice} (cleared : Cleared invoice)
    (status : changed.status = invoice.status)
    (balance : changed.balanceMinor = invoice.balanceMinor)
    (previous : changed.previousStatus = invoice.previousStatus) : Cleared changed := by
  refine ⟨fun closed => ?_, fun target named => ?_⟩
  · rw [balance]
    exact cleared.closed (status ▸ closed)
  · exact cleared.returns target (previous ▸ named)

theorem Cleared.detail (cleared : Cleared store.invoice) (only : DetailOnly store next) :
    Cleared next.invoice := by
  rw [only]
  exact cleared.of_same rfl rfl rfl

theorem not_isTerminal_of_isPayable {status : InvoiceStatus} (payable : isPayable status = true) :
    isTerminal status = false := by
  cases status <;> first | rfl | cases payable

theorem Cleared.afterManualPayment {amountMinor : Int} (pays : PaysBalance invoice amountMinor)
    (paidAt : Time) : Cleared (InvoicesService.afterManualPayment invoice amountMinor paidAt) := by
  refine ⟨fun closed => ?_, fun previous named => by cases named⟩
  have full : InvoicesService.settledWith invoice amountMinor = toNumber invoice.totalMinor := by
    by_contra part
    simp only [InvoicesService.afterManualPayment, InvoicesService.recordOnInvoice, if_neg part]
      at closed
    cases closed
  have rest : InvoicesService.newBalance invoice amountMinor = 0 := by
    rw [InvoicesService.newBalance, ← pays full, subtractNumbers, sub_self]
    rfl
  exact rest

theorem Cleared.quiet {recorded : Option Int} (cleared : Cleared store.invoice)
    (quiet : QuietStep store recorded next)
    (pays : ∀ amountMinor ∈ recorded, PaysBalance store.invoice amountMinor)
    (open_ : next.invoice = store.invoice ∨ next.invoice.status ≠ .cancelled) :
    Cleared next.invoice := by
  cases quiet with
  | kept _ same =>
      rw [same]
      exact cleared
  | issued scope now => exact ⟨fun closed => (Bool.false_ne_true closed).elim, cleared.returns⟩
  | viewed now sent => exact ⟨fun closed => (Bool.false_ne_true closed).elim, cleared.returns⟩
  | recorded paymentId uuid input amountMinor payments event _ granted rows same =>
      rw [same]
      exact .afterManualPayment (pays amountMinor rfl) input.paidAt
  | cancelled scope now listed unpaid =>
      rcases open_ with same | different
      · rw [same]
        exact cleared
      · exact absurd rfl different

theorem Cleared.afterResult (cleared : Cleared invoice) (status : PaymentIntentStatus)
    (occurredAt : Time) : Cleared (invoice.afterResult status occurredAt) := by
  cases status with
  | succeeded =>
      simp only [Invoice.afterResult, Invoice.afterSuccess]
      split
      · exact ⟨fun _ => rfl, fun previous named => by cases named⟩
      · exact cleared
  | failed =>
      simp only [Invoice.afterResult, Invoice.afterDecline]
      cases reverts : invoice.revertTarget? with
      | none => exact cleared
      | some target =>
          refine ⟨fun closed => ?_, fun previous named => by cases named⟩
          -- A decline goes back to the status the attempt was started from.
          have named : invoice.previousStatus = some target := by
            unfold Invoice.revertTarget? at reverts
            split at reverts
            · exact (Option.filter_eq_some_iff.mp reverts).1
            · cases reverts
          rw [cleared.returns target named] at closed
          cases closed
  | requiresAction => exact cleared
  | processing => exact cleared
  | cancelled => exact cleared

theorem Cleared.attempting (payable : isPayable store.invoice.status = true)
    (payments : PaymentTable) : Cleared (store.attempting payments).invoice := by
  refine ⟨fun closed => (Bool.false_ne_true closed).elim, fun previous named => ?_⟩
  cases named
  exact not_isTerminal_of_isPayable payable

theorem Cleared.apply (cleared : Cleared store.invoice) (result : GatewayResult) :
    Cleared (store.apply result).invoice :=
  cleared.afterResult result.status result.occurredAt

/-! ## Every step keeps it -/

def KeepsCleared (_ : Effect) (applies : Store → Bool) (change : Store → Store) : Prop :=
  ∀ store, applies store = true → Cleared store.invoice → Cleared (change store).invoice

theorem enrich_writes (brandId invoiceId : String) (connected : Bool)
    (fetched : Except String (ZohoInvoiceDetail ν)) :
    (enrichInvoiceFromZohoOnDemand numbers brandId invoiceId connected fetched).Writes
      KeepsCleared := by
  unfold enrichInvoiceFromZohoOnDemand
  refine Writes.read fun existing => ?_
  split
  next =>
    refine Writes.ofExcept fun detail _ => Writes.bind ?_ fun _ => trivial
    refine Writes.mono (fun _ _ _ => ?_) (applyInvoiceDetail_only numbers _ detail _)
    intro only store _ cleared
    exact cleared.detail (only.2 store)
  next => trivial

theorem view_writes {enrich : Tx Bool} (quiet : enrich.Writes KeepsCleared) (now : Time)
    (stripeAccountId : Option String) (scope : PublicScope) :
    (PublicInvoicesService.view enrich now stripeAccountId scope).Writes KeepsCleared := by
  unfold PublicInvoicesService.view
  refine Writes.read fun first => ?_
  split
  next =>
    refine Writes.bind ?_ fun store => Writes.bind ?_ fun status =>
      Writes.ofExcept fun _ _ => trivial
    · unfold PublicInvoicesService.loadEnriched
      split
      next =>
        refine Writes.bind quiet.attempt fun enriched => Writes.commitNow ?_
        split
        next => exact fun _ => trivial
        next => trivial
      next => trivial
    · unfold PublicInvoicesService.recordFirstView
      split
      next =>
        split
        next => trivial
        next target granted =>
          obtain rfl := (firstView_ok_iff.mp granted).2
          refine ⟨fun store _ cleared =>
            ⟨fun closed => (Bool.false_ne_true closed).elim, cleared.returns⟩, fun hit => ?_⟩
          cases hit with
          | false => trivial
          | true => exact ⟨fun store _ cleared => cleared, fun _ => trivial⟩
      next => trivial
  next => trivial

theorem Cleared.operate (cleared : Cleared store.invoice) (operation : NativeOperation π)
    (enrichment : Enrichment ν) (cancels : CancelsCleared store operation)
    (pays : operation.Records PaysBalance store) :
    Cleared ((enriching numbers enrichment operation).perform env store).invoice := by
  have otherwise : ∀ operation : NativeOperation π, operation.isView = false →
      operation.isCancel = false → operation.Records PaysBalance store →
        Cleared (operation.perform env store).invoice := by
    intro operation shows cancels pays
    rcases operation.perform_cases_otherwise env store shows cancels with
      ⟨before, result, _, resolves, done⟩ | ⟨_, quiet, _, open_⟩
    · rw [done]
      cases resolves with
      | delivered _ about => exact cleared.apply result
      | attempted method attempt opens =>
          exact (Cleared.attempting opens.payable attempt.payments).apply attempt.result
    · exact cleared.quiet quiet pays open_
  cases operation with
  | view enrich now account scope =>
      exact Writes.keeps (view_writes (enrich_writes numbers scope.brandId scope.invoiceId
        enrichment.connected enrichment.fetched) now account scope) cleared cleared
  | cancel scope brandId id now =>
      change Cleared ((InvoicesService.cancel scope brandId id now).exec store).store.invoice
      cases found : InvoicesService.isInvoice store brandId id with
      | false =>
          rw [InvoicesService.cancel_elsewhere found scope now]
          exact cleared
      | true =>
          rcases InvoicesService.cancel_cases scope brandId id now store with
            same | ⟨listed, unpaid, cancelled⟩
          · rw [same]
            exact cleared
          · have granted : evaluateTransition .cancel (InvoicesService.cancelContext store) =
                .ok .cancelled := by
              refine cancel_ok_iff.mpr ⟨listed, ?_, rfl⟩
              simp only [InvoicesService.cancelContext]
              exact toNumber_nonpos.mpr (by omega)
            have settled := cancels found granted
            rw [cancelled]
            exact ⟨fun _ => settled, fun previous named => by cases named⟩
  | issue scope brandId id now => exact otherwise _ rfl rfl pays
  | createIntent gateway paymentId scope method attemptNonce => exact otherwise _ rfl rfl pays
  | handleWebhook gateway rawBody headers brandId => exact otherwise _ rfl rfl pays
  | confirmClientResult gateway now scope gatewayReference => exact otherwise _ rfl rfl pays
  | recordManualPayment scope brandId id paymentId uuid input => exact otherwise _ rfl rfl pays
  | submitCheck scope id input => exact otherwise _ rfl rfl pays
  | approve scope brandId id paymentId uuid note now => exact otherwise _ rfl rfl pays
  | reject scope brandId id note now => exact otherwise _ rfl rfl pays

theorem Cleared.created {brand : BrandRows} {id publicToken : String} {input : InvoiceDraftInput}
    (created : InvoicesService.create brand id publicToken input = .ok store) :
    Cleared store.invoice := by
  have draft := (InvoicesService.create_ok created).draft
  refine ⟨fun closed => ?_, fun previous named => ?_⟩
  · rw [draft] at closed
    cases closed
  · rw [InvoicesService.create_previousStatus created] at named
    cases named

section Pulls

variable {numbers} {localCustomerId : String → String} {creation : InvoiceCreation}
  {invoice : ZohoInvoice ν} {answers : PullAnswers ν}

theorem Cleared.pullOneInvoice {item : ZohoInvoiceListItem ν} (cleared : Cleared store.invoice)
    (brings : BringsCleared numbers item) (answers : PullAnswers ν) :
    Cleared ((ZohoPullService.pullOneInvoice numbers item answers).exec store).store.invoice := by
  obtain ⟨rest, text, cases_⟩ := pullOneInvoice_text numbers item answers
  have writes : (ZohoPullService.pullOneInvoice numbers item answers).Writes KeepsCleared := by
    rw [text]
    intro existing
    refine Writes.mono (fun _ _ _ written store _ cleared => ?_) (cases_ existing).writes
    cases written store with
    | detail only => exact cleared.detail only
    | header customer currency supported same =>
        rw [same]
        exact ⟨fun closed => brings closed currency supported, cleared.returns⟩
  exact Writes.keeps writes cleared cleared

theorem Cleared.updatePulled {record : InvoiceRecord} (cleared : Cleared record.store.invoice)
    (brings : BringsCleared numbers invoice.item) :
    Cleared (updatePulled numbers localCustomerId record invoice answers).2.store.invoice := by
  unfold ZohoPullService.updatePulled
  split
  next => exact cleared.pullOneInvoice brings _
  next =>
    dsimp only
    split
    next => exact cleared.pullOneInvoice brings answers
    next => exact cleared.pullOneInvoice brings answers

theorem Cleared.createPulled {record : InvoiceRecord} (brings : BringsCleared numbers invoice.item)
    (created : createPulled numbers localCustomerId creation invoice answers = .ok record) :
    Cleared record.store.invoice := by
  unfold ZohoPullService.createPulled at created
  split at created
  case h_1 => cases created
  case h_2 => cases created
  case h_3 =>
    split at created
    case h_1 => cases created
    case h_2 currency supported =>
      split at created
      case h_1 => cases created
      case h_2 => cases created
      case h_3 =>
        cases created
        exact ⟨fun closed => brings closed currency supported, fun previous named => by cases named⟩

end Pulls

theorem Cleared.pushed (cleared : Cleared store.invoice)
    (pushed : AppliedAmounts.Pushed store next) : Cleared next.invoice := by
  rcases pushed with rfl | ⟨_, result, rfl⟩
  · exact cleared
  · exact cleared.of_same rfl rfl rfl

def AllCleared (tables : CustomerTables) : Prop :=
  ∀ record ∈ tables.invoices, Cleared record.store.invoice

variable {numbers env} {tables : CustomerTables}

theorem AllCleared.add (cleared : AllCleared tables) {record : InvoiceRecord}
    (its : Cleared record.store.invoice) : AllCleared (add tables record) := by
  intro other member
  rcases List.mem_append.mp member with earlier | new
  · exact cleared other earlier
  · rw [List.mem_singleton.mp new]
    exact its

theorem AllCleared.revise (cleared : AllCleared tables) {here : InvoiceRecord → Bool}
    {change : InvoiceRecord → InvoiceRecord}
    (keeps : ∀ record ∈ tables.invoices, here record = true → Cleared record.store.invoice →
      Cleared (change record).store.invoice) : AllCleared (revise tables here change) := by
  intro changed member
  obtain ⟨record, earlier, rfl⟩ := List.mem_map.mp member
  have before := cleared record earlier
  split
  next its => exact keeps record earlier its before
  next => exact before

theorem AllCleared.step (cleared : AllCleared tables) {step : Step ν π}
    (closes : ClosesCleared numbers tables step) :
    AllCleared (CustomersService.step numbers env tables step) := by
  cases step with
  | writeCustomers customers => exact cleared
  | create brand id publicToken input customerId invoiceDate dueDate =>
      unfold CustomersService.step
      dsimp only
      split
      next => exact cleared
      next store created => exact cleared.add (Cleared.created created)
  | operate invoiceId operation enrichment =>
      exact cleared.revise fun record member its before =>
        before.operate numbers env operation enrichment (closes record member its).1
          (closes record member its).2
  | pull localCustomerId creation invoice answers =>
      unfold CustomersService.step
      dsimp only
      split
      next => exact cleared.revise fun record _ _ before => before.updatePulled closes
      next =>
        split
        next => exact cleared
        next record created => exact cleared.add (Cleared.createPulled closes created)
  | pushInvoice invoiceId answers =>
      refine cleared.revise fun record _ _ before => before.pushed ?_
      obtain ⟨outcome, next, ran, pushed⟩ :=
        AppliedAmounts.pushInvoice_pushed answers record.store
      have left : ((ZohoSyncService.pushInvoice answers).exec record.store).store = next := by
        rw [exec, ran]
        cases outcome <;> rfl
      simp only [onStore, left]
      exact pushed
  | pushPayment invoiceId paymentId answers =>
      exact cleared.revise fun record _ _ before =>
        before.pushed (AppliedAmounts.pushPayment_pushed paymentId answers record.store)

theorem AllCleared.figuresAgree (cleared : AllCleared tables) : FiguresAgree tables := by
  intro containsInsensitive brandId query row member countable
  refine (rowAgrees_iff member countable).mpr fun record here closed => ?_
  exact (cleared record (List.mem_filter.mp here).1).closed closed

end Machine

/-! ## Figure and filter agree -/

def noTables : CustomerTables := { customers := [], invoices := [] }

/-- A row with balances that can be counted agrees exactly when no closed invoice of its customer
has a balance; and in a run that closes none with a balance, all rows of all lists do.  Among safe
integers a payment closes none with a balance. -/
theorem outstanding_figures_agree_iff {ν π : Type} (numbers : ZohoNumbers ν) (env : Env) :
    (∀ containsInsensitive tables brandId query,
      ∀ row ∈ (list containsInsensitive tables brandId query).data,
        Countable (tables.invoicesOf row.id) →
          (RowAgrees containsInsensitive tables brandId row ↔
            ∀ record ∈ tables.invoicesOf row.id, isClosed record = true →
              record.balanceMinor = 0)) ∧
      (∀ steps : List (Step ν π),
        Runs.Throughout (step numbers env) (ClosesCleared numbers) steps noTables →
          Runs.Always (step numbers env) FiguresAgree steps noTables) ∧
      ∀ invoice, InvoicesService.SafeFigures invoice → ∀ amountMinor,
        InvoicesService.Grants invoice amountMinor → PaysBalance invoice amountMinor := by
  refine ⟨fun _ _ _ _ _ member countable => rowAgrees_iff member countable, ?_,
    fun _ figures _ granted => paysBalance_of_safe figures granted⟩
  intro steps closes
  have always : Runs.Always (step numbers env) AllCleared steps noTables :=
    Runs.always_of_throughout (fun _ _ cleared closes => cleared.step closes)
      (fun _ member => by cases member) closes
  exact always.mono fun _ cleared => cleared.figuresAgree

def sampleCustomer : ListedCustomer where
  id := "customer"
  brandId := "brand"
  displayName := "Payer"
  companyName := none
  email := some "payer@example.test"
  status := .active
  createdAt := 0

def sampleOperate (operation : NativeOperation GatewayWebhookEvent) :
    Step Int GatewayWebhookEvent :=
  .operate "invoice" operation { connected := false, fetched := .error "not connected" }

/-- One customer with one invoice of 100.00, which is issued; what is done with it then. -/
def sampleSteps (operation : NativeOperation GatewayWebhookEvent) :
    List (Step Int GatewayWebhookEvent) :=
  [.writeCustomers [sampleCustomer],
    .create sampleBrand "invoice" "token" sampleDraft "customer" 0 0,
    sampleOperate (sampleIssue GatewayWebhookEvent), sampleOperate operation]

def sampleTables (operation : NativeOperation GatewayWebhookEvent) : CustomerTables :=
  (sampleSteps operation).foldl (step sampleDecimals sampleEnv) noTables

def sampleRow : CustomerListRow where
  toListedCustomer := sampleCustomer
  invoiceCount := 1
  paymentCount := 0
  outstandingMinor := 10000

theorem sampleRow_listed :
    (list (fun _ _ => false) (sampleTables (sampleCancel GatewayWebhookEvent)) "brand" {}).data =
      [sampleRow] := by
  decide +kernel

theorem sampleTables_countable :
    Countable ((sampleTables (sampleCancel GatewayWebhookEvent)).invoicesOf "customer") :=
  ⟨by decide +kernel, by decide +kernel⟩

theorem outstanding_figures_agree_iff_sample :
    Runs.Always (step sampleDecimals sampleEnv) FiguresAgree
        (sampleSteps (samplePayment GatewayWebhookEvent "payment" "100.00")) noTables ∧
      ¬RowAgrees (fun _ _ => false) (sampleTables (sampleCancel GatewayWebhookEvent)) "brand"
        sampleRow := by
  constructor
  · refine (outstanding_figures_agree_iff sampleDecimals sampleEnv).2.1 _
      ⟨trivial, trivial, fun _ _ _ => ⟨trivial, fun _ none_ => by cases none_⟩,
        fun record member _ => ⟨trivial, ?_⟩, trivial⟩
    have pays : ∀ record ∈ ([.writeCustomers [sampleCustomer],
        .create sampleBrand "invoice" "token" sampleDraft "customer" 0 0,
        sampleOperate (sampleIssue GatewayWebhookEvent)].foldl (step sampleDecimals sampleEnv)
          noTables).invoices,
          (samplePayment GatewayWebhookEvent "payment" "100.00").Records PaysBalance
            record.store := by
      decide +kernel
    exact pays record member
  · have member := List.mem_singleton_self sampleRow
    rw [← sampleRow_listed] at member
    have zero := ((outstanding_figures_agree_iff (ν := Int) (π := GatewayWebhookEvent)
      sampleDecimals sampleEnv).1 _ _ _ _ _ member sampleTables_countable).mp
    have owing : ∃ record ∈ (sampleTables (sampleCancel GatewayWebhookEvent)).invoicesOf
        "customer", isClosed record = true ∧ record.balanceMinor = 10000 := by
      decide +kernel
    intro agrees
    obtain ⟨record, here, closed, balance⟩ := owing
    have none_ := zero agrees record here closed
    omega

/-- A cancelled invoice of 100.00: the list says that 100.00 are outstanding, nothing is owed, and
the customer is one of those with nothing outstanding. -/
theorem cancelled_balance_outstanding :
    Countable ((sampleTables (sampleCancel GatewayWebhookEvent)).invoicesOf "customer") ∧
      (list (fun _ _ => false) (sampleTables (sampleCancel GatewayWebhookEvent)) "brand" {}).data =
        [sampleRow] ∧
      sampleRow.outstandingMinor = 10000 ∧
      owedMinor ((sampleTables (sampleCancel GatewayWebhookEvent)).invoicesOf "customer") = 0 ∧
      customerWhere (fun _ _ => false) (sampleTables (sampleCancel GatewayWebhookEvent)) "brand"
        { hasOutstanding := some true } sampleCustomer = false ∧
      customerWhere (fun _ _ => false) (sampleTables (sampleCancel GatewayWebhookEvent)) "brand"
        { hasOutstanding := some false } sampleCustomer = true :=
  ⟨sampleTables_countable, sampleRow_listed, rfl, by decide +kernel, by decide +kernel,
    by decide +kernel⟩

end CustomersService

end MultiBrandInvoicing
