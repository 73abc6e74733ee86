import MultiBrandInvoicing.Integrations.ZohoPull
import MultiBrandInvoicing.ReadCommitted.Failure

/-!
# What a pull does to the rows

The detail of an invoice is written in one transaction and its header in a second one,
in this order on purpose: a header that is written carries the version that keeps the
next pull from looking again.  Each of the two is all or nothing.
-/

set_option autoImplicit false

namespace MultiBrandInvoicing

open ReadCommitted Program

namespace ZohoPullService

/-! ## The detail -/

def upserted (lines : List LineItem) (item : LineItem) : List LineItem :=
  lines.filter (fun line => line.position < item.position) ++
    item :: lines.filter fun line => item.position < line.position

theorem upsertLineItems_execFrom (items : List LineItem) (committed view : Store) :
    (upsertLineItems items).execFrom committed view =
      ⟨.ok (), committed, { view with lineItems := items.foldl upserted view.lineItems }, []⟩ := by
  induction items generalizing view with
  | nil => rfl
  | cons item rest ih =>
      have first : (upsertLineItem item).execFrom committed view =
          ⟨.ok (), committed, { view with lineItems := upserted view.lineItems item }, []⟩ := rfl
      rw [upsertLineItems, execFrom_bind_of_ok first, ih]
      rfl

section Numbers

variable {ν : Type} (numbers : ZohoNumbers ν)

/-- Upserting lines at consecutive positions leaves, up to the last of them, what stood
before the first and then the lines. -/
theorem foldl_upserted (currency : CurrencyCode) (real : List (ZohoInvoiceLineItem ν))
    (start : Nat) (lines : List LineItem) :
    let items := (real.zipIdx start).map fun (line, position) =>
      toLocalLineItem numbers currency line position
    (items.foldl upserted lines).filter (fun line => line.position < start + real.length) =
      lines.filter (fun line => line.position < start) ++ items := by
  induction real generalizing start lines with
  | nil => simp
  | cons line rest ih =>
      have next := ih (start + 1) (upserted lines (toLocalLineItem numbers currency line start))
      have placed : (upserted lines (toLocalLineItem numbers currency line start)).filter
          (fun line => line.position < start + 1) =
            lines.filter (fun line => line.position < start) ++
              [toLocalLineItem numbers currency line start] := by
        have below : (lines.filter fun line => line.position < start).filter
            (fun line => line.position < start + 1) =
              lines.filter fun line => line.position < start := by
          rw [List.filter_filter]
          apply List.filter_congr
          intro line _
          rw [← Bool.decide_and, decide_eq_decide]
          omega
        have above : (lines.filter fun line => start < line.position).filter
            (fun line => line.position < start + 1) = [] := by
          rw [List.filter_eq_nil_iff]
          intro line member
          have later := (List.mem_filter.mp member).2
          simp only [decide_eq_true_eq] at later ⊢
          omega
        have here : (toLocalLineItem numbers currency line start).position = start := rfl
        simp only [upserted, here, List.filter_append, below, List.filter_cons, above]
        simp
      simp only [List.zipIdx_cons, List.map_cons, List.foldl_cons, List.length_cons]
      have length : start + 1 + rest.length = start + (rest.length + 1) := by omega
      rw [length, placed] at next
      rw [next, List.append_assoc]
      rfl

def realLines (detail : ZohoInvoiceDetail ν) : List (ZohoInvoiceLineItem ν) :=
  detail.lineItems.filter fun line => (syntheticPushedLineKind line).isNone

/-- The rows with the detail: its lines, amounts and notes, and nothing else changed. -/
def withDetail (detail : ZohoInvoiceDetail ν) (currency : CurrencyCode) (store : Store) : Store :=
  let (subtotalMinor, taxMinor) := detailAmounts numbers detail currency
  let taxRateBpApplied :=
    if 0 < subtotalMinor then numbers.ratioBp taxMinor subtotalMinor else 0
  { store with
    invoice := { store.invoice with subtotalMinor, taxRateBpApplied, taxMinor, notes := detail.notes }
    lineItems := toLocalLineItems numbers currency (realLines detail) }

theorem applyInvoiceDetail_execFrom (detail : ZohoInvoiceDetail ν) (currency : CurrencyCode)
    (committed view : Store) :
    (applyInvoiceDetail numbers view.invoice.id detail currency).execFrom committed view =
      ⟨.ok (), withDetail numbers detail currency view, withDetail numbers detail currency view,
        []⟩ := by
  have lines := foldl_upserted numbers currency (realLines detail) 0 view.lineItems
  simp only [Nat.zero_add, Nat.not_lt_zero, decide_false, List.filter_false, List.nil_append]
    at lines
  have count : (toLocalLineItems numbers currency (realLines detail)).length =
      (realLines detail).length := by
    simp [toLocalLineItems]
  have sorted : ((toLocalLineItems numbers currency (realLines detail)).foldl upserted
      view.lineItems).filter (fun line => line.position <
        (toLocalLineItems numbers currency (realLines detail)).length) =
      toLocalLineItems numbers currency (realLines detail) := by
    rw [count]
    exact lines
  simp only [applyInvoiceDetail, execFrom_bind, updateInvoice_execFrom, Execution.andThen_ok,
    upsertLineItems_execFrom, deleteLineItemsFrom]
  simp only [realLines] at sorted
  simp [withDetail, realLines, commitNow, writeRows]
  exact sorted

theorem updateInvoice_uncommitted (label : Effect) (id : String) (change : Invoice → Invoice) :
    (updateInvoice label id change).Uncommitted := by
  intro hit
  cases hit <;> trivial

theorem upsertLineItems_uncommitted (items : List LineItem) :
    (upsertLineItems items).Uncommitted := by
  induction items with
  | nil => trivial
  | cons item rest ih => exact fun hit => ih

theorem applyInvoiceDetail_midway (detail : ZohoInvoiceDetail ν) (currency : CurrencyCode)
    (committed view : Store) :
    (applyInvoiceDetail numbers view.invoice.id detail currency).midway committed view =
      [withDetail numbers detail currency view] := by
  refine Closing.midway ?_ (applyInvoiceDetail_execFrom numbers detail currency committed view)
  refine Closing.bind (updateInvoice_uncommitted _ _ _) fun _ => ?_
  refine Closing.bind (upsertLineItems_uncommitted _) fun _ => ?_
  exact fun hit => trivial

def DetailOnly (store next : Store) : Prop :=
  next = { store with
    lineItems := next.lineItems
    invoice := { store.invoice with
      subtotalMinor := next.invoice.subtotalMinor
      taxRateBpApplied := next.invoice.taxRateBpApplied
      taxMinor := next.invoice.taxMinor
      notes := next.invoice.notes } }

/-! ## The text of a pull -/

variable {item : ZohoInvoiceListItem ν} {answers : PullAnswers ν} {store : Store}

/-- The pull goes on to write: the snapshot is no echo, the customer is there and the
currency is supported. -/
structure Writing (item : ZohoInvoiceListItem ν) (answers : PullAnswers ν) (existing : Store)
    (customer : Customer) (currency : CurrencyCode) : Prop where
  newer : isOwnPushEcho numbers item.lastModifiedTime existing.invoice.zohoSyncedVersion = false
  customer : answers.customer = .ok (some customer)
  currency : supportedCurrency? item.currencyCode = some currency

inductive PullText (item : ZohoInvoiceListItem ν) (answers : PullAnswers ν) (existing : Store) :
    Tx Bool → Prop where
  | skipped
      (echo : isOwnPushEcho numbers item.lastModifiedTime existing.invoice.zohoSyncedVersion =
        true) : PullText item answers existing (.done false)
  | refused (error : ServiceError) : PullText item answers existing (.throw error)
  | header (customer : Customer) (currency : CurrencyCode)
      (writing : Writing numbers item answers existing customer currency)
      (bare : existing.lineItems.isEmpty = true) :
      PullText item answers existing
        (upsertHeader numbers item currency customer answers.headerFailure >>= fun _ => pure true)
  | detailed (customer : Customer) (currency : CurrencyCode) (detail : ZohoInvoiceDetail ν)
      (writing : Writing numbers item answers existing customer currency)
      (lines : existing.lineItems.isEmpty = false) (fetched : answers.detail = .ok detail) :
      PullText item answers existing
        (applyInvoiceDetail numbers existing.invoice.id detail currency >>= fun _ =>
          upsertHeader numbers item currency customer answers.headerFailure >>= fun _ => pure true)

theorem pulledCustomer_cases (item : ZohoInvoiceListItem ν) (answers : PullAnswers ν) :
    (∃ error, pulledCustomer item answers = .throw error) ∨
      ∃ customer, answers.customer = .ok (some customer) ∧
        pulledCustomer item answers = .done customer := by
  unfold pulledCustomer
  match answers.customer with
  | .error message => exact .inl ⟨_, rfl⟩
  | .ok none => exact .inl ⟨_, rfl⟩
  | .ok (some customer) => exact .inr ⟨customer, rfl, rfl⟩

theorem pullOneInvoice_text (item : ZohoInvoiceListItem ν) (answers : PullAnswers ν) :
    ∃ rest, pullOneInvoice numbers item answers = .select rest ∧
      ∀ existing, PullText numbers item answers existing (rest existing) := by
  refine ⟨_, read_bind _, fun existing => ?_⟩
  cases echo : isOwnPushEcho numbers item.lastModifiedTime existing.invoice.zohoSyncedVersion with
  | true => exact .skipped echo
  | false =>
      rw [if_neg Bool.false_ne_true]
      rcases pulledCustomer_cases item answers with ⟨error, failed⟩ | ⟨customer, found, done⟩
      · rw [failed]
        exact .refused error
      · rw [done, done_bind]
        cases supported : supportedCurrency? item.currencyCode with
        | none => exact .refused _
        | some currency =>
            have writing : Writing numbers item answers existing customer currency :=
              ⟨echo, found, supported⟩
            cases lines : existing.lineItems.isEmpty with
            | true => exact .header customer currency writing lines
            | false =>
                cases fetched : answers.detail with
                | error message => exact .refused _
                | ok detail => exact .detailed customer currency detail writing lines fetched

inductive PullWrite (item : ZohoInvoiceListItem ν) (before after : Store) : Prop where
  | detail (only : DetailOnly before after)
  | header (customer : Customer) (currency : CurrencyCode)
      (supported : supportedCurrency? item.currencyCode = some currency)
      (same : after = { before with
        invoice := pulledHeader numbers item currency before.invoice, customer })

theorem upsertLineItems_only (items : List LineItem) :
    (upsertLineItems items).Writes fun label _ change =>
      label = .rowWrite ∧ ∀ store, DetailOnly store (change store) := by
  induction items with
  | nil => trivial
  | cons line rest ih => exact ⟨⟨rfl, fun store => rfl⟩, fun hit => ih⟩

theorem applyInvoiceDetail_only (invoiceId : String) (detail : ZohoInvoiceDetail ν)
    (currency : CurrencyCode) :
    (applyInvoiceDetail numbers invoiceId detail currency).Writes fun label _ change =>
      label = .rowWrite ∧ ∀ store, DetailOnly store (change store) := by
  refine Writes.bind ⟨⟨rfl, fun store => rfl⟩, fun hit => ?_⟩ fun _ => ?_
  · cases hit <;> trivial
  · refine Writes.bind (upsertLineItems_only _) fun _ => ?_
    exact ⟨⟨rfl, fun store => rfl⟩, fun hit => trivial⟩

theorem applyInvoiceDetail_writes (invoiceId : String) (detail : ZohoInvoiceDetail ν)
    (currency : CurrencyCode) :
    (applyInvoiceDetail numbers invoiceId detail currency).Writes fun _ _ change =>
      ∀ store, PullWrite numbers item store (change store) :=
  Writes.mono (fun _ _ _ only store => .detail (only.2 store))
    (applyInvoiceDetail_only numbers invoiceId detail currency)

theorem upsertHeader_writes {currency : CurrencyCode}
    (supported : supportedCurrency? item.currencyCode = some currency) (customer : Customer)
    (failure : Option HeaderFailure) :
    (upsertHeader numbers item currency customer failure).Writes fun _ _ change =>
      ∀ store, PullWrite numbers item store (change store) := by
  match failure with
  | some .numberTaken => trivial
  | some (.other message) => trivial
  | none => exact ⟨fun store => .header customer currency supported rfl, fun hit => trivial⟩

theorem PullText.writes {existing : Store} {program : Tx Bool}
    (text : PullText numbers item answers existing program) :
    program.Writes fun _ _ change => ∀ store, PullWrite numbers item store (change store) := by
  cases text with
  | skipped echo => trivial
  | refused error => trivial
  | header customer currency writing bare =>
      exact Writes.bind (upsertHeader_writes numbers writing.currency customer _) fun _ => trivial
  | detailed customer currency detail writing lines fetched =>
      refine Writes.bind (applyInvoiceDetail_writes numbers _ detail currency) fun _ => ?_
      exact Writes.bind (upsertHeader_writes numbers writing.currency customer _) fun _ => trivial

/-! ## A pull that fails -/

theorem upsertHeader_uncommitted (currency : CurrencyCode) (customer : Customer)
    (failure : Option HeaderFailure) :
    (upsertHeader numbers item currency customer failure).Uncommitted := by
  match failure with
  | some .numberTaken => trivial
  | some (.other message) => trivial
  | none => exact fun hit => trivial

theorem header_uncommitted (currency : CurrencyCode) (customer : Customer)
    (failure : Option HeaderFailure) :
    (upsertHeader numbers item currency customer failure >>= fun _ =>
      (pure true : Tx Bool)).Uncommitted :=
  Uncommitted.bind (upsertHeader_uncommitted numbers currency customer failure) fun _ => trivial

/-- The one store a pull commits on its way is that with the detail. -/
theorem pullOneInvoice_midway {left : Store}
    (member : left ∈ (pullOneInvoice numbers item answers).midway store store) :
    ∃ customer currency detail, Writing numbers item answers store customer currency ∧
      store.lineItems.isEmpty = false ∧ answers.detail = .ok detail ∧
      left = withDetail numbers detail currency store := by
  obtain ⟨rest, text, cases_⟩ := pullOneInvoice_text numbers item answers
  rw [text, midway_select] at member
  have after := cases_ store
  generalize rest store = program at member after
  cases after with
  | skipped echo => cases member
  | refused error => cases member
  | header customer currency writing bare =>
      rw [midway_of_uncommitted (header_uncommitted numbers currency customer _)] at member
      cases member
  | detailed customer currency detail writing lines fetched =>
      rw [midway_bind, applyInvoiceDetail_midway, applyInvoiceDetail_execFrom] at member
      simp only [midway_of_uncommitted (header_uncommitted numbers currency customer _),
        List.append_nil, List.mem_singleton] at member
      exact ⟨customer, currency, detail, writing, lines, fetched, member⟩

/-- A pull that throws although the header upsert does not fail has written nothing. -/
theorem pullOneInvoice_refused (upserts : answers.headerFailure = none) {error : ServiceError}
    (failed : ((pullOneInvoice numbers item answers).exec store).outcome = .error error) :
    ((pullOneInvoice numbers item answers).exec store).store = store := by
  obtain ⟨rest, text, cases_⟩ := pullOneInvoice_text numbers item answers
  rw [exec, text, execFrom_select] at failed ⊢
  have after := cases_ store
  generalize rest store = program at failed after
  cases after with
  | skipped echo => cases failed
  | refused error => rfl
  | header customer currency writing bare =>
      rw [upserts] at failed
      cases failed
  | detailed customer currency detail writing lines fetched =>
      rw [execFrom_bind, applyInvoiceDetail_execFrom, upserts] at failed
      cases failed

theorem pullOneInvoice_echo
    (echo : isOwnPushEcho numbers item.lastModifiedTime store.invoice.zohoSyncedVersion = true) :
    (pullOneInvoice numbers item answers).exec store = ⟨.ok false, store, store, []⟩ := by
  rw [exec, pullOneInvoice, read_bind, execFrom_select, if_pos echo]
  rfl

theorem pullOneInvoice_failed {error : ServiceError}
    (failed : ((pullOneInvoice numbers item answers).exec store).outcome = .error error) :
    DetailOnly store ((pullOneInvoice numbers item answers).exec store).store := by
  obtain ⟨rest, text, cases_⟩ := pullOneInvoice_text numbers item answers
  rw [exec, text, execFrom_select] at failed ⊢
  have after := cases_ store
  generalize rest store = program at failed after ⊢
  cases after with
  | skipped echo => cases failed
  | refused error => rfl
  | header customer currency writing bare =>
      cases failure : answers.headerFailure with
      | none =>
          rw [failure] at failed
          cases failed
      | some failure_ => cases failure_ <;> rfl
  | detailed customer currency detail writing lines fetched =>
      cases failure : answers.headerFailure with
      | none =>
          rw [failure, execFrom_bind, applyInvoiceDetail_execFrom] at failed
          cases failed
      | some failure_ =>
          rw [execFrom_bind, applyInvoiceDetail_execFrom]
          cases failure_ <;> rfl

/-! ## A pull that returns -/

def withHeader (item : ZohoInvoiceListItem ν) (currency : CurrencyCode) (customer : Customer)
    (store : Store) : Store :=
  { store with invoice := pulledHeader numbers item currency store.invoice, customer }

theorem upsertHeader_execFrom (currency : CurrencyCode) (customer : Customer)
    (committed view : Store) :
    (upsertHeader numbers item currency customer none >>= fun _ => (pure true : Tx Bool)).execFrom
        committed view =
      ⟨.ok true, committed, withHeader numbers item currency customer view, []⟩ := rfl

/-- A pull that returns has skipped an echo, or has written the header, over the detail
where lines were stored. -/
theorem pullOneInvoice_returned {applied : Bool}
    (returned : ((pullOneInvoice numbers item answers).exec store).outcome = .ok applied) :
    (applied = false ∧
        isOwnPushEcho numbers item.lastModifiedTime store.invoice.zohoSyncedVersion = true ∧
        ((pullOneInvoice numbers item answers).exec store).store = store) ∨
      applied = true ∧ answers.headerFailure = none ∧ ∃ customer currency,
        Writing numbers item answers store customer currency ∧
        (store.lineItems.isEmpty = true ∧
            ((pullOneInvoice numbers item answers).exec store).store =
              withHeader numbers item currency customer store ∨
          store.lineItems.isEmpty = false ∧ ∃ detail, answers.detail = .ok detail ∧
            ((pullOneInvoice numbers item answers).exec store).store =
              withHeader numbers item currency customer (withDetail numbers detail currency store)) := by
  obtain ⟨rest, text, cases_⟩ := pullOneInvoice_text numbers item answers
  rw [exec, text, execFrom_select] at returned ⊢
  have after := cases_ store
  generalize rest store = program at returned after ⊢
  cases after with
  | skipped echo =>
      cases returned
      exact .inl ⟨rfl, echo, rfl⟩
  | refused error => cases returned
  | header customer currency writing bare =>
      cases failure : answers.headerFailure with
      | some failure_ =>
          rw [failure] at returned
          cases failure_ <;> cases returned
      | none =>
          rw [failure] at returned
          rw [upsertHeader_execFrom] at returned ⊢
          cases returned
          exact .inr ⟨rfl, rfl, customer, currency, writing, .inl ⟨bare, rfl⟩⟩
  | detailed customer currency detail writing lines fetched =>
      cases failure : answers.headerFailure with
      | some failure_ =>
          rw [failure, execFrom_bind, applyInvoiceDetail_execFrom] at returned
          cases failure_ <;> cases returned
      | none =>
          rw [failure, execFrom_bind, applyInvoiceDetail_execFrom, Execution.andThen_ok,
            upsertHeader_execFrom] at returned
          rw [execFrom_bind, applyInvoiceDetail_execFrom, Execution.andThen_ok,
            upsertHeader_execFrom]
          cases returned
          exact .inr ⟨rfl, rfl, customer, currency, writing, .inr ⟨lines, detail, fetched, rfl⟩⟩

def Enrichable (store : Store) (brandId invoiceId : String) (connected : Bool) : Prop :=
  store.invoice.id = invoiceId ∧ store.invoice.brandId = brandId ∧
    store.invoice.isPushed ∧ connected

instance (store : Store) (brandId invoiceId : String) (connected : Bool) :
    Decidable (Enrichable store brandId invoiceId connected) :=
  inferInstanceAs (Decidable (_ ∧ _))

theorem enrichInvoiceFromZohoOnDemand_returned {brandId invoiceId : String} {connected : Bool}
    {fetched : Except String (ZohoInvoiceDetail ν)} {applied : Bool}
    (returned : ((enrichInvoiceFromZohoOnDemand numbers brandId invoiceId connected
      fetched).exec store).outcome = .ok applied) :
    (applied = false ∧ ¬Enrichable store brandId invoiceId connected ∧
        ((enrichInvoiceFromZohoOnDemand numbers brandId invoiceId connected fetched).exec
          store).store = store) ∨
      applied = true ∧ Enrichable store brandId invoiceId connected ∧
        ∃ detail, fetched = .ok detail ∧
          ((enrichInvoiceFromZohoOnDemand numbers brandId invoiceId connected fetched).exec
            store).store =
              withDetail numbers detail (toCurrencyCode store.invoice.currency) store := by
  simp only [enrichInvoiceFromZohoOnDemand, exec, read_bind, execFrom_select] at returned ⊢
  by_cases granted : Enrichable store brandId invoiceId connected
  · unfold Enrichable at granted
    rw [if_pos granted] at returned ⊢
    obtain rfl := granted.1
    cases fetched with
    | error message => cases returned
    | ok detail =>
        have done : (ofExcept ServiceError.integration (.ok detail) >>= fun detail =>
            applyInvoiceDetail numbers store.invoice.id detail
              (toCurrencyCode store.invoice.currency) >>= fun _ => (pure true : Tx Bool)).execFrom
                store store = ⟨.ok true,
              withDetail numbers detail (toCurrencyCode store.invoice.currency) store,
              withDetail numbers detail (toCurrencyCode store.invoice.currency) store, []⟩ := by
          rw [ofExcept_ok, done_bind, execFrom_bind, applyInvoiceDetail_execFrom]
          rfl
        rw [done] at returned ⊢
        cases returned
        exact .inr ⟨rfl, granted, detail, rfl, rfl⟩
  · unfold Enrichable at granted
    rw [if_neg granted] at returned ⊢
    cases returned
    exact .inl ⟨rfl, granted, rfl⟩

end Numbers

/-- A pull that fails, wherever it does, leaves the header alone and the detail as it was
or as it was fetched; one that throws before the header upsert leaves everything alone. -/
theorem pull_failure_leaves {ν : Type} (numbers : ZohoNumbers ν) {item : ZohoInvoiceListItem ν}
    {answers : PullAnswers ν} {store : Store} {schedule : List (Action Unit)}
    {final : Config Unit Store RowKey Effect ServiceError Bool}
    (run : (Config.start store fun _ : Unit => pullOneInvoice numbers item answers).run? schedule =
      some final)
    (failed : ∀ applied, final.sessions () ≠ .returned (.ok applied)) :
    DetailOnly store final.committed ∧
      (final.committed = store ∨ ∃ detail currency, answers.detail = .ok detail ∧
        supportedCurrency? item.currencyCode = some currency ∧
        final.committed = withDetail numbers detail currency store) ∧
      (∀ error, final.sessions () = .returned (.error error) → answers.headerFailure = none →
        final.committed = store) := by
  have alone : ∀ action ∈ schedule, action.session = () := fun _ _ => rfl
  have left : final.committed = store ∨ ∃ detail currency, answers.detail = .ok detail ∧
      supportedCurrency? item.currencyCode = some currency ∧
      final.committed = withDetail numbers detail currency store := by
    rcases Config.committed_of_failed alone run failed with same | member
    · exact .inl same
    · obtain ⟨customer, currency, detail, writing, _, fetched, same⟩ :=
        pullOneInvoice_midway numbers member
      exact .inr ⟨detail, currency, fetched, writing.currency, same⟩
  refine ⟨?_, left, ?_⟩
  · rcases left with same | ⟨detail, currency, _, _, same⟩
    · rw [same]
      rfl
    · rw [same]
      rfl
  · intro error ended upserts
    obtain ⟨outcome, committed⟩ := Config.committed_of_returned alone run ended
    rw [committed]
    exact pullOneInvoice_refused numbers upserts outcome.symm

/-! ## A number that is taken -/

/-- Amounts are whole units of the currency, dates are milliseconds. -/
def sampleDecimals : ZohoNumbers Int where
  mul := fun rate quantity => rate * quantity
  roundScaled := fun value exponent => value * 10 ^ exponent
  ratioBp := fun part whole => part * 10000 / whole
  parseDate := fun text => some (digitsValue text.toList)

def sampleLinked : Store where
  invoice := {
    id := "invoice", brandId := "brand", number := "INV-0001", status := .sent
    currency := "USD", subtotalMinor := 10000, taxRateBpApplied := 0, taxMinor := 0
    cardFeeRateBpApplied := 0, cardFeeMinor := 0, totalMinor := 10000, balanceMinor := 10000
    publicToken := "token", notes := none, zohoInvoiceId := some "z1"
    zohoSyncedVersion := some 1, issuedAt := some 0, firstViewedAt := none, paidAt := none
    cancelledAt := none, previousStatus := none }
  lineItems := [{
    position := 0, itemName := "Service", description := none, quantity := 10000
    unitPriceMinor := 10000, lineTotalMinor := 10000, taxExempt := true }]
  customer := { email := some "payer@example.test" }
  settings := some {
    cardEnabled := true, applePayEnabled := true, googlePayEnabled := true, achEnabled := true
    checkEnabled := true }
  payments := UniqueTable.empty
  events := []
  checkSubmissions := []

def sampleItem (status : String) (modified : String) : ZohoInvoiceListItem Int where
  invoiceId := "z1"
  customerId := "c1"
  invoiceNumber := "INV-0001"
  status := status
  currencyCode := "USD"
  total := 100
  balance := 100
  lastModifiedTime := some modified

def sampleAnswers (headerFailure : Option HeaderFailure) : PullAnswers Int where
  customer := .ok (some { email := some "payer@example.test" })
  detail := .ok {
    subTotal := 200, taxTotal := 0, notes := none
    lineItems := [{
      name := some "Service", description := none, rate := 100, quantity := 2, taxId := none }] }
  headerFailure := headerFailure

def sampleCollision : PullAnswers Int := sampleAnswers (some .numberTaken)

def sampleSteps : List (Action Unit) := List.replicate 6 (.advance ())

theorem pull_failure_leaves_sample :
    ∃ final error, (Config.start sampleLinked fun _ : Unit =>
        pullOneInvoice sampleDecimals (sampleItem "sent" "2") sampleCollision).run? sampleSteps =
          some final ∧
      final.sessions () = .returned (.error error) ∧ DetailOnly sampleLinked final.committed := by
  have runs : ∃ final error, (Config.start sampleLinked fun _ : Unit =>
        pullOneInvoice sampleDecimals (sampleItem "sent" "2") sampleCollision).run? sampleSteps =
          some final ∧ final.sessions () = .returned (.error error) := ⟨_, _, rfl, rfl⟩
  obtain ⟨final, error, run, ended⟩ := runs
  refine ⟨final, error, run, ended, ?_⟩
  exact (pull_failure_leaves sampleDecimals run (by simp [ended])).1

/-- The pull throws and the invoice has the lines of the new version under the header of
the old one. -/
theorem collision_leaves_detail :
    ∃ final error, (Config.start sampleLinked fun _ : Unit =>
        pullOneInvoice sampleDecimals (sampleItem "sent" "2") sampleCollision).run? sampleSteps =
          some final ∧
      final.sessions () = .returned (.error error) ∧
      final.committed.invoice.totalMinor = 10000 ∧
      final.committed.invoice.subtotalMinor = 20000 ∧
      final.committed.lineItems ≠ sampleLinked.lineItems :=
  ⟨_, _, rfl, rfl, rfl, by decide, by decide⟩

end ZohoPullService

end MultiBrandInvoicing
