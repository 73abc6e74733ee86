import MultiBrandInvoicing.Customers.CustomerList
import MultiBrandInvoicing.Domain.InvoiceStatus
import MultiBrandInvoicing.Tables.Pages

/-!
# The list of invoices

`list` and `tabCounts` of `apps/api/src/invoices/invoices.service.ts`, with the tabs of
`apps/admin/src/lib/invoice-presentation.ts` and the loop of `listSendableInvoicesAction` in
`apps/admin/src/app/(app)/invoices/actions.ts`, which reads page after page.
-/

set_option autoImplicit false

namespace MultiBrandInvoicing

namespace InvoiceList

open Pages TopRows

structure ListedInvoice where
  id : String
  brandId : String
  customerId : String
  customerDisplayName : String
  number : String
  status : InvoiceStatus
  overdue : Bool
  invoiceDate : Time
  createdAt : Time
  deriving DecidableEq, Repr

/-! ## The queries of the service -/

structure BaseFilters where
  search : Option String := none
  dateRange : Option DateRange := none
  customerId : Option String := none
  deriving DecidableEq, Repr

structure TabFilter where
  status : List InvoiceStatus := []
  overdueOnly : Bool := false
  excludeOverdue : Bool := false
  deriving DecidableEq, Repr

structure InvoiceListQuery extends BaseFilters, TabFilter where
  page : Nat := 1
  pageSize : Nat := 25
  deriving DecidableEq, Repr

/-- What the two numbers of a page must be. -/
def paginationSchema (query : InvoiceListQuery) : Bool :=
  1 ≤ query.page && 1 ≤ query.pageSize && query.pageSize ≤ 200

structure InvoiceListResult where
  data : List ListedInvoice
  page : Nat
  pageSize : Nat
  total : Nat
  deriving DecidableEq, Repr

structure InvoiceTabCounts where
  all : Nat
  draft : Nat
  unpaid : Nat
  partiallyPaid : Nat
  paid : Nat
  overdue : Nat
  deriving DecidableEq, Repr

section Queries

variable (containsInsensitive : String → String → Bool) (rows : List ListedInvoice)
  (brandId : String)

def matchesSearch (search : String) (row : ListedInvoice) : Bool :=
  containsInsensitive row.number search || containsInsensitive row.customerDisplayName search

/-- An empty text asks for nothing. -/
def baseInvoiceWhere (filters : BaseFilters) (row : ListedInvoice) : Bool :=
  row.brandId = brandId &&
    (filters.customerId.filter (· ≠ "")).all (row.customerId = ·) &&
    (filters.search.filter (· ≠ "")).all (matchesSearch containsInsensitive · row) &&
    filters.dateRange.all fun range =>
      range.earliest.all (· ≤ row.invoiceDate) && range.latest.all (row.invoiceDate ≤ ·)

def tabWhere (filter : TabFilter) (status : InvoiceStatus) (overdue : Bool) : Bool :=
  (filter.status = [] || filter.status.contains status) &&
    (if filter.overdueOnly then overdue else if filter.excludeOverdue then !overdue else true)

def matching (filters : BaseFilters) (filter : TabFilter) : List ListedInvoice :=
  rows.filter fun row =>
    baseInvoiceWhere containsInsensitive brandId filters row &&
      tabWhere filter row.status row.overdue

/-- What `list` may answer; invoices created at the same time come in any order. -/
structure Listed (query : InvoiceListQuery) (result : InvoiceListResult) : Prop where
  data : IsPage ListedInvoice.createdAt query.pageSize query.page
    (matching containsInsensitive rows brandId query.toBaseFilters query.toTabFilter) result.data
  page : result.page = query.page
  pageSize : result.pageSize = query.pageSize
  total : result.total =
    (matching containsInsensitive rows brandId query.toBaseFilters query.toTabFilter).length

def count (filters : BaseFilters) (further : InvoiceStatus → Bool → Bool) : Nat :=
  rows.countP fun row =>
    baseInvoiceWhere containsInsensitive brandId filters row && further row.status row.overdue

def tabCounts (filters : BaseFilters) : InvoiceTabCounts where
  all := count containsInsensitive rows brandId filters fun _ _ => true
  draft := count containsInsensitive rows brandId filters fun status _ => status = .draft
  unpaid := count containsInsensitive rows brandId filters fun status overdue =>
    [InvoiceStatus.sent, .viewed, .pendingPayment].contains status && !overdue
  partiallyPaid := count containsInsensitive rows brandId filters fun status overdue =>
    status = .partiallyPaid && !overdue
  paid := count containsInsensitive rows brandId filters fun status _ => status = .paid
  overdue := count containsInsensitive rows brandId filters fun _ overdue => overdue

end Queries

/-! ## The tabs of the page -/

inductive InvoiceListStatus where
  | draft | unpaid | partiallyPaid | paid | overdue | cancelled
  deriving DecidableEq, Repr

def invoiceListStatus (status : InvoiceStatus) (overdue : Bool) : InvoiceListStatus :=
  if status = .draft then .draft
  else if status = .paid then .paid
  else if status = .cancelled then .cancelled
  else if overdue then .overdue
  else if status = .partiallyPaid then .partiallyPaid else .unpaid

def isBulkSendable (status : InvoiceListStatus) : Bool := status ≠ .paid && status ≠ .cancelled

inductive InvoiceListTab where
  | all | draft | unpaid | paid | partiallyPaid | overdue
  deriving DecidableEq, Repr

def InvoiceListTab.key : InvoiceListTab → String
  | .all => "all"
  | .draft => "draft"
  | .unpaid => "unpaid"
  | .paid => "paid"
  | .partiallyPaid => "partial"
  | .overdue => "overdue"

/-- Any other text is the tab of all invoices. -/
def invoiceListTabFilter (tab : String) : TabFilter :=
  match tab with
  | "draft" => { status := [.draft] }
  | "unpaid" => { status := [.sent, .viewed, .pendingPayment], excludeOverdue := true }
  | "paid" => { status := [.paid] }
  | "partial" => { status := [.partiallyPaid], excludeOverdue := true }
  | "overdue" => { overdueOnly := true }
  | _ => {}

def InvoiceTabCounts.badge (counts : InvoiceTabCounts) : InvoiceListTab → Nat
  | .all => counts.all
  | .draft => counts.draft
  | .unpaid => counts.unpaid
  | .paid => counts.paid
  | .partiallyPaid => counts.partiallyPaid
  | .overdue => counts.overdue

/-- The rows that a tab is about, by the status that is displayed. -/
def InvoiceListTab.shows : InvoiceListTab → InvoiceListStatus → Bool
  | .all, _ => true
  | .draft, status => status = .draft
  | .unpaid, status => status = .unpaid
  | .paid, status => status = .paid
  | .partiallyPaid, status => status = .partiallyPaid
  | .overdue, status => status = .overdue

/-- Nothing takes the overlay off an invoice that is paid, cancelled or a draft. -/
def closedOverdue (status : InvoiceStatus) (overdue : Bool) : Bool := overdue && !isPayable status

section Tabs

variable (containsInsensitive : String → String → Bool) {rows : List ListedInvoice}
  (brandId : String) (filters : BaseFilters)

/-- A tab's filter takes what is displayed under it, and the overdue tab the overlay of a closed
invoice as well. -/
theorem tabWhere_eq (tab : InvoiceListTab) (status : InvoiceStatus) (overdue : Bool) :
    tabWhere (invoiceListTabFilter tab.key) status overdue =
      (tab.shows (invoiceListStatus status overdue) ||
        (tab = .overdue && closedOverdue status overdue)) := by
  cases tab <;> cases status <;> cases overdue <;> decide

/-- What a badge counts. -/
def badgeWhere : InvoiceListTab → InvoiceStatus → Bool → Bool
  | .all, _, _ => true
  | .draft, status, _ => status = .draft
  | .unpaid, status, overdue =>
    [InvoiceStatus.sent, .viewed, .pendingPayment].contains status && !overdue
  | .paid, status, _ => status = .paid
  | .partiallyPaid, status, overdue => status = .partiallyPaid && !overdue
  | .overdue, _, overdue => overdue

theorem badge_eq (tab : InvoiceListTab) :
    (tabCounts containsInsensitive rows brandId filters).badge tab =
      count containsInsensitive rows brandId filters (badgeWhere tab) := by
  cases tab <;> rfl

theorem badgeWhere_eq (tab : InvoiceListTab) (status : InvoiceStatus) (overdue : Bool) :
    badgeWhere tab status overdue = tabWhere (invoiceListTabFilter tab.key) status overdue := by
  cases tab <;> cases status <;> cases overdue <;> decide

theorem count_badgeWhere (tab : InvoiceListTab) :
    count containsInsensitive rows brandId filters (badgeWhere tab) =
      (matching containsInsensitive rows brandId filters
        (invoiceListTabFilter tab.key)).length := by
  rw [count, matching, ← List.countP_eq_length_filter]
  refine List.countP_congr ?_
  intro row _
  rw [badgeWhere_eq]

theorem count_or {first second : InvoiceStatus → Bool → Bool}
    (apart : ∀ status overdue, (first status overdue && second status overdue) = false) :
    (count containsInsensitive rows brandId filters
        fun status overdue => first status overdue || second status overdue) =
      count containsInsensitive rows brandId filters first +
        count containsInsensitive rows brandId filters second := by
  simp only [count]
  induction rows with
  | nil => rfl
  | cons row rest ih =>
    have here := apart row.status row.overdue
    simp only [List.countP_cons, ih]
    revert here
    cases baseInvoiceWhere containsInsensitive brandId filters row <;>
      cases first row.status row.overdue <;> cases second row.status row.overdue <;>
      simp <;> omega

/-- Every row is displayed under one tab or cancelled; a closed one with the overlay is counted
twice. -/
theorem count_all :
    let counts := tabCounts containsInsensitive rows brandId filters
    counts.all + count containsInsensitive rows brandId filters closedOverdue =
      counts.draft + counts.unpaid + counts.partiallyPaid + counts.paid + counts.overdue +
        count containsInsensitive rows brandId filters fun status _ => status = .cancelled := by
  simp only [tabCounts, count]
  induction rows with
  | nil => rfl
  | cons row rest ih =>
    simp only [List.countP_cons]
    by_cases fits : baseInvoiceWhere containsInsensitive brandId filters row = true
    · simp only [fits, Bool.true_and]
      cases row.status <;> cases row.overdue <;>
        simp_all [closedOverdue, isPayable, payableStatuses] <;> omega
    · simp only [fits, Bool.false_and]
      simpa using ih

/-- A badge is what the list behind its tab counts.  A row on a page is displayed under the tab,
unless it is a closed invoice with the overlay on the overdue tab; but for these and the cancelled
invoices every row is under one of the five. -/
theorem badges_agree (tab : InvoiceListTab) (page pageSize : Nat) {result : InvoiceListResult}
    (listed : Listed containsInsensitive rows brandId
      { toBaseFilters := filters, toTabFilter := invoiceListTabFilter tab.key, page, pageSize }
      result) :
    let counts := tabCounts containsInsensitive rows brandId filters
    result.total = counts.badge tab ∧
      (∀ row ∈ result.data, row ∈ rows ∧
        (tab.shows (invoiceListStatus row.status row.overdue) = true ∨
          tab = .overdue ∧ closedOverdue row.status row.overdue = true)) ∧
      counts.badge tab =
        count containsInsensitive rows brandId filters
            (fun status overdue => tab.shows (invoiceListStatus status overdue)) +
          (if tab = .overdue then count containsInsensitive rows brandId filters closedOverdue
            else 0) ∧
      counts.all + count containsInsensitive rows brandId filters closedOverdue =
        counts.draft + counts.unpaid + counts.partiallyPaid + counts.paid + counts.overdue +
          count containsInsensitive rows brandId filters fun status _ => status = .cancelled := by
  intro counts
  have badge := @badge_eq containsInsensitive rows brandId filters tab
  refine ⟨?_, ?_, ?_, ?_⟩
  · rw [listed.total, badge, count_badgeWhere]
  · intro row member
    have found := List.mem_filter.mp (listed.data.subset member)
    have here := (Bool.and_eq_true_iff.mp found.2).2
    rw [tabWhere_eq] at here
    exact ⟨found.1, by simpa using here⟩
  · have filter : badgeWhere tab = fun status overdue =>
        tab.shows (invoiceListStatus status overdue) ||
          (tab = .overdue && closedOverdue status overdue) := by
      funext status overdue
      rw [badgeWhere_eq, tabWhere_eq]
    have apart : ∀ status overdue, (tab.shows (invoiceListStatus status overdue) &&
        (tab = .overdue && closedOverdue status overdue)) = false := by
      intro status overdue
      cases tab <;> cases status <;> cases overdue <;> decide
    rw [badge, filter, count_or containsInsensitive brandId filters apart]
    by_cases marked : tab = .overdue
    · simp [marked]
    · simp [marked, count]
  · exact count_all containsInsensitive brandId filters

end Tabs

/-! ## Select all invoices -/

def maxSelectAllInvoices : Nat := 2000

def selectAllFetchPageSize : Nat := 200

def sendableOf (rows : List ListedInvoice) : List (String × String) :=
  (rows.filter fun row => isBulkSendable (invoiceListStatus row.status row.overdue)).map
    fun row => (row.id, row.customerId)

def selectAllQuery (filters : BaseFilters) (tab : String) (page : Nat) : InvoiceListQuery where
  toBaseFilters := filters
  toTabFilter := invoiceListTabFilter tab
  page := page
  pageSize := selectAllFetchPageSize

section SelectAll

variable {ε : Type}

def collectSendable (listInvoices : Nat → Except ε InvoiceListResult) (page : Nat)
    (sendable : List (String × String)) : Except ε (List (String × String)) :=
  match listInvoices page with
  | .error refused => .error refused
  | .ok result =>
    let sendable := sendable ++ sendableOf result.data
    let fetched := page * selectAllFetchPageSize
    if finished : result.total ≤ fetched ∨ maxSelectAllInvoices ≤ fetched then .ok sendable
    else collectSendable listInvoices (page + 1) sendable
termination_by maxSelectAllInvoices - page * selectAllFetchPageSize
decreasing_by
  simp only [fetched, not_or, not_le, maxSelectAllInvoices, selectAllFetchPageSize] at finished ⊢
  omega

/-- `listInvoices` of the page asks for the same brand, tab and search each time. -/
def listSendableInvoicesAction (listInvoices : InvoiceListQuery → Except ε InvoiceListResult)
    (filters : BaseFilters) (tab : String) : Except ε (List (String × String)) :=
  collectSendable (fun page => listInvoices (selectAllQuery filters tab page)) 1 []

theorem isBulkSendable_iff (status : InvoiceStatus) (overdue : Bool) :
    isBulkSendable (invoiceListStatus status overdue) = !isTerminal status := by
  cases status <;> cases overdue <;> decide

theorem sendableOf_append (first second : List ListedInvoice) :
    sendableOf (first ++ second) = sendableOf first ++ sendableOf second := by
  rw [sendableOf, List.filter_append, List.map_append]
  rfl

/-- The loop has the rows of the pages before. -/
theorem collectSendable_eq {listInvoices : Nat → Except ε InvoiceListResult}
    {sorted : List ListedInvoice}
    (answers : ∀ number, 1 ≤ number → ∃ result, listInvoices number = .ok result ∧
      result.data = page selectAllFetchPageSize number sorted ∧ result.total = sorted.length)
    (before : Nat) (room : before * selectAllFetchPageSize < maxSelectAllInvoices) :
    collectSendable listInvoices (before + 1)
        (sendableOf (sorted.take (before * selectAllFetchPageSize))) =
      .ok (sendableOf (sorted.take maxSelectAllInvoices)) := by
  obtain ⟨result, answered, data, total⟩ := answers (before + 1) (Nat.le_add_left 1 before)
  have more : sendableOf (sorted.take (before * selectAllFetchPageSize)) ++
      sendableOf result.data =
        sendableOf (sorted.take ((before + 1) * selectAllFetchPageSize)) := by
    rw [← sendableOf_append, data, take_append_page]
  rw [collectSendable, answered]
  simp only [more, total]
  by_cases whole : sorted.length ≤ (before + 1) * selectAllFetchPageSize
  · have most : (before + 1) * selectAllFetchPageSize ≤ maxSelectAllInvoices := by
      rw [selectAllFetchPageSize, maxSelectAllInvoices] at *
      omega
    rw [dif_pos (.inl whole), List.take_of_length_le whole,
      List.take_of_length_le (whole.trans most)]
  · by_cases full : maxSelectAllInvoices ≤ (before + 1) * selectAllFetchPageSize
    · have exact_ : (before + 1) * selectAllFetchPageSize = maxSelectAllInvoices := by
        rw [selectAllFetchPageSize, maxSelectAllInvoices] at *
        omega
      rw [dif_pos (.inr full), exact_]
    · rw [dif_neg (not_or.mpr ⟨whole, full⟩)]
      exact collectSendable_eq answers (before + 1) (not_le.mp full)
termination_by maxSelectAllInvoices - before * selectAllFetchPageSize
decreasing_by
  rw [selectAllFetchPageSize, maxSelectAllInvoices] at *
  omega

/-- Where no two of the invoices under the tab were created at once, what is selected are the newest
two thousand of them, each once, less those that cannot be sent. -/
theorem listSendable_newest (containsInsensitive : String → String → Bool)
    {rows : List ListedInvoice} (brandId : String) (filters : BaseFilters) (tab : String)
    {listInvoices : InvoiceListQuery → Except ε InvoiceListResult}
    (distinct : ((matching containsInsensitive rows brandId filters
      (invoiceListTabFilter tab)).map ListedInvoice.createdAt).Nodup)
    (answers : ∀ query, paginationSchema query = true → ∃ result,
      listInvoices query = .ok result ∧ Listed containsInsensitive rows brandId query result) :
    ∃ newest, IsTop ListedInvoice.createdAt maxSelectAllInvoices
        (matching containsInsensitive rows brandId filters (invoiceListTabFilter tab)) newest ∧
      listSendableInvoicesAction listInvoices filters tab =
        .ok ((newest.filter fun row => !isTerminal row.status).map
          fun row => (row.id, row.customerId)) := by
  let listed := matching containsInsensitive rows brandId filters (invoiceListTabFilter tab)
  have pages : ∀ number, 1 ≤ number → ∃ result,
      listInvoices (selectAllQuery filters tab number) = .ok result ∧
      result.data = page selectAllFetchPageSize number
        (listed.insertionSort (newestFirst ListedInvoice.createdAt)) ∧
      result.total = (listed.insertionSort (newestFirst ListedInvoice.createdAt)).length := by
    intro number first
    have passes : paginationSchema (selectAllQuery filters tab number) = true := by
      simp [paginationSchema, selectAllQuery, selectAllFetchPageSize, first]
    obtain ⟨result, answered, fits⟩ := answers _ passes
    refine ⟨result, answered, fits.data.eq distinct, ?_⟩
    rw [fits.total, List.length_insertionSort]
    rfl
  refine ⟨_, (Covers.refl listed).isTop, ?_⟩
  have collected := collectSendable_eq pages 0 (by decide)
  rw [Nat.zero_mul] at collected
  have sendable : (fun row : ListedInvoice => !isTerminal row.status) =
      fun row => isBulkSendable (invoiceListStatus row.status row.overdue) :=
    funext fun row => (isBulkSendable_iff row.status row.overdue).symm
  rw [sendable]
  exact collected

end SelectAll

/-! ## A list -/

/-- The answer where invoices created at once come in the order of the table. -/
def answerOf (containsInsensitive : String → String → Bool) (rows : List ListedInvoice)
    (brandId : String) (query : InvoiceListQuery) : InvoiceListResult :=
  let found := matching containsInsensitive rows brandId query.toBaseFilters query.toTabFilter
  { data := page query.pageSize query.page
      (found.insertionSort (newestFirst ListedInvoice.createdAt))
    page := query.page
    pageSize := query.pageSize
    total := found.length }

theorem listed_answerOf (containsInsensitive : String → String → Bool) (rows : List ListedInvoice)
    (brandId : String) (query : InvoiceListQuery) :
    Listed containsInsensitive rows brandId query
      (answerOf containsInsensitive rows brandId query) :=
  ⟨isPage_insertionSort _ _ _ _, rfl, rfl, rfl⟩

def sampleListed (id : String) (status : InvoiceStatus) (overdue : Bool) (createdAt : Time) :
    ListedInvoice where
  id := id
  brandId := "b1"
  customerId := "c1"
  customerDisplayName := "Ada"
  number := id
  status := status
  overdue := overdue
  invoiceDate := createdAt
  createdAt := createdAt

/-- The second was overdue when it was paid. -/
def sampleRows : List ListedInvoice :=
  [sampleListed "i1" .sent false 1, sampleListed "i2" .paid true 2,
    sampleListed "i3" .viewed true 3, sampleListed "i4" .cancelled false 4,
    sampleListed "i5" .draft false 5]

theorem badges_agree_sample :
    let counts := tabCounts (· == ·) sampleRows "b1" {}
    (answerOf (· == ·) sampleRows "b1"
        { toTabFilter := invoiceListTabFilter InvoiceListTab.overdue.key }).total = 2 ∧
      counts.overdue = 1 + 1 ∧ counts.all + 1 = 6 := by
  have agree := badges_agree (· == ·) "b1" {} .overdue 1 25
    (listed_answerOf (· == ·) sampleRows "b1" _)
  exact ⟨agree.1, agree.2.2.1, agree.2.2.2⟩

theorem listSendable_newest_sample :
    ∃ newest, IsTop ListedInvoice.createdAt maxSelectAllInvoices
        (matching (· == ·) sampleRows "b1" {} (invoiceListTabFilter "all")) newest ∧
      listSendableInvoicesAction
          (fun query => (.ok (answerOf (· == ·) sampleRows "b1" query) : Except String _))
          {} "all" =
        .ok ((newest.filter fun row => !isTerminal row.status).map
          fun row => (row.id, row.customerId)) :=
  listSendable_newest (· == ·) "b1" {} "all" (by decide)
    fun query _ => ⟨_, rfl, listed_answerOf (· == ·) sampleRows "b1" query⟩

end InvoiceList

end MultiBrandInvoicing
