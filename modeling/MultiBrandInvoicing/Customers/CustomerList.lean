import Mathlib.Data.List.Dedup
import MultiBrandInvoicing.Arithmetic.Doubles
import MultiBrandInvoicing.Integrations.ZohoPresence
import MultiBrandInvoicing.Mirroring.InvoicePulls

/-!
# The list of customers

`list` and `withInvoiceStats` of `apps/api/src/customers/customers.service.ts`, on the rows that
the scope sees.  A filter and a page are one query; three figures are then attached to every
customer of the page, from grouped queries over the invoices of those customers.
-/

set_option autoImplicit false

namespace MultiBrandInvoicing

structure ListedCustomer where
  id : String
  brandId : String
  displayName : String
  companyName : Option String
  email : Option String
  status : CustomerStatus
  createdAt : Time
  deriving DecidableEq, Repr

structure DateRange where
  earliest : Option Time
  latest : Option Time
  deriving DecidableEq, Repr

structure CustomerListQuery where
  page : Nat := 1
  pageSize : Nat := 25
  hasOutstanding : Option Bool := none
  search : Option String := none
  dateRange : Option DateRange := none
  includeArchived : Bool := false
  deriving DecidableEq, Repr

structure CustomerListRow extends ListedCustomer where
  invoiceCount : Nat
  paymentCount : Nat
  outstandingMinor : Int
  deriving DecidableEq, Repr

structure CustomerListResult where
  data : List CustomerListRow
  page : Nat
  pageSize : Nat
  total : Nat
  deriving DecidableEq, Repr

structure CustomerTables where
  customers : List ListedCustomer
  invoices : List InvoiceRecord
  deriving DecidableEq

def CustomerTables.invoicesOf (tables : CustomerTables) (customerId : String) :
    List InvoiceRecord :=
  tables.invoices.filter fun record => record.customerId = customerId

def InvoiceRecord.balanceMinor (record : InvoiceRecord) : Int := record.store.invoice.balanceMinor

namespace CustomersService

/-! ## Which customers are listed -/

/-- `balanceMinor: { gt: 0n }, status: { notIn: ['PAID', 'CANCELLED'] }`. -/
def isOutstanding (record : InvoiceRecord) : Bool :=
  0 < record.balanceMinor &&
    !([InvoiceStatus.paid, .cancelled].contains record.store.invoice.status)

section List

-- Which letters are the same under `mode: 'insensitive'` is for the collation of the database.
variable (containsInsensitive : String → String → Bool) (tables : CustomerTables)

def outstandingClause (hasOutstanding : Bool) (customer : ListedCustomer) : Bool :=
  if hasOutstanding then (tables.invoicesOf customer.id).any isOutstanding
  else (tables.invoicesOf customer.id).all fun record => !isOutstanding record

def matchesSearch (search : String) (customer : ListedCustomer) : Bool :=
  containsInsensitive customer.displayName search ||
    customer.companyName.any (containsInsensitive · search) ||
    customer.email.any (containsInsensitive · search)

def customerWhere (brandId : String) (query : CustomerListQuery) (customer : ListedCustomer) :
    Bool :=
  customer.brandId = brandId &&
    (query.includeArchived || customer.status = .active) &&
    (query.search.filter (· ≠ "")).all (matchesSearch containsInsensitive · customer) &&
    query.dateRange.all (fun range =>
      range.earliest.all (· ≤ customer.createdAt) && range.latest.all (customer.createdAt ≤ ·)) &&
    query.hasOutstanding.all (outstandingClause tables · customer)

/-! ## The figures of a customer -/

structure InvoiceGroup where
  customerId : String
  count : Nat
  /-- Null where a group has nothing to add up. -/
  balanceMinor : Option Int
  deriving DecidableEq, Repr

def invoiceGroup (invoices : List InvoiceRecord) (customerId : String) : InvoiceGroup :=
  let own := invoices.filter fun record => record.customerId = customerId
  { customerId
    count := own.length
    balanceMinor := some (own.map InvoiceRecord.balanceMinor).sum }

def invoicesIn (customerIds : List String) : List InvoiceRecord :=
  tables.invoices.filter fun record => customerIds.contains record.customerId

/-- One group for each of the customers that has an invoice. -/
def invoiceAgg (customerIds : List String) : List InvoiceGroup :=
  ((invoicesIn tables customerIds).map InvoiceRecord.customerId).dedup.map
    (invoiceGroup (invoicesIn tables customerIds))

def collectedPaymentStatuses : List PaymentStatus := [.settled]

/-- One group for each of the invoices that has a collected payment. -/
def paymentAgg (invoiceIds : List String) : List (String × Nat) :=
  (tables.invoices.filter fun record => invoiceIds.contains record.store.invoice.id).filterMap
    fun record =>
      let collected := record.store.payments.rows.countP fun payment =>
        collectedPaymentStatuses.contains payment.status
      if 0 < collected then some (record.store.invoice.id, collected) else none

/-- A `Map` from the pairs of id and customer: the last one counts. -/
def customerIdByInvoiceId (invoices : List InvoiceRecord) (invoiceId : String) : Option String :=
  (invoices.reverse.find? fun record => record.store.invoice.id = invoiceId).map
    InvoiceRecord.customerId

def paymentCountByCustomer (invoices : List InvoiceRecord) (groups : List (String × Nat)) :
    String → Nat :=
  groups.foldl (fun counts group =>
    ((customerIdByInvoiceId invoices group.1).filter (· ≠ "")).elim counts fun customerId =>
      Function.update counts customerId (counts customerId + group.2)) fun _ => 0

def invoiceCount (groups : List InvoiceGroup) (customerId : String) : Nat :=
  ((groups.find? fun group => group.customerId = customerId).map InvoiceGroup.count).getD 0

/-- The sum is a bigint; what becomes a number of it is rounded to a double. -/
def outstandingMinor (groups : List InvoiceGroup) (customerId : String) : Int :=
  Doubles.round (((groups.find? fun group => group.customerId = customerId).map fun group =>
    group.balanceMinor.getD 0).getD 0)

def withInvoiceStats (customers : List ListedCustomer) : List CustomerListRow :=
  let customerIds := customers.map ListedCustomer.id
  let groups := invoiceAgg tables customerIds
  let invoices := invoicesIn tables customerIds
  let payments := paymentCountByCustomer invoices
    (paymentAgg tables (invoices.map fun record => record.store.invoice.id))
  customers.map fun customer =>
    { customer with
      invoiceCount := invoiceCount groups customer.id
      paymentCount := payments customer.id
      outstandingMinor := outstandingMinor groups customer.id }

def newestFirst (first second : ListedCustomer) : Bool := second.createdAt ≤ first.createdAt

def list (brandId : String) (query : CustomerListQuery) : CustomerListResult :=
  let listed := tables.customers.filter (customerWhere containsInsensitive tables brandId query)
  let page := ((listed.mergeSort newestFirst).drop ((query.page - 1) * query.pageSize)).take
    query.pageSize
  { data := withInvoiceStats tables page
    page := query.page
    pageSize := query.pageSize
    total := listed.length }

/-! ## What a row says -/

variable {tables}

theorem isOutstanding_iff {record : InvoiceRecord} :
    isOutstanding record = true ↔
      0 < record.balanceMinor ∧ isTerminal record.store.invoice.status = false := by
  simp [isOutstanding, isTerminal, terminalStatuses]

theorem find?_map_of_key {α β : Type} [DecidableEq α] {group : α → β} {key : β → α}
    (named : ∀ one, key (group one) = one) (keys : List α) (one : α) :
    (keys.map group).find? (fun made => key made = one) =
      if one ∈ keys then some (group one) else none := by
  induction keys with
  | nil => rfl
  | cons first rest ih =>
      rw [List.map_cons, List.find?_cons, named, ih]
      by_cases same : first = one
      · simp [same]
      · simp [same, Ne.symm same]

theorem invoicesIn_filter (tables : CustomerTables) {customerIds : List String}
    {customerId : String} (asked : customerId ∈ customerIds) :
    (invoicesIn tables customerIds).filter (fun record => record.customerId = customerId) =
      tables.invoicesOf customerId := by
  rw [invoicesIn, List.filter_filter]
  refine List.filter_congr fun record _ => ?_
  by_cases its : record.customerId = customerId
  · simp [its, asked]
  · simp [its]

theorem outstandingMinor_eq {customerIds : List String} {customerId : String}
    (asked : customerId ∈ customerIds) :
    outstandingMinor (invoiceAgg tables customerIds) customerId =
      Doubles.round ((tables.invoicesOf customerId).map InvoiceRecord.balanceMinor).sum := by
  have own := invoicesIn_filter tables asked
  rw [outstandingMinor, invoiceAgg, find?_map_of_key fun _ => rfl]
  congr 1
  split
  next => simp [invoiceGroup, own]
  next missing =>
    have nothing : tables.invoicesOf customerId = [] := by
      rw [← own, List.filter_eq_nil_iff]
      intro record member its
      have listed := List.mem_map_of_mem (f := InvoiceRecord.customerId) member
      rw [decide_eq_true_eq.mp its] at listed
      exact missing (List.mem_dedup.mpr listed)
    simp [nothing]

theorem mem_list_data {brandId : String} {query : CustomerListQuery} {row : CustomerListRow}
    (member : row ∈ (list containsInsensitive tables brandId query).data) :
    row.toListedCustomer ∈ tables.customers ∧
      customerWhere containsInsensitive tables brandId query row.toListedCustomer = true ∧
      row.outstandingMinor =
        Doubles.round ((tables.invoicesOf row.id).map InvoiceRecord.balanceMinor).sum := by
  obtain ⟨customer, onPage, rfl⟩ := List.mem_map.mp member
  have sorted := List.mem_of_mem_drop (List.mem_of_mem_take onPage)
  have listed := List.mem_filter.mp ((List.mergeSort_perm _ newestFirst).mem_iff.mp sorted)
  exact ⟨listed.1, listed.2, outstandingMinor_eq (List.mem_map_of_mem onPage)⟩

theorem customerWhere_hasOutstanding (brandId : String) (query : CustomerListQuery)
    (hasOutstanding : Bool) (customer : ListedCustomer) :
    customerWhere containsInsensitive tables brandId
        { query with hasOutstanding := some hasOutstanding } customer =
      (customerWhere containsInsensitive tables brandId { query with hasOutstanding := none }
          customer && outstandingClause tables hasOutstanding customer) := by
  simp [customerWhere]

end List

end CustomersService

end MultiBrandInvoicing
