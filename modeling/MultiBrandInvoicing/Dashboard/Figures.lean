import Mathlib.Data.List.Sort
import MultiBrandInvoicing.Domain.InvoiceStatus
import MultiBrandInvoicing.Money.Allocation
import MultiBrandInvoicing.Persistence.Rows
import MultiBrandInvoicing.Tables.Grouping

/-!
# The figures of the dashboard

`getSummary`, `getTrend` and `getByBrand` of `apps/api/src/dashboard/dashboard.service.ts`.  The
summary groups its records by currency and shows the currency that has the most.  The trend adds
up whatever falls in a month, and the rollup whatever a brand has.
-/

set_option autoImplicit false

namespace MultiBrandInvoicing

namespace Dashboard

open Records

/-! ## The records

Currencies are written through their schema only, so a row has one of those that are supported,
which `toCurrencyCode` leaves as it is. -/

structure BrandRow where
  id : String
  displayName : String
  themeColor : String
  currency : CurrencyCode
  createdAt : Time
  deriving DecidableEq, Repr

structure InvoiceRow where
  brandId : String
  currency : CurrencyCode
  status : InvoiceStatus
  issuedAt : Option Time
  totalMinor : Int
  balanceMinor : Int
  overdue : Bool
  deriving DecidableEq, Repr

structure PaymentRow where
  brandId : String
  currency : CurrencyCode
  status : PaymentStatus
  settledAt : Option Time
  amountMinor : Int
  deriving DecidableEq, Repr

structure Data where
  brands : List BrandRow
  invoices : List InvoiceRow
  payments : List PaymentRow
  deriving DecidableEq, Repr

abbrev Scope := String → Bool

/-- What row-level security leaves of the data. -/
def Data.withScope (data : Data) (scope : Scope) : Data where
  brands := data.brands.filter fun brand => scope brand.id
  invoices := data.invoices.filter fun invoice => scope invoice.brandId
  payments := data.payments.filter fun payment => scope payment.brandId

structure Entry where
  brandId : String
  currency : CurrencyCode
  date : Option Time
  amountMinor : Int
  deriving DecidableEq, Repr

/-! ## Months -/

structure DateRange where
  start : Time
  stop : Time
  deriving DecidableEq, Repr

def daysBeforeYear (year : Int) : Int :=
  365 * (year - 1970) + ((year - 1) / 4 - (year - 1) / 100 + (year - 1) / 400) - 477

def isLeapYear (year : Int) : Bool := year % 4 = 0 && (year % 100 ≠ 0 || year % 400 = 0)

/-- The days of a year before its month; January is 0. -/
def daysBeforeMonth (leap : Bool) (month : Int) : Int :=
  [0, 31, 59, 90, 120, 151, 181, 212, 243, 273, 304, 334].getD month.toNat 0 +
    if leap && 2 ≤ month then 1 else 0

def dayMs : Int := 24 * 60 * 60 * 1000

/-- `Date.UTC(year, month, 1)`, where the months are counted on over the years. -/
def monthStart (month : Int) : Time :=
  (daysBeforeYear (month / 12) + daysBeforeMonth (isLeapYear (month / 12)) (month % 12)) * dayMs

structure MonthBounds extends DateRange where
  key : String
  label : String
  deriving DecidableEq, Repr

def monthLabels : List String :=
  ["Jan", "Feb", "Mar", "Apr", "May", "Jun", "Jul", "Aug", "Sep", "Oct", "Nov", "Dec"]

/-- `monthBounds`; `thisMonth` is the month of the clock, counted from the year 0. -/
def monthBounds (thisMonth : Int) (monthsAgo : Nat) : MonthBounds :=
  let month := thisMonth - monthsAgo
  { start := monthStart month
    stop := monthStart (month + 1)
    key := s!"{month / 12}-{padStart (toString (month % 12 + 1)) 2}"
    label := monthLabels.getD (month % 12).toNat "" }

/-- `range ?? monthBounds(0)`. -/
def rangeOr (thisMonth : Int) (range : Option DateRange) : DateRange :=
  range.getD (monthBounds thisMonth 0).toDateRange

def inRange (range : DateRange) (date : Option Time) : Bool :=
  date.any fun date => range.start ≤ date && date < range.stop

def since (start : Time) (date : Option Time) : Bool := date.any fun date => start ≤ date

/-! ## What is counted -/

/-- `brandId ? { brandId } : {}`. -/
def ofBrand (brandId : Option String) (id : String) : Bool :=
  brandId.all fun wanted => wanted = "" || id = wanted

def invoiceEntry (invoice : InvoiceRow) : Entry where
  brandId := invoice.brandId
  currency := invoice.currency
  date := invoice.issuedAt
  amountMinor := invoice.totalMinor

def paymentEntry (payment : PaymentRow) : Entry where
  brandId := payment.brandId
  currency := payment.currency
  date := payment.settledAt
  amountMinor := payment.amountMinor

def invoiced (data : Data) (brandId : Option String) (when : Option Time → Bool) : List Entry :=
  (data.invoices.filter fun invoice => when invoice.issuedAt && invoice.status ≠ .cancelled &&
    ofBrand brandId invoice.brandId).map invoiceEntry

def collected (data : Data) (brandId : Option String) (when : Option Time → Bool) : List Entry :=
  (data.payments.filter fun payment => payment.status = .settled && when payment.settledAt &&
    ofBrand brandId payment.brandId).map paymentEntry

def overdue (data : Data) (brandId : Option String) : List Entry :=
  (data.invoices.filter fun invoice => invoice.overdue && ofBrand brandId invoice.brandId).map
    fun invoice => { invoiceEntry invoice with amountMinor := invoice.balanceMinor }

/-! ## The summary -/

/-- An order of the currencies, in which a grouped query happens to list them. -/
structure Listing where
  currencies : List CurrencyCode
  complete : ∀ currency, currency ∈ currencies

structure Listings where
  invoiced : Listing
  collected : Listing
  overdue : Listing

def byCurrency (listing : Listing) (entries : List Entry) : List (CurrencyCode × Int) :=
  groupSums listing.currencies Entry.currency Entry.amountMinor entries

/-- `Number(sum ?? 0n)`. -/
def sumNumber {κ : Type} [DecidableEq κ] (groups : List (κ × Int)) (key : κ) : Int :=
  Doubles.round (groupSum groups key)

def larger (best : CurrencyCode × Int) (group : CurrencyCode × Int) : CurrencyCode × Int :=
  let total := Doubles.round group.2
  if best.2 < total then (group.1, total) else best

def dominantCurrency (first : CurrencyCode) (invoicedByCurrency : List (CurrencyCode × Int)) :
    CurrencyCode :=
  (invoicedByCurrency.foldl larger (first, -1)).1

def collectionRate (invoicedMinor collectedMinor : Int) : ℚ :=
  if 0 < invoicedMinor then Doubles.nearest (collectedMinor / invoicedMinor) else 0

structure DashboardSummary where
  currency : CurrencyCode
  invoicedMinor : Int
  collectedMinor : Int
  collectionRate : ℚ
  overdueMinor : Int
  otherCurrencyBrandCount : Nat
  deriving DecidableEq

def otherCurrencyBrands (data : Data) (brandId : Option String) (dominant : CurrencyCode) : Nat :=
  if brandId.any (· ≠ "") then 0
  else (data.brands.filter fun brand => brand.currency ≠ dominant).length

def summaryIn (data : Data) (brandId : Option String) (dominant : CurrencyCode)
    (invoicedByCurrency collectedByCurrency overdueByCurrency : List (CurrencyCode × Int)) :
    DashboardSummary where
  currency := dominant
  invoicedMinor := sumNumber invoicedByCurrency dominant
  collectedMinor := sumNumber collectedByCurrency dominant
  collectionRate := collectionRate (sumNumber invoicedByCurrency dominant)
    (sumNumber collectedByCurrency dominant)
  overdueMinor := sumNumber overdueByCurrency dominant
  otherCurrencyBrandCount := otherCurrencyBrands data brandId dominant

def emptySummary : DashboardSummary where
  currency := .usd
  invoicedMinor := 0
  collectedMinor := 0
  collectionRate := 0
  overdueMinor := 0
  otherCurrencyBrandCount := 0

def getSummary (listings : Listings) (data : Data) (scope : Scope) (brandId : Option String)
    (thisMonth : Int) (range : Option DateRange) : DashboardSummary :=
  let rows := data.withScope scope
  let range := rangeOr thisMonth range
  let invoicedByCurrency := byCurrency listings.invoiced (invoiced rows brandId (inRange range))
  let collectedByCurrency := byCurrency listings.collected (collected rows brandId (inRange range))
  let overdueByCurrency := byCurrency listings.overdue (overdue rows brandId)
  -- The members of the set, in the order in which they came into it.
  match invoicedByCurrency ++ collectedByCurrency ++ overdueByCurrency with
  | [] => emptySummary
  | first :: _ =>
      summaryIn rows brandId (dominantCurrency first.1 invoicedByCurrency) invoicedByCurrency
        collectedByCurrency overdueByCurrency

/-! ## The trend -/

structure DashboardTrendPoint where
  month : String
  label : String
  invoicedMinor : Int
  collectedMinor : Int
  collectionRate : ℚ
  deriving DecidableEq

/-- `rows.reduce((sum, r) => sum + Number(r.amount), 0)`. -/
def addEntries (entries : List Entry) : Int :=
  addAll (entries.map fun entry => Doubles.round entry.amountMinor)

def trendPoint (invoiceRows paymentRows : List Entry) (bounds : MonthBounds) :
    DashboardTrendPoint :=
  let within (entries : List Entry) := entries.filter fun entry =>
    inRange bounds.toDateRange entry.date
  let invoicedMinor := addEntries (within invoiceRows)
  let collectedMinor := addEntries (within paymentRows)
  { month := bounds.key
    label := bounds.label
    invoicedMinor
    collectedMinor
    collectionRate := collectionRate invoicedMinor collectedMinor }

def lastSixMonths : List Nat := [5, 4, 3, 2, 1, 0]

def getTrend (data : Data) (scope : Scope) (brandId : Option String) (thisMonth : Int) :
    List DashboardTrendPoint :=
  let rows := data.withScope scope
  let earliest := (monthBounds thisMonth 5).start
  let invoiceRows := invoiced rows brandId (since earliest)
  let paymentRows := collected rows brandId (since earliest)
  lastSixMonths.map fun monthsAgo => trendPoint invoiceRows paymentRows
    (monthBounds thisMonth monthsAgo)

/-! ## The brands -/

structure BrandRollup where
  brandId : String
  brandName : String
  themeColor : String
  currency : CurrencyCode
  invoicedMinor : Int
  collectedMinor : Int
  collectionRate : ℚ
  overdueMinor : Int
  deriving DecidableEq

/-- The groups of the brands; only looked up, so that their order is nothing. -/
def byBrand (entries : List Entry) : List (String × Int) :=
  groupSums (entries.map Entry.brandId).dedup Entry.brandId Entry.amountMinor entries

def rollupOf (invoicedMap collectedMap overdueMap : List (String × Int)) (brand : BrandRow) :
    BrandRollup where
  brandId := brand.id
  brandName := brand.displayName
  themeColor := brand.themeColor
  currency := brand.currency
  invoicedMinor := sumNumber invoicedMap brand.id
  collectedMinor := sumNumber collectedMap brand.id
  collectionRate := collectionRate (sumNumber invoicedMap brand.id)
    (sumNumber collectedMap brand.id)
  overdueMinor := sumNumber overdueMap brand.id

def getByBrand (data : Data) (scope : Scope) (thisMonth : Int) (range : Option DateRange) :
    List BrandRollup :=
  let rows := data.withScope scope
  let range := rangeOr thisMonth range
  let brands := rows.brands.insertionSort fun first second => first.createdAt ≤ second.createdAt
  brands.map (rollupOf (byBrand (invoiced rows none (inRange range)))
    (byBrand (collected rows none (inRange range))) (byBrand (overdue rows none)))

/-! ## Months follow each other -/

theorem daysBeforeMonth_le_succ (leap : Bool) {month : Int} (first : 0 ≤ month)
    (last : month < 11) :
    daysBeforeMonth leap month ≤ daysBeforeMonth leap (month + 1) := by
  have each : ∀ leap : Bool, ∀ month : Fin 11,
      daysBeforeMonth leap (month.val : Int) ≤ daysBeforeMonth leap ((month.val : Int) + 1) := by
    decide +kernel
  have within : month.toNat < 11 := by omega
  have step := each leap ⟨month.toNat, within⟩
  rwa [Int.toNat_of_nonneg first] at step

theorem monthStart_le_succ (month : Int) : monthStart month ≤ monthStart (month + 1) := by
  have longer : ∀ first second : Int, first ≤ second → first * dayMs ≤ second * dayMs :=
    fun first second le => Int.mul_le_mul_of_nonneg_right le (by decide)
  apply longer
  have bounds := Int.emod_nonneg month (by decide : (12 : Int) ≠ 0)
  by_cases december : month % 12 = 11
  · have year : (month + 1) / 12 = month / 12 + 1 := by omega
    have january : (month + 1) % 12 = 0 := by omega
    have before : ∀ leap, daysBeforeMonth leap 11 ≤ 335 := by decide +kernel
    have none_ : ∀ leap, daysBeforeMonth leap 0 = 0 := by decide +kernel
    have days := before (isLeapYear (month / 12))
    rw [year, january, december, none_]
    unfold daysBeforeYear
    omega
  · have year : (month + 1) / 12 = month / 12 := by omega
    have next : (month + 1) % 12 = month % 12 + 1 := by omega
    have days := daysBeforeMonth_le_succ (isLeapYear (month / 12)) bounds (by omega)
    rw [year, next]
    omega

theorem monthStart_mono {first second : Int} (le : first ≤ second) :
    monthStart first ≤ monthStart second :=
  monotone_int_of_le_succ monthStart_le_succ le

theorem earliest_le (thisMonth : Int) {monthsAgo : Nat} (listed : monthsAgo ∈ lastSixMonths) :
    (monthBounds thisMonth 5).start ≤ (monthBounds thisMonth monthsAgo).start := by
  have within : ∀ monthsAgo ∈ lastSixMonths, monthsAgo ≤ 5 := by decide
  have small := within monthsAgo listed
  exact monthStart_mono (by omega)

/-! ## What falls in a month -/

theorem inRange_and_since {range : DateRange} {earliest : Time} (le : earliest ≤ range.start)
    (date : Option Time) : (inRange range date && since earliest date) = inRange range date := by
  cases date with
  | none => rfl
  | some date =>
      simp only [inRange, since, Option.any_some]
      by_cases started : range.start ≤ date
      · simp [started, le.trans started]
      · simp [started]

theorem filter_taken_since {α : Type} (rows : List α) (entryOf : α → Entry)
    (taken : (Option Time → Bool) → α → Bool) {range : DateRange} {earliest : Time}
    (cut : ∀ row, (inRange range (entryOf row).date && taken (since earliest) row) =
      taken (inRange range) row) :
    ((rows.filter (taken (since earliest))).map entryOf).filter
        (fun entry => inRange range entry.date) =
      (rows.filter (taken (inRange range))).map entryOf := by
  rw [List.filter_map, List.filter_filter]
  have same : rows.filter (fun row => ((fun entry => inRange range entry.date) ∘ entryOf) row &&
      taken (since earliest) row) = rows.filter (taken (inRange range)) :=
    List.filter_congr fun row _ => cut row
  rw [same]

theorem filter_invoiced_since (data : Data) (brandId : Option String) {range : DateRange}
    {earliest : Time} (le : earliest ≤ range.start) :
    (invoiced data brandId (since earliest)).filter (fun entry => inRange range entry.date) =
      invoiced data brandId (inRange range) := by
  apply filter_taken_since data.invoices invoiceEntry fun when invoice =>
    when invoice.issuedAt && invoice.status ≠ .cancelled && ofBrand brandId invoice.brandId
  intro invoice
  have both := inRange_and_since le invoice.issuedAt
  simp only [invoiceEntry, ← Bool.and_assoc, both]

theorem filter_collected_since (data : Data) (brandId : Option String) {range : DateRange}
    {earliest : Time} (le : earliest ≤ range.start) :
    (collected data brandId (since earliest)).filter (fun entry => inRange range entry.date) =
      collected data brandId (inRange range) := by
  apply filter_taken_since data.payments paymentEntry fun when payment =>
    payment.status = .settled && when payment.settledAt && ofBrand brandId payment.brandId
  intro payment
  have both := inRange_and_since le payment.settledAt
  rw [paymentEntry, Bool.and_assoc, Bool.and_left_comm,
    ← Bool.and_assoc (inRange range payment.settledAt), both, Bool.and_assoc]

/-! ## Sums of one currency -/

/-- The figure is the sum of these records, and all of them are in the currency. -/
structure SumsOver (currency : CurrencyCode) (entries : List Entry) (figure : Int) : Prop where
  single : ∀ entry ∈ entries, entry.currency = currency
  total : figure = Doubles.round (entries.map Entry.amountMinor).sum

def inCurrency (currency : CurrencyCode) (entries : List Entry) : List Entry :=
  entries.filter fun entry => entry.currency = currency

def ofOneBrand (brandId : String) (entries : List Entry) : List Entry :=
  entries.filter fun entry => entry.brandId = brandId

theorem inCurrency_eq_self {currency : CurrencyCode} {entries : List Entry}
    (single : ∀ entry ∈ entries, entry.currency = currency) :
    inCurrency currency entries = entries :=
  List.filter_eq_self.mpr fun entry member => decide_eq_true (single entry member)

theorem sumNumber_byCurrency (listing : Listing) (entries : List Entry)
    (currency : CurrencyCode) :
    sumNumber (byCurrency listing entries) currency =
      Doubles.round ((inCurrency currency entries).map Entry.amountMinor).sum := by
  rw [sumNumber, byCurrency, groupSum_groupSums fun entry _ => listing.complete _]
  rfl

theorem sumNumber_byBrand (entries : List Entry) (brandId : String) :
    sumNumber (byBrand entries) brandId =
      Doubles.round ((ofOneBrand brandId entries).map Entry.amountMinor).sum := by
  have complete : ∀ entry ∈ entries, entry.brandId ∈ (entries.map Entry.brandId).dedup := by
    intro entry member
    exact List.mem_dedup.mpr (List.mem_map_of_mem member)
  rw [sumNumber, byBrand, groupSum_groupSums complete]
  rfl

theorem byCurrency_eq_nil_iff (listing : Listing) (entries : List Entry) :
    byCurrency listing entries = [] ↔ entries = [] :=
  groupSums_eq_nil_iff fun entry _ => listing.complete entry.currency

theorem currency_of_mem_byCurrency {listing : Listing} {entries : List Entry}
    {currency : CurrencyCode} (single : ∀ entry ∈ entries, entry.currency = currency)
    {group : CurrencyCode × Int} (member : group ∈ byCurrency listing entries) :
    group.1 = currency := by
  obtain ⟨entry, here, same⟩ := mem_groupSums member
  exact same.symm.trans (single entry here)

theorem foldl_larger {currency : CurrencyCode} {groups : List (CurrencyCode × Int)}
    {best : CurrencyCode × Int} (start : best.1 = currency)
    (single : ∀ group ∈ groups, group.1 = currency) :
    (groups.foldl larger best).1 = currency := by
  induction groups generalizing best with
  | nil => exact start
  | cons group groups ih =>
      rw [List.foldl_cons]
      apply ih
      · have here := single group List.mem_cons_self
        simp only [larger]
        split_ifs
        · exact here
        · exact start
      · intro other member
        exact single other (List.mem_cons_of_mem _ member)

section Summary

variable (listings : Listings) (data : Data) (scope : Scope) (brandId : Option String)
  (thisMonth : Int) (range : Option DateRange)

/-- Each figure of the summary is the sum of what counts in the currency that is shown. -/
theorem getSummary_sums :
    let summary := getSummary listings data scope brandId thisMonth range
    let rows := data.withScope scope
    let within := inRange (rangeOr thisMonth range)
    SumsOver summary.currency (inCurrency summary.currency (invoiced rows brandId within))
        summary.invoicedMinor ∧
      SumsOver summary.currency (inCurrency summary.currency (collected rows brandId within))
        summary.collectedMinor ∧
      SumsOver summary.currency (inCurrency summary.currency (overdue rows brandId))
        summary.overdueMinor := by
  have single : ∀ (currency : CurrencyCode) (entries : List Entry),
      ∀ entry ∈ inCurrency currency entries, entry.currency = currency :=
    fun currency entries entry member => of_decide_eq_true (List.mem_filter.mp member).2
  simp only [getSummary]
  split
  next none_ =>
    obtain ⟨both, noOverdue⟩ := List.append_eq_nil_iff.mp none_
    obtain ⟨noInvoiced, noCollected⟩ := List.append_eq_nil_iff.mp both
    rw [byCurrency_eq_nil_iff] at noInvoiced noCollected noOverdue
    rw [noInvoiced, noCollected, noOverdue]
    have nothing : SumsOver .usd (inCurrency .usd []) 0 :=
      ⟨single _ _, by simp [inCurrency, Doubles.round_of_natAbs_le]⟩
    exact ⟨nothing, nothing, nothing⟩
  next first rest _ =>
    exact ⟨⟨single _ _, sumNumber_byCurrency _ _ _⟩, ⟨single _ _, sumNumber_byCurrency _ _ _⟩,
      ⟨single _ _, sumNumber_byCurrency _ _ _⟩⟩

/-- Where what counts in the range is of one currency, the summary shows that currency. -/
theorem getSummary_currency {currency : CurrencyCode}
    (single : ∀ entry ∈ invoiced (data.withScope scope) brandId
        (inRange (rangeOr thisMonth range)) ++
      collected (data.withScope scope) brandId (inRange (rangeOr thisMonth range)),
      entry.currency = currency)
    (some_ : invoiced (data.withScope scope) brandId (inRange (rangeOr thisMonth range)) ++
      collected (data.withScope scope) brandId (inRange (rangeOr thisMonth range)) ≠ []) :
    (getSummary listings data scope brandId thisMonth range).currency = currency := by
  have invoicedGroups : ∀ group ∈ byCurrency listings.invoiced (invoiced (data.withScope scope)
      brandId (inRange (rangeOr thisMonth range))), group.1 = currency :=
    fun group member => currency_of_mem_byCurrency
      (fun entry here => single entry (List.mem_append_left _ here)) member
  have collectedGroups : ∀ group ∈ byCurrency listings.collected (collected
      (data.withScope scope) brandId (inRange (rangeOr thisMonth range))), group.1 = currency :=
    fun group member => currency_of_mem_byCurrency
      (fun entry here => single entry (List.mem_append_right _ here)) member
  have groups_ne_nil : byCurrency listings.invoiced (invoiced (data.withScope scope) brandId
        (inRange (rangeOr thisMonth range))) ++
      byCurrency listings.collected (collected (data.withScope scope) brandId
        (inRange (rangeOr thisMonth range))) ≠ [] := by
    intro none_
    obtain ⟨noInvoiced, noCollected⟩ := List.append_eq_nil_iff.mp none_
    rw [byCurrency_eq_nil_iff] at noInvoiced noCollected
    rw [noInvoiced, noCollected] at some_
    exact some_ rfl
  simp only [getSummary]
  split
  next none_ => exact absurd (List.append_eq_nil_iff.mp none_).1 groups_ne_nil
  next first rest listed =>
    have starts : first.1 = currency := by
      obtain ⟨head, tail, both⟩ := List.exists_cons_of_ne_nil groups_ne_nil
      rw [both, List.cons_append] at listed
      have member := List.mem_append.mp (both ▸ List.mem_cons_self : head ∈ _)
      rw [← (List.cons.inj listed).1]
      obtain member | member := member
      · exact invoicedGroups head member
      · exact collectedGroups head member
    exact foldl_larger starts invoicedGroups

end Summary

/-! ## Where the figures agree -/

/-- Added one after another as doubles, the amounts come to their sum rounded once. -/
def AddsExactly (entries : List Entry) : Prop :=
  addEntries entries = Doubles.round (entries.map Entry.amountMinor).sum

theorem addsExactly_of_small {entries : List Entry}
    (small : (entries.map fun entry => entry.amountMinor.natAbs).sum ≤ 2 ^ 53) :
    AddsExactly entries := by
  have each : ∀ entry ∈ entries, entry.amountMinor.natAbs ≤ 2 ^ 53 := by
    intro entry member
    have part := List.single_le_sum (fun _ _ => Nat.zero_le _) _
      (List.mem_map_of_mem (f := fun entry : Entry => entry.amountMinor.natAbs) member)
    exact part.trans small
  have plain : entries.map (fun entry => Doubles.round entry.amountMinor) =
      entries.map Entry.amountMinor := by
    apply List.map_congr_left
    intro entry member
    exact Doubles.round_of_natAbs_le (each entry member)
  have sizes : ((entries.map Entry.amountMinor).map Int.natAbs).sum ≤ 2 ^ 53 := by
    rw [List.map_map]
    exact small
  have whole := List.le_sum_of_subadditive Int.natAbs rfl.le Int.natAbs_add_le
    (entries.map Entry.amountMinor)
  rw [AddsExactly, addEntries, plain, addAll_eq sizes]
  exact (Doubles.round_of_natAbs_le (whole.trans sizes)).symm

section Agreement

variable (listings : Nat → Listings) (data : Data) (scope : Scope) (brandId : Option String)
  (thisMonth : Int) (range : Option DateRange)

def monthRange (monthsAgo : Nat) : DateRange := (monthBounds thisMonth monthsAgo).toDateRange

/-- A point of the trend is in one currency, and says what the summary says of its month. -/
structure PointAgrees (monthsAgo : Nat) (point : DashboardTrendPoint) : Prop where
  sums : ∃ currency,
    SumsOver currency (invoiced (data.withScope scope) brandId
      (inRange (monthRange thisMonth monthsAgo))) point.invoicedMinor ∧
    SumsOver currency (collected (data.withScope scope) brandId
      (inRange (monthRange thisMonth monthsAgo))) point.collectedMinor
  invoiced : point.invoicedMinor = (getSummary (listings monthsAgo) data scope brandId thisMonth
    (some (monthRange thisMonth monthsAgo))).invoicedMinor
  collected : point.collectedMinor = (getSummary (listings monthsAgo) data scope brandId thisMonth
    (some (monthRange thisMonth monthsAgo))).collectedMinor

structure RollupSums (rollup : BrandRollup) : Prop where
  invoiced : SumsOver rollup.currency (ofOneBrand rollup.brandId (invoiced
    (data.withScope scope) none (inRange (rangeOr thisMonth range)))) rollup.invoicedMinor
  collected : SumsOver rollup.currency (ofOneBrand rollup.brandId (collected
    (data.withScope scope) none (inRange (rangeOr thisMonth range)))) rollup.collectedMinor
  overdue : SumsOver rollup.currency (ofOneBrand rollup.brandId (overdue
    (data.withScope scope) none)) rollup.overdueMinor

/-- No figure mixes currencies, and the trend and the summary say the same of every month. -/
structure FiguresAgree : Prop where
  summary : ∀ order,
    let summary := getSummary order data scope brandId thisMonth range
    let rows := data.withScope scope
    let within := inRange (rangeOr thisMonth range)
    SumsOver summary.currency (inCurrency summary.currency (Dashboard.invoiced rows brandId within))
        summary.invoicedMinor ∧
      SumsOver summary.currency
        (inCurrency summary.currency (Dashboard.collected rows brandId within))
        summary.collectedMinor ∧
      SumsOver summary.currency (inCurrency summary.currency (Dashboard.overdue rows brandId))
        summary.overdueMinor
  trend : List.Forall₂ (PointAgrees listings data scope brandId thisMonth) lastSixMonths
    (getTrend data scope brandId thisMonth)
  byBrand : ∀ rollup ∈ getByBrand data scope thisMonth range,
    RollupSums data scope thisMonth range rollup

/-- What counts in a month is of one currency, and can be added up in doubles. -/
structure MonthIsPlain (monthsAgo : Nat) : Prop where
  single : ∃ currency, ∀ entry ∈ invoiced (data.withScope scope) brandId
      (inRange (monthRange thisMonth monthsAgo)) ++
    collected (data.withScope scope) brandId (inRange (monthRange thisMonth monthsAgo)),
    entry.currency = currency
  invoiced : AddsExactly
    (invoiced (data.withScope scope) brandId (inRange (monthRange thisMonth monthsAgo)))
  collected : AddsExactly
    (collected (data.withScope scope) brandId (inRange (monthRange thisMonth monthsAgo)))

def BrandIsPlain (brand : BrandRow) : Prop :=
  ∀ entry ∈ invoiced (data.withScope scope) none (inRange (rangeOr thisMonth range)) ++
      collected (data.withScope scope) none (inRange (rangeOr thisMonth range)) ++
      overdue (data.withScope scope) none,
    entry.brandId = brand.id → entry.currency = brand.currency

theorem getSummary_of_single (order : Listings) {currency : CurrencyCode}
    (single : ∀ entry ∈ invoiced (data.withScope scope) brandId
        (inRange (rangeOr thisMonth range)) ++
      collected (data.withScope scope) brandId (inRange (rangeOr thisMonth range)),
      entry.currency = currency) :
    let summary := getSummary order data scope brandId thisMonth range
    summary.invoicedMinor = Doubles.round ((invoiced (data.withScope scope) brandId
        (inRange (rangeOr thisMonth range))).map Entry.amountMinor).sum ∧
      summary.collectedMinor = Doubles.round ((collected (data.withScope scope) brandId
        (inRange (rangeOr thisMonth range))).map Entry.amountMinor).sum := by
  obtain ⟨invoicedSums, collectedSums, _⟩ :=
    getSummary_sums order data scope brandId thisMonth range
  intro summary
  by_cases none_ : invoiced (data.withScope scope) brandId (inRange (rangeOr thisMonth range)) ++
      collected (data.withScope scope) brandId (inRange (rangeOr thisMonth range)) = []
  · obtain ⟨noInvoiced, noCollected⟩ := List.append_eq_nil_iff.mp none_
    have invoicedTotal := invoicedSums.total
    have collectedTotal := collectedSums.total
    rw [noInvoiced] at invoicedTotal ⊢
    rw [noCollected] at collectedTotal ⊢
    exact ⟨invoicedTotal, collectedTotal⟩
  · have shown := getSummary_currency order data scope brandId thisMonth range single none_
    have invoicedTotal := invoicedSums.total
    have collectedTotal := collectedSums.total
    rw [shown, inCurrency_eq_self fun entry member =>
      single entry (List.mem_append_left _ member)] at invoicedTotal
    rw [shown, inCurrency_eq_self fun entry member =>
      single entry (List.mem_append_right _ member)] at collectedTotal
    exact ⟨invoicedTotal, collectedTotal⟩

theorem trendPoint_figures {monthsAgo : Nat} (listed : monthsAgo ∈ lastSixMonths) :
    let point := trendPoint
      (invoiced (data.withScope scope) brandId (since (monthBounds thisMonth 5).start))
      (collected (data.withScope scope) brandId (since (monthBounds thisMonth 5).start))
      (monthBounds thisMonth monthsAgo)
    point.invoicedMinor = addEntries (invoiced (data.withScope scope) brandId
        (inRange (monthRange thisMonth monthsAgo))) ∧
      point.collectedMinor = addEntries (collected (data.withScope scope) brandId
        (inRange (monthRange thisMonth monthsAgo))) := by
  have le := earliest_le thisMonth listed
  intro point
  constructor
  · exact congrArg addEntries (filter_invoiced_since (data.withScope scope) brandId le)
  · exact congrArg addEntries (filter_collected_since (data.withScope scope) brandId le)

theorem pointAgrees_iff {monthsAgo : Nat} (listed : monthsAgo ∈ lastSixMonths) :
    PointAgrees listings data scope brandId thisMonth monthsAgo (trendPoint
        (invoiced (data.withScope scope) brandId (since (monthBounds thisMonth 5).start))
        (collected (data.withScope scope) brandId (since (monthBounds thisMonth 5).start))
        (monthBounds thisMonth monthsAgo)) ↔
      MonthIsPlain data scope brandId thisMonth monthsAgo := by
  obtain ⟨invoicedFigure, collectedFigure⟩ :=
    trendPoint_figures data scope brandId thisMonth listed
  constructor
  · intro agrees
    obtain ⟨currency, invoicedSums, collectedSums⟩ := agrees.sums
    have single := List.forall_mem_append.mpr ⟨invoicedSums.single, collectedSums.single⟩
    exact ⟨⟨currency, single⟩, invoicedFigure.symm.trans invoicedSums.total,
      collectedFigure.symm.trans collectedSums.total⟩
  · intro plain
    obtain ⟨currency, single⟩ := plain.single
    obtain ⟨invoicedSingle, collectedSingle⟩ := List.forall_mem_append.mp single
    have invoicedTotal := invoicedFigure.trans plain.invoiced
    have collectedTotal := collectedFigure.trans plain.collected
    obtain ⟨invoicedShown, collectedShown⟩ := getSummary_of_single data scope brandId thisMonth
      (some (monthRange thisMonth monthsAgo)) (listings monthsAgo) single
    exact {
      sums := ⟨currency, ⟨invoicedSingle, invoicedTotal⟩, ⟨collectedSingle, collectedTotal⟩⟩
      invoiced := invoicedTotal.trans invoicedShown.symm
      collected := collectedTotal.trans collectedShown.symm }

theorem rollupSums_iff (brand : BrandRow) :
    RollupSums data scope thisMonth range (rollupOf
        (byBrand (invoiced (data.withScope scope) none (inRange (rangeOr thisMonth range))))
        (byBrand (collected (data.withScope scope) none (inRange (rangeOr thisMonth range))))
        (byBrand (overdue (data.withScope scope) none)) brand) ↔
      BrandIsPlain data scope thisMonth range brand := by
  have single : ∀ entries : List Entry,
      (∀ entry ∈ ofOneBrand brand.id entries, entry.currency = brand.currency) ↔
        ∀ entry ∈ entries, entry.brandId = brand.id → entry.currency = brand.currency := by
    intro entries
    simp only [ofOneBrand, List.mem_filter, decide_eq_true_eq, and_imp]
  have sums : ∀ entries : List Entry,
      SumsOver brand.currency (ofOneBrand brand.id entries)
          (sumNumber (byBrand entries) brand.id) ↔
        ∀ entry ∈ entries, entry.brandId = brand.id → entry.currency = brand.currency := by
    intro entries
    rw [← single]
    exact ⟨SumsOver.single, fun all => ⟨all, sumNumber_byBrand entries brand.id⟩⟩
  rw [BrandIsPlain, List.forall_mem_append, List.forall_mem_append, ← sums, ← sums, ← sums]
  constructor
  · intro rollup
    exact ⟨⟨rollup.invoiced, rollup.collected⟩, rollup.overdue⟩
  · intro ⟨⟨invoiced, collected⟩, overdue⟩
    exact ⟨invoiced, collected, overdue⟩

end Agreement

/-- The figures agree and never mix currencies exactly if what counts in each of the six months
is of one currency and adds up in doubles, and what counts for each brand is in its currency. -/
theorem figures_agree_iff (listings : Nat → Listings) (data : Data) (scope : Scope)
    (brandId : Option String) (thisMonth : Int) (range : Option DateRange) :
    FiguresAgree listings data scope brandId thisMonth range ↔
      (∀ monthsAgo ∈ lastSixMonths, MonthIsPlain data scope brandId thisMonth monthsAgo) ∧
        ∀ brand ∈ (data.withScope scope).brands,
          BrandIsPlain data scope thisMonth range brand := by
  have months : List.Forall₂ (PointAgrees listings data scope brandId thisMonth) lastSixMonths
      (getTrend data scope brandId thisMonth) ↔
        ∀ monthsAgo ∈ lastSixMonths, MonthIsPlain data scope brandId thisMonth monthsAgo := by
    rw [getTrend, List.forall₂_map_right_iff, List.forall₂_same]
    exact forall₂_congr fun monthsAgo listed =>
      pointAgrees_iff listings data scope brandId thisMonth listed
  have brands : (∀ rollup ∈ getByBrand data scope thisMonth range,
      RollupSums data scope thisMonth range rollup) ↔
        ∀ brand ∈ (data.withScope scope).brands,
          BrandIsPlain data scope thisMonth range brand := by
    rw [getByBrand, List.forall_mem_map]
    simp only [List.mem_insertionSort]
    exact forall₂_congr fun brand _ => rollupSums_iff data scope thisMonth range brand
  rw [← months, ← brands]
  constructor
  · intro agree
    exact ⟨agree.trend, agree.byBrand⟩
  · intro ⟨trend, byBrand⟩
    exact ⟨fun order => getSummary_sums order data scope brandId thisMonth range, trend, byBrand⟩

def supportedListing : Listing where
  currencies := supportedCurrencies
  complete := by
    intro currency
    cases currency <;> decide

def sampleListings : Listings := ⟨supportedListing, supportedListing, supportedListing⟩

def sampleInvoiceIn (currency : CurrencyCode) (totalMinor : Int) : InvoiceRow where
  brandId := "brand"
  currency
  status := .sent
  issuedAt := some (monthStart 24312)
  totalMinor
  balanceMinor := totalMinor
  overdue := false

def sampleData : Data where
  brands := [⟨"brand", "Brand", "#2D6A6A", .usd, 0⟩]
  invoices := [sampleInvoiceIn .usd 10000, sampleInvoiceIn .cad 5000]
  payments := []

example : monthStart 24312 = 1767225600000 := by decide

/-- In January 2026 the summary shows 100 US dollars; the trend and the brand show 150. -/
theorem currencies_mixed :
    (getSummary sampleListings sampleData (fun _ => true) none 24312 none).invoicedMinor =
        10000 ∧
      (getTrend sampleData (fun _ => true) none 24312).map DashboardTrendPoint.invoicedMinor =
        [0, 0, 0, 0, 0, 15000] ∧
      (getByBrand sampleData (fun _ => true) 24312 none).map
          (fun rollup => (rollup.currency, rollup.invoicedMinor)) = [(.usd, 15000)] ∧
      ¬FiguresAgree (fun _ => sampleListings) sampleData (fun _ => true) none 24312 none := by
  have trend : (getTrend sampleData (fun _ => true) none 24312).map
      DashboardTrendPoint.invoicedMinor = [0, 0, 0, 0, 0, 15000] := by decide +kernel
  have summary : (getSummary sampleListings sampleData (fun _ => true) none 24312
      none).invoicedMinor = 10000 := by decide +kernel
  have rollups : (getByBrand sampleData (fun _ => true) 24312 none).map
      (fun rollup => (rollup.currency, rollup.invoicedMinor)) = [(.usd, 15000)] := by
    decide +kernel
  refine ⟨summary, trend, rollups, ?_⟩
  intro agree
  have points := agree.trend
  rw [getTrend, List.forall₂_map_right_iff, List.forall₂_same] at points
  have plain := (pointAgrees_iff _ _ _ _ _ (by decide)).mp (points 0 (by decide))
  obtain ⟨currency, single⟩ := plain.single
  have usd := single ⟨"brand", .usd, some (monthStart 24312), 10000⟩ (by decide +kernel)
  have cad := single ⟨"brand", .cad, some (monthStart 24312), 5000⟩ (by decide +kernel)
  exact absurd (usd.trans cad.symm) (by decide)

end Dashboard

end MultiBrandInvoicing
