import Mathlib.Algebra.BigOperators.Ring.List
import MultiBrandInvoicing.Arithmetic.RelativeError
import MultiBrandInvoicing.Integrations.PullEffects
import MultiBrandInvoicing.Integrations.ZohoLineItems
import MultiBrandInvoicing.Lifecycle.Pricing

/-!
# Pulling back what was pushed

Zoho returns the lines it was sent, and the detail of the invoice is applied to the row they
came from.  Tax and fee lines are recognised and taken out again; what a taxed line was is not
seen from its copy in Zoho, each sum is rounded by another rule than when it was stored, and the
products are doubles.
-/

set_option autoImplicit false

namespace MultiBrandInvoicing

open ReadCommitted Program ZohoPullService ZohoBooksAdapter

namespace RoundTrip

def subTotal (lineItems : List (ZohoInvoiceLineItem ℚ)) : ℚ :=
  (lineItems.map fun line => Json.decimal line.rate * Json.decimal line.quantity).sum

/-- The detail of an invoice with these lines and no tax of Zoho's own, as it is read.  A number
that was written is read as itself again. -/
def echoedDetail (notes : Option String) (lineItems : List (ZohoInvoiceLineItem ℚ)) :
    ZohoInvoiceDetail ℚ where
  subTotal := Doubles.nearest (subTotal lineItems)
  taxTotal := 0
  lineItems := lineItems
  notes := notes

def isReserved (line : LineItem) : Bool :=
  (line.itemName = pushedTaxLineName &&
      line.description.any (·.startsWith pushedTaxLineDescriptionPrefix)) ||
    (line.itemName = pushedCardFeeLineName &&
      line.description = some pushedCardFeeLineDescription)

def linked (store : Store) (result : RemoteRef) : Store :=
  { store with invoice := { store.invoice with
      zohoInvoiceId := some result.remoteId, zohoSyncedVersion := result.updatedAt } }

def billing (line : LineItem) : Int × Int × Int × Bool :=
  (line.quantity, line.unitPriceMinor, line.lineTotalMinor, line.taxExempt)

structure Restores (store next : Store) : Prop where
  subtotal : next.invoice.subtotalMinor = store.invoice.subtotalMinor
  tax : next.invoice.taxMinor = store.invoice.taxMinor
  rate : next.invoice.taxRateBpApplied = store.invoice.taxRateBpApplied
  lines : next.lineItems.map billing = store.lineItems.map billing

/-- The number is rounded to the integer; an exact half goes up. -/
def RoundsTo (value : ℚ) (minor : Int) : Prop := minor - 1 / 2 ≤ value ∧ value < minor + 1 / 2

instance (value : ℚ) (minor : Int) : Decidable (RoundsTo value minor) :=
  inferInstanceAs (Decidable (minor - 1 / 2 ≤ value ∧ value < minor + 1 / 2))

theorem round_eq_iff_roundsTo {value : ℚ} {minor : Int} :
    round value = minor ↔ RoundsTo value minor := round_eq_iff

def scaled (value : ℚ) (places : Nat) : ℚ := Doubles.nearest (value * 10 ^ places)

/-- No tax, every line exempt unless Zoho has the rate, and in doubles every price, every quantity,
every line and the sum of the lines are rounded to what they were. -/
structure Plain (currency : CurrencyCode) (remoteTaxId : Option String) (store : Store) :
    Prop where
  untaxed : store.invoice.taxRateBpApplied = 0
  exempt : ∀ line ∈ store.lineItems, line.taxExempt = true ∨ isPresent remoteTaxId = true
  prices : ∀ line ∈ store.lineItems,
    RoundsTo (scaled (sentLine currency remoteTaxId line).rate (minorUnitExponent currency))
      line.unitPriceMinor
  quantities : ∀ line ∈ store.lineItems,
    RoundsTo (scaled (sentLine currency remoteTaxId line).quantity quantityDecimals) line.quantity
  lines : ∀ line ∈ store.lineItems,
    RoundsTo (scaled (Doubles.nearest ((sentLine currency remoteTaxId line).rate *
      (sentLine currency remoteTaxId line).quantity)) (minorUnitExponent currency)) line.priced
  sum : RoundsTo
    (scaled (Doubles.nearest (subTotal (store.lineItems.map (sentLine currency remoteTaxId))))
      (minorUnitExponent currency)) (store.lineItems.map LineItem.priced).sum

/-- Half of 16.15 is stored as 8.08 and pulled as 8.07. -/
example : round (scaled (Doubles.nearest (minorToDecimal 1615 .usd * (1 / 2))) 2) = 807 := by
  decide +kernel

/-! ## Which lines are taken out -/

theorem taxLine_synthetic (invoice : AccountingInvoice) (currency : CurrencyCode) :
    syntheticPushedLineKind (taxLine invoice currency) = some .tax := by
  have prefixed : (pushedTaxLineDescriptionPrefix ++
      s!" ({percentText invoice.taxRateBpApplied}%)").startsWith
        pushedTaxLineDescriptionPrefix = true := by
    rw [String.startsWith_string_iff, String.toList_append]
    exact List.prefix_append _ _
  simp [syntheticPushedLineKind, taxLine, hasTaxId, prefixed]

theorem sentLine_own {line : LineItem} (free : isReserved line = false) (currency : CurrencyCode)
    (remoteTaxId : Option String) :
    syntheticPushedLineKind (sentLine currency remoteTaxId line) = none := by
  simp only [isReserved, Bool.or_eq_false_iff] at free
  obtain ⟨notTax, notFee⟩ := free
  unfold syntheticPushedLineKind
  split
  · rfl
  · simp only [sentLine, Option.some.injEq, notTax, Bool.false_eq_true, if_false]
    exact if_neg fun both => by
      have named : line.itemName = pushedCardFeeLineName := by
        simpa using (Bool.and_eq_true_iff.mp both).1
      have described := of_decide_eq_true (Bool.and_eq_true_iff.mp both).2
      simp [named, described] at notFee

theorem hasNoTax_of_exempt {lines : List LineItem}
    (exempt : ∀ line ∈ lines, line.taxExempt = true) :
    taxableMinor lines = 0 := by
  have none_ : lines.filter (fun line => !line.taxExempt) = [] := by
    rw [List.filter_eq_nil_iff]
    intro line member
    simp [exempt line member]
  simp [taxableMinor, none_]

theorem extraLines_free (remoteTaxId : Option String) (invoice : AccountingInvoice)
    (currency : CurrencyCode) (free : invoice.cardFeeMinor = 0) :
    extraLines remoteTaxId invoice currency = [taxLine invoice currency] ∨
      extraLines remoteTaxId invoice currency = [] := by
  unfold extraLines
  simp only [free, lt_irrefl, if_false, List.append_nil]
  split
  · exact .inl rfl
  · exact .inr rfl

section Echo

variable {store : Store} (remoteTaxId : Option String) (contact : String)
  (parseDate : String → Option Time) (notes : Option String) (currency : CurrencyCode)

def sentLines (store : Store) (remoteTaxId : Option String) (contact : String)
    (currency : CurrencyCode) : List (ZohoInvoiceLineItem ℚ) :=
  store.lineItems.map (sentLine currency remoteTaxId) ++
    extraLines remoteTaxId (ZohoSyncService.toAccountingInvoice store contact) currency

theorem own_kind (free : ∀ line ∈ store.lineItems, isReserved line = false) :
    ∀ line ∈ store.lineItems.map (sentLine currency remoteTaxId),
      syntheticPushedLineKind line = none := by
  intro line member
  obtain ⟨stored, known, rfl⟩ := List.mem_map.mp member
  exact sentLine_own (free stored known) currency remoteTaxId

theorem realLines_echo (free : ∀ line ∈ store.lineItems, isReserved line = false)
    (noFee : store.invoice.cardFeeMinor = 0) :
    realLines (echoedDetail notes (sentLines store remoteTaxId contact currency)) =
      store.lineItems.map (sentLine currency remoteTaxId) := by
  have own := own_kind remoteTaxId currency free
  have kept : (store.lineItems.map (sentLine currency remoteTaxId)).filter
      (fun line => (syntheticPushedLineKind line).isNone) =
        store.lineItems.map (sentLine currency remoteTaxId) := by
    rw [List.filter_eq_self]
    intro line member
    rw [own line member]
    rfl
  have noFee : (ZohoSyncService.toAccountingInvoice store contact).cardFeeMinor = 0 :=
    congrArg toNumber noFee
  simp only [realLines, echoedDetail, sentLines, List.filter_append, kept]
  rcases extraLines_free remoteTaxId (ZohoSyncService.toAccountingInvoice store contact) currency
    noFee with extra | extra
  · simp [extra, taxLine_synthetic]
  · simp [extra]

theorem extraLines_exempt (priced : store.amounts.Priced)
    (exempt : ∀ line ∈ store.lineItems, line.taxExempt = true ∨ isPresent remoteTaxId = true) :
    extraLines remoteTaxId (ZohoSyncService.toAccountingInvoice store contact) currency = [] := by
  have noFee : (ZohoSyncService.toAccountingInvoice store contact).cardFeeMinor = 0 :=
    congrArg toNumber priced.fee
  unfold extraLines
  simp only [noFee, lt_irrefl, if_false, List.append_nil]
  split
  case isFalse => rfl
  case isTrue sends =>
    obtain ⟨taxed, unsynced⟩ := Bool.and_eq_true_iff.mp sends
    have allExempt : ∀ line ∈ store.lineItems, line.taxExempt = true := by
      intro line member
      have absent : isPresent remoteTaxId = false := by
        have sent : ZohoSyncService.toAccountingLine line ∈
            (ZohoSyncService.toAccountingInvoice store contact).lines :=
          List.mem_map_of_mem member
        simpa using List.all_eq_true.mp unsynced _ sent
      exact (exempt line member).resolve_right (by simp [absent])
    have none_ : store.invoice.taxMinor = 0 := by
      have tax := priced.tax
      rw [show store.amounts.lineItems = store.lineItems from rfl, hasNoTax_of_exempt allExempt,
        Int.zero_mul] at tax
      exact tax
    simp [ZohoSyncService.toAccountingInvoice, none_] at taxed

/-- Without a tax line the amounts are the sum of the lines and nothing. -/
theorem detailAmounts_echo (free : ∀ line ∈ store.lineItems, isReserved line = false) :
    detailAmounts (doubleNumbers parseDate)
        (echoedDetail notes (store.lineItems.map (sentLine currency remoteTaxId))) currency =
      (round (scaled
        (Doubles.nearest (subTotal (store.lineItems.map (sentLine currency remoteTaxId))))
        (minorUnitExponent currency)), 0) := by
  have own := own_kind remoteTaxId currency free
  have none_ (kind : SyntheticLineKind) : syntheticMinor (doubleNumbers parseDate) kind currency
      (store.lineItems.map (sentLine currency remoteTaxId)) = 0 := by
    have dropped : (store.lineItems.map (sentLine currency remoteTaxId)).filter
        (fun line => syntheticPushedLineKind line = some kind) = [] := by
      rw [List.filter_eq_nil_iff]
      intro line member
      simp [own line member]
    rw [syntheticMinor, dropped]
    rfl
  have whole := isDouble_round_nearest
    (Doubles.nearest (subTotal (store.lineItems.map (sentLine currency remoteTaxId))) *
      10 ^ minorUnitExponent currency)
  have noTax : decimalToMinor (doubleNumbers parseDate) (0 : ℚ) currency = 0 := by
    simp [decimalToMinor, doubleNumbers, Doubles.nearest_zero]
  simp only [detailAmounts, echoedDetail, none_, noTax, Prod.mk.injEq]
  refine ⟨?_, rfl⟩
  simp only [subtractNumbers, sub_zero, decimalToMinor, doubleNumbers, scaled]
  unfold IsDouble toNumber at whole
  rw [whole, whole]

/-- What a line is billed as after its copy in Zoho has been applied. -/
def echoedBilling (line : LineItem) : Int × Int × Int × Bool :=
  (round (scaled (sentLine currency remoteTaxId line).quantity quantityDecimals),
    round (scaled (sentLine currency remoteTaxId line).rate (minorUnitExponent currency)),
    round (scaled (Doubles.nearest ((sentLine currency remoteTaxId line).rate *
      (sentLine currency remoteTaxId line).quantity)) (minorUnitExponent currency)),
    line.taxExempt || !isPresent remoteTaxId)

theorem toLocalLineItems_echo :
    (toLocalLineItems (doubleNumbers parseDate) currency
        (store.lineItems.map (sentLine currency remoteTaxId))).map billing =
      store.lineItems.map (echoedBilling remoteTaxId currency) := by
  have flag (line : LineItem) : (!hasTaxId (sentLine currency remoteTaxId line)) =
      (line.taxExempt || !isPresent remoteTaxId) := by
    cases exempt : line.taxExempt <;> simp [sentLine, exempt, hasTaxId, isPresent]
  have placed : ∀ (lines : List LineItem) (start : Nat),
      (((lines.map (sentLine currency remoteTaxId)).zipIdx start).map fun entry =>
          toLocalLineItem (doubleNumbers parseDate) currency entry.1 entry.2).map billing =
        lines.map (echoedBilling remoteTaxId currency) := by
    intro lines
    induction lines with
    | nil => exact fun _ => rfl
    | cons line rest ih =>
        intro start
        simp only [List.map_cons, List.zipIdx_cons, ih, echoedBilling, ← flag]
        rfl
  exact placed store.lineItems 0

theorem flag_kept_iff (line : LineItem) :
    (line.taxExempt || !isPresent remoteTaxId) = line.taxExempt ↔
      line.taxExempt = true ∨ isPresent remoteTaxId = true := by
  cases line.taxExempt <;> simp

theorem echoedBilling_eq_iff {line : LineItem} (worth : line.lineTotalMinor = line.priced) :
    echoedBilling remoteTaxId currency line = billing line ↔
      RoundsTo (scaled (sentLine currency remoteTaxId line).quantity quantityDecimals)
        line.quantity ∧
      RoundsTo (scaled (sentLine currency remoteTaxId line).rate (minorUnitExponent currency))
        line.unitPriceMinor ∧
      RoundsTo (scaled (Doubles.nearest ((sentLine currency remoteTaxId line).rate *
        (sentLine currency remoteTaxId line).quantity)) (minorUnitExponent currency))
        line.priced ∧
      (line.taxExempt = true ∨ isPresent remoteTaxId = true) := by
  simp only [echoedBilling, billing, Prod.mk.injEq, worth, round_eq_iff_roundsTo, flag_kept_iff]

theorem subtotal_priced (priced : store.amounts.Priced) :
    store.invoice.subtotalMinor = (store.lineItems.map LineItem.priced).sum :=
  priced.subtotal.trans
    (congrArg List.sum (List.map_congr_left fun line member => priced.lines line member))

theorem tax_untaxed (priced : store.amounts.Priced)
    (untaxed : store.invoice.taxRateBpApplied = 0) : store.invoice.taxMinor = 0 := by
  refine priced.tax.trans ?_
  rw [show store.amounts.taxRateBpApplied = store.invoice.taxRateBpApplied from rfl, untaxed,
    Int.mul_zero]
  rfl

/-- Applying the echo of a native invoice restores it exactly if the invoice is plain. -/
theorem echo_restores_iff (priced : store.amounts.Priced)
    (free : ∀ line ∈ store.lineItems, isReserved line = false) (result : RemoteRef) :
    Restores store (withDetail (doubleNumbers parseDate)
        (echoedDetail notes (sentLines store remoteTaxId contact currency)) currency
        (linked store result)) ↔ Plain currency remoteTaxId store := by
  have real := realLines_echo remoteTaxId contact notes currency free priced.fee
  have lines := @toLocalLineItems_echo store remoteTaxId parseDate currency
  have billed : (withDetail (doubleNumbers parseDate)
      (echoedDetail notes (sentLines store remoteTaxId contact currency)) currency
      (linked store result)).lineItems.map billing = store.lineItems.map billing ↔
        ∀ line ∈ store.lineItems, echoedBilling remoteTaxId currency line = billing line := by
    simp only [withDetail, real]
    rw [lines, List.map_inj_left]
  have each := fun (line : LineItem) (member : line ∈ store.lineItems) =>
    echoedBilling_eq_iff remoteTaxId currency (priced.lines line member)
  -- Where the flags come back no tax line goes out, so that the amounts are those of the lines.
  have amounts (exempt : ∀ line ∈ store.lineItems,
      line.taxExempt = true ∨ isPresent remoteTaxId = true) :
      detailAmounts (doubleNumbers parseDate)
        (echoedDetail notes (sentLines store remoteTaxId contact currency)) currency =
        (round (scaled
          (Doubles.nearest (subTotal (store.lineItems.map (sentLine currency remoteTaxId))))
          (minorUnitExponent currency)), 0) := by
    rw [sentLines, extraLines_exempt remoteTaxId contact currency priced exempt, List.append_nil]
    exact detailAmounts_echo remoteTaxId parseDate notes currency free
  constructor
  · rintro ⟨subtotal, tax, rate, same⟩
    have kept := fun line member => (each line member).mp (billed.mp same line member)
    have exempt := fun line member => (kept line member).2.2.2
    simp only [withDetail, amounts exempt] at subtotal rate
    refine ⟨?_, exempt, fun line member => (kept line member).2.1,
      fun line member => (kept line member).1, fun line member => (kept line member).2.2.1, ?_⟩
    · rw [← rate]
      split <;> simp [doubleNumbers, Doubles.nearest_zero]
    · rw [← round_eq_iff_roundsTo, ← subtotal_priced priced]
      exact subtotal
  · rintro ⟨untaxed, exempt, prices, quantities, worths, sum⟩
    refine ⟨?_, ?_, ?_, billed.mpr fun line member => (each line member).mpr
      ⟨quantities line member, prices line member, worths line member, exempt line member⟩⟩
    · simp only [withDetail, amounts exempt]
      exact (round_eq_iff_roundsTo.mpr sum).trans (subtotal_priced priced).symm
    · simp only [withDetail, amounts exempt, tax_untaxed priced untaxed]
    · simp only [withDetail, amounts exempt, untaxed]
      split <;> simp [doubleNumbers, Doubles.nearest_zero]

end Echo

/-! ## Away from halves -/

def worth (line : LineItem) : ℚ := (line.quantity * line.unitPriceMinor : Int) / 10 ^ quantityDecimals

/-- Prices and quantities are sent as they are, and the worth of a line, or of all lines, is nearer
to what it is stored as than a half by more than doubles are off. -/
structure IsClear (store : Store) : Prop where
  prices : ∀ line ∈ store.lineItems, line.unitPriceMinor.natAbs ≤ 2 ^ 50
  quantities : ∀ line ∈ store.lineItems, line.quantity.natAbs ≤ 2 ^ 50
  lines : ∀ line ∈ store.lineItems, |worth line - line.priced| + 1 / 2 ^ 50 * |worth line| < 1 / 2
  sum : |(store.lineItems.map worth).sum - (store.lineItems.map LineItem.priced).sum| +
    1 / 2 ^ 50 * |(store.lineItems.map worth).sum| < 1 / 2

theorem roundsTo_of_near {value : ℚ} {minor : Int} (near : |value - minor| < 1 / 2) :
    RoundsTo value minor :=
  round_eq_iff_roundsTo.mp (HalfAway.round_of_near near)

theorem within_scaled {share value exact_ : ℚ} (places : Nat)
    (within : Doubles.Within share value exact_) :
    Doubles.Within (share + 1 / 2 ^ 53 + share * (1 / 2 ^ 53)) (scaled value places)
      (exact_ * 10 ^ places) := by
  have up := (within.mul (.refl (10 ^ places))).nearest
  exact up.mono (by ring_nf; rfl)

section Clear

variable {line : LineItem} (currency : CurrencyCode) (remoteTaxId : Option String)
  (price : line.unitPriceMinor.natAbs ≤ 2 ^ 50) (quantity : line.quantity.natAbs ≤ 2 ^ 50)

include price in
theorem rate_eq : (sentLine currency remoteTaxId line).rate =
    Doubles.nearest (line.unitPriceMinor / 10 ^ minorUnitExponent currency) := by
  have whole : toNumber line.unitPriceMinor = line.unitPriceMinor :=
    Doubles.round_of_natAbs_le (by omega)
  rw [sentLine, whole, minorToDecimal_eq price]

theorem worth_eq : (line.unitPriceMinor : ℚ) / 10 ^ minorUnitExponent currency *
    (line.quantity / 10 ^ quantityDecimals) * 10 ^ minorUnitExponent currency = worth line := by
  have scale : (10 : ℚ) ^ minorUnitExponent currency ≠ 0 := by positivity
  unfold worth
  push_cast
  field_simp

include price in
theorem within_product : Doubles.Within (1 / 2 ^ 50)
    (scaled (Doubles.nearest ((sentLine currency remoteTaxId line).rate *
      (sentLine currency remoteTaxId line).quantity)) (minorUnitExponent currency))
    (worth line) := by
  have rate := (Doubles.Within.refl
    ((line.unitPriceMinor : ℚ) / 10 ^ minorUnitExponent currency)).nearest
  have count := (Doubles.Within.refl ((line.quantity : ℚ) / 10 ^ quantityDecimals)).nearest
  have product := within_scaled (minorUnitExponent currency) (rate.mul count).nearest
  rw [worth_eq, ← rate_eq currency remoteTaxId price] at product
  exact product.mono (by norm_num)

include price quantity in
theorem decimals_eq : Json.decimal (sentLine currency remoteTaxId line).rate *
    Json.decimal (sentLine currency remoteTaxId line).quantity =
      worth line / 10 ^ minorUnitExponent currency := by
  have scale : (10 : ℚ) ^ minorUnitExponent currency ≠ 0 := by positivity
  rw [rate_eq currency remoteTaxId price, Json.decimal_nearest (minorUnitExponent_le currency) price,
    eq_div_iff scale, ← worth_eq currency]
  congr 2
  exact Json.decimal_nearest (by decide) quantity

end Clear

/-- Away from halves only the tax is not restored. -/
theorem IsClear.plain_iff {store : Store} (clear : IsClear store) (currency : CurrencyCode)
    (remoteTaxId : Option String) : Plain currency remoteTaxId store ↔
      store.invoice.taxRateBpApplied = 0 ∧
        ∀ line ∈ store.lineItems, line.taxExempt = true ∨ isPresent remoteTaxId = true := by
  refine ⟨fun plain => ⟨plain.untaxed, plain.exempt⟩, fun ⟨untaxed, exempt⟩ =>
    ⟨untaxed, exempt, fun line member => ?_, fun line member => ?_, fun line member => ?_, ?_⟩⟩
  · rw [rate_eq currency remoteTaxId (clear.prices line member)]
    exact roundsTo_of_near (Doubles.abs_nearest_scaled_sub_lt (clear.prices line member) _)
  · exact roundsTo_of_near (Doubles.abs_nearest_scaled_sub_lt (clear.quantities line member) _)
  · exact roundsTo_of_near
      ((within_product currency remoteTaxId (clear.prices line member)).near (clear.lines line member))
  · have scale : (10 : ℚ) ^ minorUnitExponent currency ≠ 0 := by positivity
    have total : subTotal (store.lineItems.map (sentLine currency remoteTaxId)) =
        (store.lineItems.map worth).sum / 10 ^ minorUnitExponent currency := by
      rw [subTotal, List.map_map, div_eq_mul_inv, ← List.sum_map_mul_right]
      congr 1
      refine List.map_congr_left fun line member => ?_
      rw [Function.comp_apply, decimals_eq currency remoteTaxId (clear.prices line member)
        (clear.quantities line member), div_eq_mul_inv]
    have sum := within_scaled (minorUnitExponent currency)
      (Doubles.Within.refl (subTotal (store.lineItems.map (sentLine currency remoteTaxId)))).nearest
    rw [total, div_mul_cancel₀ _ scale] at sum
    rw [total]
    exact roundsTo_of_near ((sum.mono (by norm_num)).near clear.sum)

/-- Zoho returns the lines a native invoice was pushed with: applying them restores the
invoice exactly if it is plain, which away from halves is to say that it is not taxed. -/
theorem pull_back_restores_iff {π : Type} {env : Env} {store : Store}
    (reachable : NativeReachable π env store)
    (free : ∀ line ∈ store.lineItems, isReserved line = false) (remoteTaxId : Option String)
    (contact : String) (parseDate : String → Option Time) (notes : Option String)
    (result : RemoteRef) :
    ∃ lineItems, pushedLineItems remoteTaxId (ZohoSyncService.toAccountingInvoice store contact) =
        .ok lineItems ∧
      (Restores store ((applyInvoiceDetail (doubleNumbers parseDate) store.invoice.id
          (echoedDetail notes lineItems) (toCurrencyCode store.invoice.currency)).exec
            (linked store result)).store ↔
        Plain (toCurrencyCode store.invoice.currency) remoteTaxId store) ∧
      (IsClear store →
        (Plain (toCurrencyCode store.invoice.currency) remoteTaxId store ↔
          store.invoice.taxRateBpApplied = 0 ∧
            ∀ line ∈ store.lineItems, line.taxExempt = true ∨ isPresent remoteTaxId = true)) := by
  have priced := reachable.priced
  refine ⟨_, pushedLineItems_ok remoteTaxId priced.quantities contact, ?_,
    fun clear => clear.plain_iff _ remoteTaxId⟩
  have applied := applyInvoiceDetail_execFrom (doubleNumbers parseDate)
    (echoedDetail notes (sentLines store remoteTaxId contact
      (toCurrencyCode store.invoice.currency))) (toCurrencyCode store.invoice.currency)
    (linked store result) (linked store result)
  have same : (linked store result).invoice.id = store.invoice.id := rfl
  rw [same] at applied
  simp only [sentLines] at applied
  rw [exec, applied]
  exact echo_restores_iff remoteTaxId contact parseDate notes _ priced free result

def sampleRef : RemoteRef where
  remoteId := "z1"
  updatedAt := some 1

theorem pull_back_restores_iff_sample :
    ∃ lineItems, pushedLineItems none (ZohoSyncService.toAccountingInvoice sampleInvoice "contact") =
        .ok lineItems ∧
      Restores sampleInvoice ((applyInvoiceDetail (doubleNumbers fun _ => none) "invoice"
        (echoedDetail none lineItems) .usd).exec (linked sampleInvoice sampleRef)).store := by
  have clear : IsClear sampleInvoice :=
    ⟨by decide +kernel, by decide +kernel, by decide +kernel, by decide +kernel⟩
  obtain ⟨lineItems, sent, restores⟩ := pull_back_restores_iff (sampleInvoice_reachable Unit)
    (by decide +kernel) none "contact" (fun _ => none) none sampleRef
  exact ⟨lineItems, sent, restores.1.mpr ((restores.2 clear).mpr ⟨rfl, by decide⟩)⟩

def sampleTaxedDraft : InvoiceDraftInput where
  currency := .usd
  lines := [{
    itemName := "Service", description := none, quantity := "1", unitPrice := "100.00"
    taxExempt := false }]
  taxRateBp := 500
  cardFeeRateBp := 0
  notes := none

def sampleTaxed : Store :=
  { sampleInvoice with
    invoice := { sampleInvoice.invoice with
      taxRateBpApplied := 500, taxMinor := 500, cardFeeRateBpApplied := 0
      totalMinor := 10500, balanceMinor := 10500 }
    lineItems := [{
      position := 0, itemName := "Service", description := none, quantity := 10000
      unitPriceMinor := 10000, lineTotalMinor := 10000, taxExempt := false }] }

theorem sampleTaxed_created :
    InvoicesService.create sampleBrand "invoice" "token" sampleTaxedDraft = .ok sampleTaxed := by
  decide +kernel

/-- The line comes back exempt, although its tax comes back beside it. -/
theorem taxed_line_returns_exempt :
    InvoicesService.create sampleBrand "invoice" "token" sampleTaxedDraft = .ok sampleTaxed ∧
      (∀ line ∈ sampleTaxed.lineItems, isReserved line = false) ∧
      ∃ lineItems, pushedLineItems none (ZohoSyncService.toAccountingInvoice sampleTaxed "contact") =
          .ok lineItems ∧
        let next := ((applyInvoiceDetail (doubleNumbers fun _ => none) "invoice"
          (echoedDetail none lineItems) .usd).exec (linked sampleTaxed sampleRef)).store
        next.invoice.taxMinor = 500 ∧ next.lineItems.map LineItem.taxExempt = [true] ∧
          ¬Restores sampleTaxed next := by
  refine ⟨sampleTaxed_created, by decide +kernel, _,
    pushedLineItems_ok none (by decide) "contact", ?_⟩
  intro next
  have tax : next.invoice.taxMinor = 500 := by decide +kernel
  have returned : next.lineItems.map LineItem.taxExempt = [true] := by decide +kernel
  refine ⟨tax, returned, fun restores => ?_⟩
  have flags := congrArg (List.map fun bill : Int × Int × Int × Bool => bill.2.2.2) restores.lines
  rw [List.map_map, List.map_map] at flags
  exact absurd (returned.symm.trans flags) (by decide)

end RoundTrip

end MultiBrandInvoicing
