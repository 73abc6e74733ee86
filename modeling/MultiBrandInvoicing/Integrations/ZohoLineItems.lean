import MultiBrandInvoicing.Arithmetic.Nearest
import MultiBrandInvoicing.Integrations.ZohoPull
import MultiBrandInvoicing.Integrations.ZohoSync
import MultiBrandInvoicing.Json.ShortDecimals
import MultiBrandInvoicing.Money.DecimalText

/-!
# The lines an invoice is pushed with

`pushInvoice` of `apps/api/src/adapters/accounting/zoho-books.adapter.ts`.  Zoho takes decimal
amounts, so minor units and ten-thousandths become numbers of the language here, and the decimals
those are written with; the tax, unless Zoho has the rate, and the card fee become lines of their
own.
-/

set_option autoImplicit false

namespace MultiBrandInvoicing

namespace ZohoBooksAdapter

open ZohoPullService

/-- Zoho's numbers as doubles; `Math.round` sends halves up. -/
def doubleNumbers (parseDate : String → Option Time) : ZohoNumbers ℚ where
  mul := fun rate quantity => Doubles.nearest (rate * quantity)
  roundScaled := fun value exponent => round (Doubles.nearest (value * 10 ^ exponent))
  ratioBp := fun part whole =>
    round (Doubles.nearest (Doubles.nearest ((part : ℚ) / whole) * 10000))
  parseDate := parseDate

/-- `Number(value.toFixed(digits))`: of two decimals equally near, the one further from zero. -/
def toFixed (value : ℚ) (digits : Nat) : ℚ :=
  Doubles.nearest (HalfAway.nearest (value * 10 ^ digits) / 10 ^ digits)

def minorToDecimal (minor : Int) (currency : CurrencyCode) : ℚ :=
  let exponent := minorUnitExponent currency
  toFixed (Doubles.nearest (minor / 10 ^ exponent)) exponent

example : minorToDecimal 1615 .usd = Doubles.nearest (1615 / 100) := by decide +kernel

/-- `(rateBp / 100).toFixed(2)`. -/
def percentText (rateBp : Int) : String :=
  let sign := if rateBp < 0 then "-" else ""
  s!"{sign}{rateBp.natAbs / 100}.{padStart (toString (rateBp.natAbs % 100)) 2}"

def isPresent (remoteTaxId : Option String) : Bool := remoteTaxId.any (· ≠ "")

/-- One line; `remoteTaxId` is the id of the invoice's tax rate in Zoho, which the service
gives to every line. -/
def pushedLine (currency : CurrencyCode) (remoteTaxId : Option String)
    (line : AccountingLineItem) : Except MoneyError (ZohoInvoiceLineItem ℚ) := do
  let quantity ← formatQuantity line.quantity
  return {
    name := some line.name
    description := line.description
    rate := minorToDecimal line.unitPriceMinor currency
    quantity := Doubles.nearest (decimalNumber quantity)
    taxId := if line.taxExempt then none else remoteTaxId }

def taxLine (invoice : AccountingInvoice) (currency : CurrencyCode) : ZohoInvoiceLineItem ℚ where
  name := some pushedTaxLineName
  description :=
    some (pushedTaxLineDescriptionPrefix ++ s!" ({percentText invoice.taxRateBpApplied}%)")
  rate := minorToDecimal invoice.taxMinor currency
  quantity := 1
  taxId := none

def cardFeeLine (invoice : AccountingInvoice) (currency : CurrencyCode) :
    ZohoInvoiceLineItem ℚ where
  name := some pushedCardFeeLineName
  description := some pushedCardFeeLineDescription
  rate := minorToDecimal invoice.cardFeeMinor currency
  quantity := 1
  taxId := none

def extraLines (remoteTaxId : Option String) (invoice : AccountingInvoice)
    (currency : CurrencyCode) : List (ZohoInvoiceLineItem ℚ) :=
  (if 0 < invoice.taxMinor && invoice.lines.all (fun _ => !isPresent remoteTaxId) then
    [taxLine invoice currency] else []) ++
  (if 0 < invoice.cardFeeMinor then [cardFeeLine invoice currency] else [])

def pushedLineItems (remoteTaxId : Option String) (invoice : AccountingInvoice) :
    Except MoneyError (List (ZohoInvoiceLineItem ℚ)) := do
  let currency := toCurrencyCode invoice.currency
  let lineItems ← invoice.lines.mapM (pushedLine currency remoteTaxId)
  return lineItems ++ extraLines remoteTaxId invoice currency

/-! ## What is sent -/

def sentLine (currency : CurrencyCode) (remoteTaxId : Option String) (line : LineItem) :
    ZohoInvoiceLineItem ℚ where
  name := some line.itemName
  description := line.description
  rate := minorToDecimal (toNumber line.unitPriceMinor) currency
  quantity := Doubles.nearest (line.quantity / 10 ^ quantityDecimals)
  taxId := if line.taxExempt then none else remoteTaxId

theorem pushedLine_ok (currency : CurrencyCode) (remoteTaxId : Option String) {line : LineItem}
    (safe : isSafeInteger line.quantity = true) :
    pushedLine currency remoteTaxId (ZohoSyncService.toAccountingLine line) =
      .ok (sentLine currency remoteTaxId line) := by
  have asserted : assertQuantity line.quantity "quantity" = .ok line.quantity := if_pos safe
  have formatted : ∃ text, formatQuantity line.quantity = .ok text := by
    unfold formatQuantity
    rw [asserted]
    exact ⟨_, rfl⟩
  obtain ⟨text, formatted⟩ := formatted
  have value : decimalNumber text = line.quantity / 10 ^ quantityDecimals := by
    rw [decimalNumber_formatQuantity formatted]
    norm_num [quantityScale, quantityDecimals]
  have read : (ZohoSyncService.toAccountingLine line).quantity = line.quantity := rfl
  unfold pushedLine
  rw [read, formatted]
  simp only [sentLine, ← value]
  rfl

theorem pushedLineItems_ok (remoteTaxId : Option String) {store : Store}
    (safe : ∀ line ∈ store.lineItems, isSafeInteger line.quantity = true) (contact : String) :
    pushedLineItems remoteTaxId (ZohoSyncService.toAccountingInvoice store contact) =
      .ok (store.lineItems.map (sentLine (toCurrencyCode store.invoice.currency) remoteTaxId) ++
        extraLines remoteTaxId (ZohoSyncService.toAccountingInvoice store contact)
          (toCurrencyCode store.invoice.currency)) := by
  have mapped : ∀ lines : List LineItem, (∀ line ∈ lines, isSafeInteger line.quantity = true) →
      (lines.map ZohoSyncService.toAccountingLine).mapM
          (pushedLine (toCurrencyCode store.invoice.currency) remoteTaxId) =
        .ok (lines.map (sentLine (toCurrencyCode store.invoice.currency) remoteTaxId)) := by
    intro lines
    induction lines with
    | nil => exact fun _ => rfl
    | cons line rest ih =>
        intro safe
        rw [List.map_cons, List.mapM_cons, pushedLine_ok _ _ (safe line (by simp)),
          ih fun other member => safe other (by simp [member])]
        rfl
  unfold pushedLineItems
  simp only [ZohoSyncService.toAccountingInvoice, mapped store.lineItems safe]
  rfl

/-! ## Amounts that are sent as they are -/

theorem minorUnitExponent_le (currency : CurrencyCode) : minorUnitExponent currency ≤ 4 := by
  cases currency <;> decide

section Small

variable {minor : Int} (small : minor.natAbs ≤ 2 ^ 50) (currency : CurrencyCode)

include small in
theorem minorToDecimal_eq : minorToDecimal minor currency =
    Doubles.nearest (minor / 10 ^ minorUnitExponent currency) := by
  have near := Doubles.abs_scaled_sub_le small (minorUnitExponent currency)
  simp only [minorToDecimal, toFixed]
  rw [HalfAway.nearest_of_near (near.trans_lt (by norm_num))]

include small in
/-- An amount stands in the text as the decimal it is. -/
theorem decimal_minorToDecimal : Json.decimal (minorToDecimal minor currency) =
    minor / 10 ^ minorUnitExponent currency := by
  rw [minorToDecimal_eq small]
  exact Json.decimal_nearest (minorUnitExponent_le currency) small

include small in
/-- An amount is pulled back as it was pushed. -/
theorem decimalToMinor_minorToDecimal (parseDate : String → Option Time) :
    decimalToMinor (doubleNumbers parseDate) (minorToDecimal minor currency) currency = minor := by
  simp only [decimalToMinor, doubleNumbers]
  rw [minorToDecimal_eq small]
  exact HalfAway.round_of_near (Doubles.abs_nearest_scaled_sub_lt small _)

end Small

/-- What a sent line is worth as decimals, in minor units and rounded half away from zero. -/
def sentMinor (currency : CurrencyCode) (line : ZohoInvoiceLineItem ℚ) : Int :=
  HalfAway.nearest
    (Json.decimal line.rate * Json.decimal line.quantity * 10 ^ minorUnitExponent currency)

theorem sentMinor_sentLine (currency : CurrencyCode) (remoteTaxId : Option String)
    {line : LineItem} (price : line.unitPriceMinor.natAbs ≤ 2 ^ 50)
    (quantity : line.quantity.natAbs ≤ 2 ^ 50) : sentMinor currency (sentLine currency remoteTaxId line) =
      HalfAway.quotient (line.quantity * line.unitPriceMinor) quantityScale := by
  have whole : toNumber line.unitPriceMinor = line.unitPriceMinor :=
    Doubles.round_of_natAbs_le (by omega)
  have scale : (10 : ℚ) ^ minorUnitExponent currency ≠ 0 := by positivity
  simp only [sentMinor, sentLine]
  rw [whole, decimal_minorToDecimal price, Json.decimal_nearest (by decide) quantity,
    ← HalfAway.nearest_div _ (by decide)]
  congr 1
  push_cast
  field_simp
  norm_num [quantityScale, quantityDecimals]

end ZohoBooksAdapter

end MultiBrandInvoicing
