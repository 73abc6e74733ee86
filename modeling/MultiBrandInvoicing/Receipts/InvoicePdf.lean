import MultiBrandInvoicing.Encodings.CodeUnits
import MultiBrandInvoicing.Json.StringNumbers
import MultiBrandInvoicing.Texts.Markup

/-!
# The document of an invoice

`packages/shared/src/domain/invoice-pdf-html.ts`: the three layouts as templates whose values are
escaped.  Whatever a customer, a brand or an item is called, a browser reads the tags of the
template and no others, and every value as it is.
-/

set_option autoImplicit false

namespace MultiBrandInvoicing.InvoicePdf

open Encodings Json Markup

/-! ## What a document is made from -/

inductive InvoicePdfLayout where
  | classic
  | modern
  | minimal
  deriving DecidableEq, Repr

inductive PaymentTerms where
  | dueOnReceipt
  | net15
  | net30
  | net60
  deriving DecidableEq, Repr

def PaymentTerms.label : PaymentTerms → CodeUnits
  | .dueOnReceipt => ofString "Due on receipt"
  | .net15 => ofString "Net 15"
  | .net30 => ofString "Net 30"
  | .net60 => ofString "Net 60"

structure PdfBrand where
  displayName : CodeUnits
  themeColor : CodeUnits
  logoUrl : Option CodeUnits
  deriving DecidableEq, Repr

structure PdfSettings where
  invoicePdfLayout : InvoicePdfLayout
  companyName : CodeUnits
  companyAddress : CodeUnits
  showCompanyAddress : Bool
  showPaymentTerms : Bool
  showNotes : Bool
  paymentTerms : PaymentTerms
  notes : CodeUnits
  deriving DecidableEq, Repr

structure PdfLine where
  itemName : CodeUnits
  quantityLabel : CodeUnits
  rateLabel : CodeUnits
  amountLabel : CodeUnits
  deriving DecidableEq, Repr

structure InvoicePdfHtmlInput where
  number : CodeUnits
  invoiceDate : CodeUnits
  dueDate : CodeUnits
  brand : PdfBrand
  customerName : CodeUnits
  customerAddress : CodeUnits
  settings : PdfSettings
  lines : List PdfLine
  subtotalLabel : CodeUnits
  totalLabel : CodeUnits
  balanceDueLabel : CodeUnits
  deriving DecidableEq, Repr

def fontStack : String :=
  "ui-sans-serif, system-ui, -apple-system, \"Segoe UI\", Roboto, \"Helvetica Neue\", Arial, sans-serif"

def inkStrong : String := "#0A0A0C"

def inkMuted : String := "#6B7280"

def inkSubtle : String := "#8C919B"

def surfaceMuted : String := "#F5F5F6"

/-! ## Escaping -/

def replaceUnit (sign : UInt16) (by_ : CodeUnits) (value : CodeUnits) : CodeUnits :=
  value.flatMap fun unit => if unit = sign then by_ else [unit]

def escapeHtml (value : CodeUnits) : CodeUnits :=
  replaceUnit 0x22 (ofString "&quot;") (replaceUnit 0x3E (ofString "&gt;")
    (replaceUnit 0x3C (ofString "&lt;") (replaceUnit 0x26 (ofString "&amp;") value)))

/-! ## The templates -/

def lit (text : String) : Piece UInt16 := .markup (ofString text)

def sizeText (size : Nat) : Piece UInt16 := .markup (ofString (toString size))

/-- `Math.round(size / 2.5)`. -/
def fontSize (size : Nat) : Nat := (4 * size + 5) / 10

section Templates

-- What the language knows of capitals.
variable (toUpperCase : CodeUnits → CodeUnits) (input : InvoicePdfHtmlInput)

def initialOf (name : CodeUnits) : CodeUnits :=
  let first := (stripped name).take 1
  toUpperCase (if first = [] then ofString "?" else first)

def logoMark (size : Nat) (border : String) : List (Piece UInt16) :=
  match input.brand.logoUrl.filter (· ≠ []) with
  | some logoUrl =>
    [lit "<img src=\"",
     .value logoUrl,
     lit "\" alt=\"\" width=\"",
     sizeText size,
     lit "\" height=\"",
     sizeText size,
     lit "\" style=\"display:block;width:",
     sizeText size,
     lit "px;height:",
     sizeText size,
     lit "px;border-radius:",
     sizeText size,
     lit "px;object-fit:cover;",
     lit border,
     lit "\" />"]
  | none =>
    [lit "<div style=\"width:",
     sizeText size,
     lit "px;height:",
     sizeText size,
     lit "px;border-radius:",
     sizeText size,
     lit "px;background:",
     .value input.brand.themeColor,
     lit ";color:#FFFFFF;font-size:",
     sizeText (fontSize size),
     lit "px;font-weight:700;display:flex;align-items:center;justify-content:center;",
     lit border,
     lit "\">",
     .value (initialOf toUpperCase input.settings.companyName),
     lit "</div>"]

def companyAddressBlock (style : String) : List (Piece UInt16) :=
  if input.settings.showCompanyAddress = false ∨ input.settings.companyAddress = [] then []
  else
    [lit "<p style=\"margin:4px 0 0;white-space:pre-line;",
     lit style,
     lit "\">",
     .value input.settings.companyAddress,
     lit "</p>"]

def termsLine : List (Piece UInt16) :=
  if input.settings.showPaymentTerms then
    [lit "<p style=\"margin:0;\"><span class=\"muted\">Terms: </span><strong>",
     .value input.settings.paymentTerms.label,
     lit "</strong></p>"]
  else []

def billToAndDates : List (Piece UInt16) :=
  [[lit "<div class=\"bill-to-row\">
      <div>
        <p style=\"margin:0;font-size:11px;font-weight:700;text-transform:uppercase;letter-spacing:0.03em;color:",
    lit inkSubtle,
    lit ";\">Bill To</p>
        <p style=\"margin:4px 0 0;font-weight:600;\">",
    .value input.customerName,
    lit "</p>
        <p class=\"muted\" style=\"margin:0;white-space:pre-line;\">",
    .value input.customerAddress,
    lit "</p>
      </div>
      <div class=\"dates\">
        <p style=\"margin:0;\"><span class=\"muted\">Invoice date: </span><strong>",
    .value input.invoiceDate,
    lit "</strong></p>
        "],
   termsLine input,
   [lit "
        <p style=\"margin:0;\"><span class=\"muted\">Due date: </span><strong>",
    .value input.dueDate,
    lit "</strong></p>
      </div>
    </div>"]].flatten

def row (index : Nat) (line : PdfLine) : List (Piece UInt16) :=
  [lit "<tr>
          <td>",
   sizeText (index + 1),
   lit "</td>
          <td>",
   .value line.itemName,
   lit "</td>
          <td class=\"muted\">",
   .value line.quantityLabel,
   lit "</td>
          <td class=\"muted\">",
   .value line.rateLabel,
   lit "</td>
          <td>",
   .value line.amountLabel,
   lit "</td>
        </tr>"]

def rows (lines : List PdfLine) : List (Piece UInt16) :=
  [lit "
"].intercalate (lines.mapIdx row)

def itemsTable : List (Piece UInt16) :=
  [[lit "<table class=\"items\">
      <thead><tr><th>#</th><th>Item &amp; Description</th><th>Qty</th><th>Rate</th><th>Amount</th></tr></thead>
      <tbody>"],
   rows input.lines,
   [lit "</tbody>
    </table>"]].flatten

def totalsBlock : List (Piece UInt16) :=
  if input.settings.invoicePdfLayout = .modern then
    [lit "<div style=\"margin-top:24px;display:flex;justify-content:flex-end;\">
        <div style=\"width:256px;border:1px solid #E5E7EB;border-radius:8px;overflow:hidden;font-size:14px;\">
          <div style=\"display:flex;justify-content:space-between;padding:10px 16px;\"><span class=\"muted\">Subtotal</span><span style=\"font-weight:600;\">",
   .value input.subtotalLabel,
   lit "</span></div>
          <div style=\"display:flex;justify-content:space-between;padding:10px 16px;border-top:1px solid #E5E7EB;font-weight:700;\"><span>Total</span><span>",
   .value input.totalLabel,
   lit "</span></div>
          <div style=\"display:flex;justify-content:space-between;padding:10px 16px;background:",
   lit surfaceMuted,
   lit ";font-weight:700;\"><span>Balance Due</span><span>",
   .value input.balanceDueLabel,
   lit "</span></div>
        </div>
      </div>"]
  else
    [lit "<div style=\"margin-top:24px;display:flex;justify-content:flex-end;\">
      <div style=\"width:240px;font-size:14px;\">
        <div style=\"display:flex;justify-content:space-between;\"><span class=\"muted\">Subtotal</span><span style=\"font-weight:600;\">",
   .value input.subtotalLabel,
   lit "</span></div>
        <div style=\"display:flex;justify-content:space-between;margin-top:6px;padding-top:6px;border-top:1px solid #E5E7EB;font-weight:700;\"><span>Total</span><span>",
   .value input.totalLabel,
   lit "</span></div>
        <div style=\"display:flex;justify-content:space-between;margin-top:6px;padding-top:6px;border-top:2px solid ",
   lit inkStrong,
   lit ";font-weight:700;\"><span>Balance Due</span><span>",
   .value input.balanceDueLabel,
   lit "</span></div>
      </div>
    </div>"]

def notesBlock : List (Piece UInt16) :=
  if input.settings.showNotes = false ∨ input.settings.notes = [] then []
  else
    [lit "<div class=\"notes\"><p>Notes</p><p>",
   .value input.settings.notes,
   lit "</p></div>"]

def modernBody : List (Piece UInt16) :=
  [[lit "<div style=\"background:",
    .value input.brand.themeColor,
    lit ";padding:24px 32px;color:#FFFFFF;\">
      <div style=\"display:flex;align-items:flex-start;justify-content:space-between;gap:16px;\">
        <div style=\"display:flex;align-items:flex-start;gap:12px;\">
          "],
   logoMark toUpperCase input 50 "border:2px solid #FFFFFF;",
   [lit "
          <div>
            <p style=\"margin:0;font-weight:700;\">",
    .value input.settings.companyName,
    lit "</p>
            "],
   companyAddressBlock input "font-size:12px;color:rgba(255,255,255,0.8);",
   [lit "
          </div>
        </div>
        <div style=\"text-align:right;\">
          <p style=\"margin:0;font-size:14px;text-transform:uppercase;letter-spacing:0.03em;color:rgba(255,255,255,0.7);\">Invoice</p>
          <p style=\"margin:4px 0 0;font-size:24px;font-weight:700;\">#",
    .value input.number,
    lit "</p>
          <p style=\"margin:8px 0 0;font-size:14px;font-weight:700;\">Balance due: ",
    .value input.balanceDueLabel,
    lit "</p>
        </div>
      </div>
    </div>
    <div style=\"padding:32px;\">
      "],
   billToAndDates input,
   [lit "
      "],
   itemsTable input,
   [lit "
      "],
   totalsBlock input,
   [lit "
      "],
   notesBlock input,
   [lit "
    </div>"]].flatten

def minimalBody : List (Piece UInt16) :=
  [[lit "<div style=\"padding:32px;\">
      <div style=\"display:flex;align-items:flex-start;justify-content:space-between;gap:16px;border-bottom:1px solid #E5E7EB;padding-bottom:24px;\">
        <div style=\"display:flex;align-items:flex-start;gap:12px;\">
          "],
   logoMark toUpperCase input 50 "border:1px solid #E5E5E5;",
   [lit "
          <div>
            <p style=\"margin:0;font-size:18px;font-weight:700;\">",
    .value input.settings.companyName,
    lit "</p>
            "],
   companyAddressBlock input "font-size:12px;",
   [lit "
          </div>
        </div>
        <div style=\"text-align:right;\">
          <p class=\"subtle\" style=\"margin:0;font-size:14px;text-transform:uppercase;letter-spacing:0.03em;\">Invoice</p>
          <p style=\"margin:4px 0 0;font-size:24px;font-weight:700;\">#",
    .value input.number,
    lit "</p>
        </div>
      </div>
      <div style=\"margin-top:24px;display:flex;align-items:stretch;gap:12px;\">
        <div style=\"width:4px;border-radius:2px;background:",
    .value input.brand.themeColor,
    lit ";\"></div>
        <div>
          <p class=\"muted\" style=\"margin:0;font-size:14px;\">Balance due</p>
          <p style=\"margin:0;font-size:30px;font-weight:700;\">",
    .value input.balanceDueLabel,
    lit "</p>
        </div>
      </div>
      <div style=\"margin-top:24px;\">
        "],
   billToAndDates input,
   [lit "
      </div>
      "],
   itemsTable input,
   [lit "
      "],
   totalsBlock input,
   [lit "
      "],
   notesBlock input,
   [lit "
    </div>"]].flatten

def classicBody : List (Piece UInt16) :=
  [[lit "<div style=\"padding:32px;\">
      <div style=\"display:flex;align-items:flex-start;justify-content:space-between;gap:16px;border-bottom:1px solid #F3F4F6;padding-bottom:24px;\">
        <div>
          "],
   logoMark toUpperCase input 60 "border:1px solid #E5E5E5;",
   [lit "
          <p style=\"margin:16px 0 0;font-size:20px;font-weight:700;\">",
    .value input.settings.companyName,
    lit "</p>
          "],
   companyAddressBlock input "font-size:14px;max-width:220px;",
   [lit "
        </div>
        <div style=\"text-align:right;\">
          <p style=\"margin:0;font-size:20px;font-weight:800;letter-spacing:0.05em;\">INVOICE</p>
          <p class=\"muted\" style=\"margin:4px 0 0;font-size:14px;\"># ",
    .value input.number,
    lit "</p>
          <span style=\"display:inline-block;margin-top:12px;border-radius:9999px;padding:8px 16px;font-size:13px;font-weight:700;color:#FFFFFF;background:",
    .value input.brand.themeColor,
    lit ";\">Balance due: ",
    .value input.balanceDueLabel,
    lit "</span>
        </div>
      </div>
      <div style=\"margin-top:24px;\">
        "],
   billToAndDates input,
   [lit "
      </div>
      "],
   itemsTable input,
   [lit "
      "],
   totalsBlock input,
   [lit "
      "],
   notesBlock input,
   [lit "
    </div>
    <div style=\"height:8px;background:",
    .value input.brand.themeColor,
    lit ";\"></div>"]].flatten

def body : List (Piece UInt16) :=
  match input.settings.invoicePdfLayout with
  | .modern => modernBody toUpperCase input
  | .minimal => minimalBody toUpperCase input
  | .classic => classicBody toUpperCase input

def document : List (Piece UInt16) :=
  [[lit "<!doctype html>
<html>
  <head>
    <meta charset=\"utf-8\" />
    <style>
      * \x7b box-sizing: border-box; \x7d
      body \x7b margin: 0; font-family: ",
    lit fontStack,
    lit "; color: ",
    lit inkStrong,
    lit "; -webkit-print-color-adjust: exact; print-color-adjust: exact; \x7d
      table \x7b border-collapse: collapse; width: 100%; \x7d
      .muted \x7b color: ",
    lit inkMuted,
    lit "; \x7d
      .subtle \x7b color: ",
    lit inkSubtle,
    lit "; \x7d
      .bill-to-row \x7b display: flex; align-items: flex-start; justify-content: space-between; gap: 16px; font-size: 14px; \x7d
      .dates \x7b text-align: right; font-size: 14px; line-height: 1.6; \x7d
      .items \x7b margin-top: 24px; font-size: 14px; \x7d
      .items thead tr \x7b background: #E7EDF5; text-align: left; font-size: 12px; font-weight: 700; text-transform: uppercase; letter-spacing: 0.03em; color: #000000; \x7d
      .items th, .items td \x7b padding: 10px 0; \x7d
      .items th:first-child, .items td:first-child \x7b width: 40px; padding-left: 16px; \x7d
      .items th:last-child, .items td:last-child \x7b text-align: right; padding-right: 16px; \x7d
      .items tbody tr \x7b border-bottom: 1px solid #F1F5F9; \x7d
      .items tbody td:first-child \x7b color: ",
    lit inkMuted,
    lit "; \x7d
      .notes \x7b margin-top: 24px; border-top: 1px solid #E5E7EB; padding-top: 16px; \x7d
      .notes p:first-child \x7b margin: 0; font-size: 11px; font-weight: 700; text-transform: uppercase; letter-spacing: 0.03em; color: ",
    lit inkSubtle,
    lit "; \x7d
      .notes p:last-child \x7b margin: 4px 0 0; font-size: 12px; color: ",
    lit inkMuted,
    lit "; white-space: pre-line; \x7d
    </style>
  </head>
  <body>
    "],
   body toUpperCase input,
   [lit "
  </body>
</html>"]].flatten

def renderInvoicePdfHtml : CodeUnits := html escapeHtml (document toUpperCase input)

end Templates

/-! ## How a document is read -/

def htmlSigns : Signs UInt16 where
  opens := 0x3C
  closes := 0x3E
  quotation := 0x22
  ampersand := 0x26
  semicolon := 0x3B
  isLetter unit := 0x61 ≤ unit.toNat && unit.toNat ≤ 0x7A
  entity name :=
    if name = ofString "amp" then some 0x26
    else if name = ofString "lt" then some 0x3C
    else if name = ofString "gt" then some 0x3E
    else if name = ofString "quot" then some 0x22
    else none

def outside : State UInt16 := ⟨.text, none⟩

def written (unit : UInt16) : CodeUnits :=
  if unit = 0x26 then ofString "&amp;"
  else if unit = 0x3C then ofString "&lt;"
  else if unit = 0x3E then ofString "&gt;"
  else if unit = 0x22 then ofString "&quot;"
  else [unit]

theorem replaceUnit_append (sign : UInt16) (by_ first second : CodeUnits) :
    replaceUnit sign by_ (first ++ second) =
      replaceUnit sign by_ first ++ replaceUnit sign by_ second :=
  List.flatMap_append

theorem escapeHtml_append (first second : CodeUnits) :
    escapeHtml (first ++ second) = escapeHtml first ++ escapeHtml second := by
  simp only [escapeHtml, replaceUnit_append]

theorem replaceUnit_other {sign unit : UInt16} (other : unit ≠ sign) (by_ : CodeUnits) :
    replaceUnit sign by_ [unit] = [unit] := by
  rw [replaceUnit, List.flatMap_singleton, if_neg other]

theorem escapeHtml_unit (unit : UInt16) : escapeHtml [unit] = written unit := by
  by_cases ampersand : unit = 0x26
  · rw [ampersand]
    decide
  by_cases less : unit = 0x3C
  · rw [less]
    decide
  by_cases greater : unit = 0x3E
  · rw [greater]
    decide
  by_cases quotation : unit = 0x22
  · rw [quotation]
    decide
  rw [escapeHtml, replaceUnit_other ampersand, replaceUnit_other less, replaceUnit_other greater,
    replaceUnit_other quotation, written, if_neg ampersand, if_neg less, if_neg greater,
    if_neg quotation]

theorem escapeHtml_flat (value : CodeUnits) : escapeHtml value = value.flatMap written := by
  induction value with
  | nil => rfl
  | cons unit rest ih =>
    have split : unit :: rest = [unit] ++ rest := rfl
    rw [split, escapeHtml_append, escapeHtml_unit, ih]
    rfl

theorem escapes : Escapes htmlSigns escapeHtml written where
  flat := escapeHtml_flat
  notOpens := by decide
  notQuotation := by decide
  notLetter := by decide
  each unit := by
    by_cases ampersand : unit = 0x26
    · rw [ampersand]
      exact .inr ⟨ofString "amp", by decide, List.all_eq_true.mp (by decide), by decide⟩
    by_cases less : unit = 0x3C
    · rw [less]
      exact .inr ⟨ofString "lt", by decide, List.all_eq_true.mp (by decide), by decide⟩
    by_cases greater : unit = 0x3E
    · rw [greater]
      exact .inr ⟨ofString "gt", by decide, List.all_eq_true.mp (by decide), by decide⟩
    by_cases quotation : unit = 0x22
    · rw [quotation]
      exact .inr ⟨ofString "quot", by decide, List.all_eq_true.mp (by decide), by decide⟩
    rw [written, if_neg ampersand, if_neg less, if_neg greater, if_neg quotation]
    exact .inl ⟨rfl, less, quotation, ampersand⟩

/-! ## Every value stands between tags or in a quoted value -/

section Leading

variable (toUpperCase : CodeUnits → CodeUnits) (input : InvoicePdfHtmlInput)

theorem leads_number (size : Nat) {place : Place} (outside : place ≠ .tag) :
    Leads htmlSigns ⟨place, none⟩ [sizeText size] ⟨place, none⟩ := by
  have digits : ∀ unit ∈ ofString (toString size), 0x30 ≤ unit.toNat ∧ unit.toNat ≤ 0x39 := by
    intro unit member
    rw [ofString, digit_units fun char found => digit_of_toString found] at member
    obtain ⟨char, found, rfl⟩ := List.mem_map.mp member
    have digit := digit_of_toString found
    rw [digitUnit_toNat digit]
    exact digit_bounds digit
  have plain : ∀ unit ∈ ofString (toString size), unit ≠ htmlSigns.opens ∧
      unit ≠ htmlSigns.quotation ∧ unit ≠ htmlSigns.ampersand := by
    intro unit member
    have bounds := digits unit member
    refine ⟨?_, ?_, ?_⟩ <;>
      · intro same
        rw [same] at bounds
        exact absurd bounds (by decide)
  rw [Leads, List.map_cons, sizeText, Piece.hole, leads, read_plain outside plain]
  rfl

theorem leads_rows (lines : List PdfLine) :
    Leads htmlSigns outside (rows lines) outside := by
  have newline : Leads htmlSigns outside [lit "
"] outside := by
    simp only [Leads, List.map, Piece.hole, lit, ofString]
    repeat rw [String.toList_ofList]
    decide +kernel
  have opening : Leads htmlSigns outside [lit "<tr>
          <td>"] outside := by
    simp only [Leads, List.map, Piece.hole, lit, ofString]
    repeat rw [String.toList_ofList]
    decide +kernel
  refine leads_intercalate newline ?_
  intro block member
  obtain ⟨index, bound, rfl⟩ := List.mem_mapIdx.mp member
  have number : Leads htmlSigns outside [sizeText (index + 1)] outside :=
    leads_number (index + 1) (by decide)
  refine opening.append (number.append ?_)
  simp only [Leads, List.map, Piece.hole, lit, ofString]
  repeat rw [String.toList_ofList]
  decide +kernel

def parts : List (List (Piece UInt16)) :=
  [logoMark toUpperCase input 50 "border:2px solid #FFFFFF;",
    logoMark toUpperCase input 50 "border:1px solid #E5E5E5;",
    logoMark toUpperCase input 60 "border:1px solid #E5E5E5;",
    companyAddressBlock input "font-size:12px;color:rgba(255,255,255,0.8);",
    companyAddressBlock input "font-size:12px;",
    companyAddressBlock input "font-size:14px;max-width:220px;",
    billToAndDates input, itemsTable input, totalsBlock input, notesBlock input]

theorem leads_part {part : List (Piece UInt16)} (member : part ∈ parts toUpperCase input) :
    Leads htmlSigns outside part outside := by
  have terms : Leads htmlSigns outside (termsLine input) outside := by
    rw [termsLine]
    split
    · simp only [Leads, List.map, Piece.hole, lit, ofString]
      repeat rw [String.toList_ofList]
      decide +kernel
    · rfl
  simp only [parts, List.mem_cons, List.not_mem_nil, or_false] at member
  rcases member with rfl | rfl | rfl | rfl | rfl | rfl | rfl | rfl | rfl | rfl
  iterate 3
    · rw [logoMark]
      split <;>
        · simp only [Leads, List.map, Piece.hole, lit, sizeText, ofString]
          repeat rw [String.toList_ofList]
          decide +kernel
  iterate 3
    · rw [companyAddressBlock]
      split
      · rfl
      · simp only [Leads, List.map, Piece.hole, lit, ofString]
        repeat rw [String.toList_ofList]
        decide +kernel
  · refine leads_flatten ?_
    intro block within
    simp only [List.mem_cons, List.not_mem_nil, or_false] at within
    rcases within with rfl | rfl | rfl
    · simp only [Leads, List.map, Piece.hole, lit, inkSubtle, ofString]
      repeat rw [String.toList_ofList]
      decide +kernel
    · exact terms
    · simp only [Leads, List.map, Piece.hole, lit, ofString]
      repeat rw [String.toList_ofList]
      decide +kernel
  · refine leads_flatten ?_
    intro block within
    simp only [List.mem_cons, List.not_mem_nil, or_false] at within
    rcases within with rfl | rfl | rfl
    · simp only [Leads, List.map, Piece.hole, lit, ofString]
      repeat rw [String.toList_ofList]
      decide +kernel
    · exact leads_rows input.lines
    · simp only [Leads, List.map, Piece.hole, lit, ofString]
      repeat rw [String.toList_ofList]
      decide +kernel
  · rw [totalsBlock]
    split <;>
      · simp only [Leads, List.map, Piece.hole, lit, surfaceMuted, inkStrong, ofString]
        repeat rw [String.toList_ofList]
        decide +kernel
  · rw [notesBlock]
    split
    · rfl
    · simp only [Leads, List.map, Piece.hole, lit, ofString]
      repeat rw [String.toList_ofList]
      decide +kernel

theorem leads_body : Leads htmlSigns outside (body toUpperCase input) outside := by
  have leads := fun part => @leads_part toUpperCase input part
  rw [body]
  split <;>
    · refine leads_flatten ?_
      intro block member
      simp only [List.mem_cons, List.not_mem_nil, or_false] at member
      rcases member with rfl | rfl | rfl | rfl | rfl | rfl | rfl | rfl | rfl | rfl | rfl | rfl |
        rfl
      iterate 6
        · simp only [Leads, List.map, Piece.hole, lit, ofString]
          repeat rw [String.toList_ofList]
          decide +kernel
        · exact leads _ (by simp [parts])
      · simp only [Leads, List.map, Piece.hole, lit, ofString]
        repeat rw [String.toList_ofList]
        decide +kernel

theorem leads_document : Leads htmlSigns outside (document toUpperCase input) outside := by
  refine leads_flatten ?_
  intro block member
  simp only [List.mem_cons, List.not_mem_nil, or_false] at member
  rcases member with rfl | rfl | rfl
  · refine leads_each ?_
    intro piece within
    simp only [List.mem_cons, List.not_mem_nil, or_false] at within
    rcases within with rfl | rfl | rfl | rfl | rfl | rfl | rfl | rfl | rfl | rfl | rfl | rfl | rfl |
      rfl | rfl <;>
      · simp only [Leads, List.map, Piece.hole, lit, fontStack, inkStrong, inkMuted, inkSubtle,
          ofString]
        rw [String.toList_ofList]
        decide +kernel
  · exact leads_body toUpperCase input
  · simp only [Leads, List.map, Piece.hole, lit, ofString]
    repeat rw [String.toList_ofList]
    decide +kernel

end Leading

/-! ## Documents of one shape -/

/-- What decides which parts a document has. -/
structure SameShape (input other : InvoicePdfHtmlInput) : Prop where
  layout : input.settings.invoicePdfLayout = other.settings.invoicePdfLayout
  logo : (input.brand.logoUrl.filter (· ≠ [])).isSome = (other.brand.logoUrl.filter (· ≠ [])).isSome
  address : (input.settings.showCompanyAddress = false ∨ input.settings.companyAddress = []) ↔
    (other.settings.showCompanyAddress = false ∨ other.settings.companyAddress = [])
  terms : input.settings.showPaymentTerms = other.settings.showPaymentTerms
  notes : (input.settings.showNotes = false ∨ input.settings.notes = []) ↔
    (other.settings.showNotes = false ∨ other.settings.notes = [])
  lines : input.lines.length = other.lines.length

def holes (pieces : List (Piece UInt16)) : List (Option CodeUnits) := pieces.map Piece.hole

section Shape

variable (toUpperCase : CodeUnits → CodeUnits) {input other : InvoicePdfHtmlInput}

theorem holes_flatten {blocks others : List (List (Piece UInt16))}
    (same : blocks.map holes = others.map holes) : holes blocks.flatten = holes others.flatten := by
  rw [holes, holes, List.map_flatten, List.map_flatten]
  exact congrArg List.flatten same

theorem holes_logoMark (same : SameShape input other) (size : Nat) (border : String) :
    holes (logoMark toUpperCase input size border) =
      holes (logoMark toUpperCase other size border) := by
  have logo := same.logo
  rw [logoMark, logoMark]
  cases one : input.brand.logoUrl.filter (· ≠ []) with
  | none =>
    cases two : other.brand.logoUrl.filter (· ≠ []) with
    | none => rfl
    | some url =>
      rw [one, two] at logo
      cases logo
  | some url =>
    cases two : other.brand.logoUrl.filter (· ≠ []) with
    | none =>
      rw [one, two] at logo
      cases logo
    | some otherUrl => rfl

theorem holes_companyAddressBlock (same : SameShape input other) (style : String) :
    holes (companyAddressBlock input style) = holes (companyAddressBlock other style) := by
  rw [companyAddressBlock, companyAddressBlock]
  by_cases hidden : input.settings.showCompanyAddress = false ∨ input.settings.companyAddress = []
  · rw [if_pos hidden, if_pos (same.address.mp hidden)]
  · rw [if_neg hidden, if_neg fun there => hidden (same.address.mpr there)]
    rfl

theorem holes_billToAndDates (same : SameShape input other) :
    holes (billToAndDates input) = holes (billToAndDates other) := by
  have terms : holes (termsLine input) = holes (termsLine other) := by
    rw [termsLine, termsLine, same.terms]
    split <;> rfl
  refine holes_flatten ?_
  simp only [List.map_cons, terms]
  rfl

theorem holes_intercalate {separator : List (Piece UInt16)}
    {blocks others : List (List (Piece UInt16))} (same : blocks.map holes = others.map holes) :
    holes (separator.intercalate blocks) = holes (separator.intercalate others) := by
  have joined (first second : List (Piece UInt16)) :
      holes (first ++ second) = holes first ++ holes second := List.map_append
  induction blocks generalizing others with
  | nil =>
    rw [List.map_nil, eq_comm, List.map_eq_nil_iff] at same
    rw [same]
  | cons block rest ih =>
    obtain ⟨other, more, rfl⟩ := List.exists_cons_of_length_eq_add_one
      ((List.length_map _).symm.trans ((congrArg List.length same).symm.trans (List.length_map _)))
    rw [List.map_cons, List.map_cons] at same
    obtain ⟨here, behind⟩ := List.cons.inj same
    by_cases last : rest = []
    · rw [last, List.map_nil, eq_comm, List.map_eq_nil_iff] at behind
      rw [last, behind, List.intercalate_singleton, List.intercalate_singleton, here]
    · have further : more ≠ [] := by
        intro none_
        rw [none_, List.map_nil, List.map_eq_nil_iff] at behind
        exact last behind
      rw [List.intercalate_cons_of_ne_nil last, List.intercalate_cons_of_ne_nil further, joined,
        joined, joined, joined, here, ih behind]

theorem holes_itemsTable (same : SameShape input other) :
    holes (itemsTable input) = holes (itemsTable other) := by
  have rows_ : holes (rows input.lines) = holes (rows other.lines) := by
    refine holes_intercalate (List.ext_getElem ?_ ?_)
    · simp [same.lines]
    · intro index first second
      simp only [List.getElem_map, List.getElem_mapIdx]
      rfl
  refine holes_flatten ?_
  simp only [List.map_cons, rows_]

theorem holes_totalsBlock (same : SameShape input other) :
    holes (totalsBlock input) = holes (totalsBlock other) := by
  rw [totalsBlock, totalsBlock, same.layout]
  split <;> rfl

theorem holes_notesBlock (same : SameShape input other) :
    holes (notesBlock input) = holes (notesBlock other) := by
  rw [notesBlock, notesBlock]
  by_cases hidden : input.settings.showNotes = false ∨ input.settings.notes = []
  · rw [if_pos hidden, if_pos (same.notes.mp hidden)]
  · rw [if_neg hidden, if_neg fun there => hidden (same.notes.mpr there)]
    rfl

theorem holes_document (same : SameShape input other) :
    holes (document toUpperCase input) = holes (document toUpperCase other) := by
  have logo := holes_logoMark toUpperCase same
  have address := holes_companyAddressBlock same
  have inner : holes (body toUpperCase input) = holes (body toUpperCase other) := by
    rw [body, body, same.layout]
    split <;>
      · refine holes_flatten ?_
        simp only [List.map_cons, logo, address, holes_billToAndDates same, holes_itemsTable same,
          holes_totalsBlock same, holes_notesBlock same]
        rfl
  refine holes_flatten ?_
  simp only [List.map_cons, inner]

/-- Values are read verbatim where the template has them, and no value adds or takes a tag. -/
theorem invoicePdf_injection_free (same : SameShape input other) :
    let reading (input : InvoicePdfHtmlInput) :=
      read htmlSigns outside (renderInvoicePdfHtml toUpperCase input)
    (reading input).1 = outside ∧
      (reading input).2 = (told htmlSigns outside (document toUpperCase input)).2 ∧
        tags (reading input).2 = tags (reading other).2 := by
  intro reading
  have one := read_html escapes (leads_document toUpperCase input)
  have two := read_html escapes (leads_document toUpperCase other)
  refine ⟨?_, ?_, ?_⟩
  · exact (congrArg Prod.fst one.1).trans one.2
  · exact congrArg Prod.snd one.1
  · simp only [reading, renderInvoicePdfHtml, one.1, two.1]
    exact tags_told (leads_document toUpperCase input) (holes_document toUpperCase same)

end Shape

/-! ## A document -/

def sampleInput (number itemName : CodeUnits) : InvoicePdfHtmlInput where
  number := number
  invoiceDate := ofString "2026-01-05"
  dueDate := ofString "2026-02-04"
  brand := ⟨ofString "North", ofString "#123456", none⟩
  customerName := number
  customerAddress := []
  settings := ⟨.modern, ofString "North", [], true, true, false, .net30, []⟩
  lines := [⟨itemName, ofString "1", ofString "$5.00", ofString "$5.00"⟩]
  subtotalLabel := ofString "$5.00"
  totalLabel := ofString "$5.00"
  balanceDueLabel := ofString "$5.00"

theorem invoicePdf_injection_free_sample :
    let hostile := sampleInput (ofString "\"><script>") (ofString "</td>&lt;")
    let reading (input : InvoicePdfHtmlInput) :=
      read htmlSigns outside (renderInvoicePdfHtml id input)
    (reading hostile).1 = outside ∧
      (reading hostile).2 = (told htmlSigns outside (document id hostile)).2 ∧
        tags (reading hostile).2 = tags (reading (sampleInput (ofString "7") [])).2 :=
  invoicePdf_injection_free id ⟨rfl, rfl, Iff.rfl, rfl, Iff.rfl, rfl⟩

end MultiBrandInvoicing.InvoicePdf
