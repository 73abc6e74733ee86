import MultiBrandInvoicing.Texts.Placeholders

/-!
# The template of the e-mail receipt

`renderEmailReceiptTemplate` in `packages/shared/src/domain/email-receipt-template.ts`: the five
placeholders are replaced one after another.
-/

set_option autoImplicit false

namespace MultiBrandInvoicing

namespace Receipts

inductive EmailReceiptLayout where
  | classic | hero | minimal
  deriving DecidableEq, Repr

structure EmailReceiptVariables where
  brandName : String
  customerName : String
  invoiceNumber : String
  amountDue : String
  dueDate : String
  deriving DecidableEq, Repr

inductive Placeholder where
  | brandName | customerName | invoiceNumber | amountDue | dueDate
  deriving DecidableEq, Repr

def token : Placeholder → String
  | .brandName => "\x7b\x7bbrand_name\x7d\x7d"
  | .customerName => "\x7b\x7bcustomer_name\x7d\x7d"
  | .invoiceNumber => "\x7b\x7binvoice_number\x7d\x7d"
  | .amountDue => "\x7b\x7bamount_due\x7d\x7d"
  | .dueDate => "\x7b\x7bdue_date\x7d\x7d"

def emailReceiptVariables : List Placeholder :=
  [.brandName, .customerName, .invoiceNumber, .amountDue, .dueDate]

def EmailReceiptVariables.value (values : EmailReceiptVariables) : Placeholder → String
  | .brandName => values.brandName
  | .customerName => values.customerName
  | .invoiceNumber => values.invoiceNumber
  | .amountDue => values.amountDue
  | .dueDate => values.dueDate

def replaceAll (text search replacement : String) : String :=
  String.ofList (Texts.replaceAll search.toList replacement.toList text.toList)

def renderEmailReceiptTemplate (template : String) (values : EmailReceiptVariables) :
    String :=
  let text := replaceAll template (token .brandName) values.brandName
  let text := replaceAll text (token .customerName) values.customerName
  let text := replaceAll text (token .invoiceNumber) values.invoiceNumber
  let text := replaceAll text (token .amountDue) values.amountDue
  replaceAll text (token .dueDate) values.dueDate

/-! ## What it is for -/

def tokenChars (placeholder : Placeholder) : List Char := (token placeholder).toList

def EmailReceiptVariables.chars (values : EmailReceiptVariables) (placeholder : Placeholder) :
    List Char := (values.value placeholder).toList

/-- Each placeholder replaced by its value as given, and everything else unchanged. -/
def renderedVerbatim (template : String) (values : EmailReceiptVariables) : String :=
  String.ofList
    (Texts.substituted tokenChars emailReceiptVariables values.chars template.toList)

/-- The values that the template asks for refer to nothing, and no replacement lets a later
placeholder appear that the template does not have. -/
structure IsHarmless (template : String) (values : EmailReceiptVariables) : Prop where
  literal : Texts.IsLiteralIn tokenChars emailReceiptVariables values.chars template.toList
  undisturbed :
    Texts.IsUndisturbed tokenChars emailReceiptVariables values.chars template.toList

theorem mem_emailReceiptVariables (placeholder : Placeholder) :
    placeholder ∈ emailReceiptVariables := by
  cases placeholder <;> decide

theorem tokens_apart : Texts.Apart tokenChars where
  some_ := by
    have each : ∀ placeholder ∈ emailReceiptVariables, tokenChars placeholder ≠ [] := by
      decide +kernel
    exact fun placeholder => each placeholder (mem_emailReceiptVariables placeholder)
  apart := by
    have each : ∀ placeholder ∈ emailReceiptVariables, ∀ other ∈ emailReceiptVariables,
        ∀ inside < (tokenChars placeholder).length, (inside ≠ 0 ∨ other ≠ placeholder) →
          ¬tokenChars other <+: (tokenChars placeholder).drop inside ∧
            ¬(tokenChars placeholder).drop inside <+: tokenChars other := by
      decide +kernel
    exact fun placeholder other =>
      each placeholder (mem_emailReceiptVariables placeholder) other
        (mem_emailReceiptVariables other)

theorem toList_replaceAll (text search replacement : String) :
    (replaceAll text search replacement).toList =
      Texts.replaceAll search.toList replacement.toList text.toList :=
  String.toList_ofList

theorem toList_render (template : String) (values : EmailReceiptVariables) :
    (renderEmailReceiptTemplate template values).toList =
      emailReceiptVariables.foldl (fun text placeholder =>
        Texts.replaceAll (tokenChars placeholder) (values.chars placeholder) text)
        template.toList := by
  simp only [renderEmailReceiptTemplate, toList_replaceAll]
  rfl

/-- One of the replacements is verbatim in every text exactly if the value has no `$` that the
language takes for a reference. -/
theorem replacement_verbatim_iff (placeholder : Placeholder) (value : List Char) :
    (∀ text, Texts.replaceAll (tokenChars placeholder) value text =
        Texts.write (Texts.onlyFor tokenChars placeholder value)
          (Texts.read tokenChars [placeholder] 0 text)) ↔
      Texts.isLiteral value = true := by
  have begins : ∀ placeholder ∈ emailReceiptVariables,
      tokenChars placeholder = Char.ofNat 123 :: (tokenChars placeholder).tail := by
    decide +kernel
  exact Texts.replaceAll_verbatim_iff tokens_apart
    (begins placeholder (mem_emailReceiptVariables placeholder)) (by decide) (by decide) value

/-- Where the values are harmless in the template, it is rendered verbatim and at once. -/
theorem rendered_verbatim {template : String} {values : EmailReceiptVariables}
    (harmless : IsHarmless template values) :
    renderEmailReceiptTemplate template values = renderedVerbatim template values := by
  have turns := Texts.replaced_in_turn tokens_apart harmless.literal harmless.undisturbed
  rw [← toList_render] at turns
  rw [renderedVerbatim, ← turns, String.ofList_toList]

def sampleVariables : EmailReceiptVariables where
  brandName := "Acme"
  customerName := "$& Sons"
  invoiceNumber := "INV-1"
  amountDue := "$5.00"
  dueDate := "1 May"

/-- A customer's name that refers to the match, and a brand's that is another placeholder. -/
theorem reference_expanded :
    renderEmailReceiptTemplate (token .customerName) sampleVariables ≠
        renderedVerbatim (token .customerName) sampleVariables ∧
      renderEmailReceiptTemplate (token .brandName)
          { sampleVariables with brandName := token .dueDate } ≠
        renderedVerbatim (token .brandName)
          { sampleVariables with brandName := token .dueDate } := by
  decide +kernel

theorem rendered_verbatim_sample :
    renderEmailReceiptTemplate (token .amountDue ++ token .brandName) sampleVariables =
      renderedVerbatim (token .amountDue ++ token .brandName) sampleVariables :=
  rendered_verbatim ⟨by unfold Texts.IsLiteralIn; decide +kernel, by
    unfold Texts.IsUndisturbed; decide +kernel⟩

/-- Two disturbances can cancel out: the reference loses the dollar sign that the placeholder
inserted with it brings back. -/
theorem harmless_not_necessary :
    ∃ values, ¬IsHarmless (token .brandName) values ∧
      renderEmailReceiptTemplate (token .brandName) values =
        renderedVerbatim (token .brandName) values := by
  refine ⟨{ sampleVariables with
    brandName := "$$" ++ token .dueDate
    dueDate := "$" ++ token .dueDate }, fun harmless => ?_, by decide +kernel⟩
  have literal := harmless.literal .brandName (by decide) (by decide +kernel)
  revert literal
  decide +kernel

end Receipts

end MultiBrandInvoicing
