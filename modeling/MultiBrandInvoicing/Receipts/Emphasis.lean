import MultiBrandInvoicing.Money.Minor
import MultiBrandInvoicing.Receipts.Template
import MultiBrandInvoicing.Texts.Alternation

/-!
# The emphasised values of the e-mail receipt

`emphasise` in `packages/shared/src/domain/email-receipt-html.ts`: the values are found in a line
that has been substituted already, by a pattern made of them, and every part of the line is
escaped on its own.
-/

set_option autoImplicit false

namespace MultiBrandInvoicing

namespace Receipts

/-! ## Escaping -/

def quotationMark : Char := Char.ofNat 34

def replaceChar (char : Char) (by_ : List Char) (text : List Char) : List Char :=
  text.flatMap fun other => if other = char then by_ else [other]

def escapeHtml (value : List Char) : List Char :=
  let value := replaceChar '&' "&amp;".toList value
  let value := replaceChar '<' "&lt;".toList value
  let value := replaceChar '>' "&gt;".toList value
  replaceChar quotationMark "&quot;".toList value

def escaped (char : Char) : List Char :=
  if char = '&' then "&amp;".toList
  else if char = '<' then "&lt;".toList
  else if char = '>' then "&gt;".toList
  else if char = quotationMark then "&quot;".toList
  else [char]

theorem replaceChar_append (char : Char) (by_ first second : List Char) :
    replaceChar char by_ (first ++ second) =
      replaceChar char by_ first ++ replaceChar char by_ second :=
  List.flatMap_append

theorem replaceChar_other {char other : Char} (different : ¬other = char) (by_ : List Char) :
    replaceChar char by_ [other] = [other] := by
  simp [replaceChar, different]

theorem escapeHtml_append (first second : List Char) :
    escapeHtml (first ++ second) = escapeHtml first ++ escapeHtml second := by
  simp only [escapeHtml, replaceChar_append]

theorem escapeHtml_singleton (char : Char) : escapeHtml [char] = escaped char := by
  unfold escaped
  split_ifs with ampersand less greater quote
  · subst ampersand
    decide +kernel
  · subst less
    decide +kernel
  · subst greater
    decide +kernel
  · subst quote
    decide +kernel
  · rw [escapeHtml, replaceChar_other ampersand, replaceChar_other less,
      replaceChar_other greater, replaceChar_other quote]

theorem escapeHtml_eq (value : List Char) : escapeHtml value = value.flatMap escaped := by
  induction value with
  | nil => rfl
  | cons char value ih =>
      rw [List.flatMap_cons, ← ih, ← escapeHtml_singleton, ← escapeHtml_append]
      rfl

def markupChars : List Char := ['<', '>', quotationMark]

def isPlain (text : List Char) : Bool := markupChars.all fun char => !text.contains char

theorem not_mem_of_isPlain {text : List Char} (plain : isPlain text = true) {char : Char}
    (special : char ∈ markupChars) : char ∉ text := by
  have each := List.all_eq_true.mp plain char special
  simpa using each

theorem not_mem_escaped {char : Char} (special : char ∈ markupChars) (other : Char) :
    char ∉ escaped other := by
  unfold escaped
  split_ifs with ampersand less greater quote
  · exact not_mem_of_isPlain (by decide +kernel) special
  · exact not_mem_of_isPlain (by decide +kernel) special
  · exact not_mem_of_isPlain (by decide +kernel) special
  · exact not_mem_of_isPlain (by decide +kernel) special
  · intro member
    rw [List.mem_singleton.mp member] at special
    simp [markupChars, less, greater, quote] at special

theorem not_mem_escapeHtml {char : Char} (special : char ∈ markupChars) (value : List Char) :
    char ∉ escapeHtml value := by
  rw [escapeHtml_eq, List.mem_flatMap]
  intro ⟨other, _, member⟩
  exact not_mem_escaped special other member

/-! ## Emphasising -/

def openingTag (style : String) : List Char :=
  "<strong style=\"".toList ++ style.toList ++ "\">".toList

def closingTag : List Char := "</strong>".toList

def partHtml (values : List String) (style : String) (part : List Char) : List Char :=
  if values.contains (String.ofList part) then
    openingTag style ++ escapeHtml part ++ closingTag
  else escapeHtml part

/-- No result where the pattern is none. -/
def emphasise (line : String) (values : List String) (style : String) : Option String :=
  if values = [] then some (String.ofList (escapeHtml line.toList))
  else
    (Texts.readPattern (Texts.alternation (values.map String.toList))).map fun alternatives =>
      String.ofList
        (((Texts.split alternatives line.toList).filter fun part => 0 < part.length).flatMap
          (partHtml values style))

/-! ## The values and the styles -/

structure EmphasisInput where
  invoiceNumber : String
  amountDue : String
  dueDate : String
  customerName : Option String
  brandName : Option String
  deriving DecidableEq, Repr

/-- The length of a text in the language: its UTF-16 code units. -/
def codeUnits (text : List Char) : Nat :=
  (text.map fun char => if char.toNat < 0x10000 then 1 else 2).sum

/-- The longest first; those of one length stay in their order. -/
def emphasisValues (input : EmphasisInput) : List String :=
  (([some input.invoiceNumber, some input.amountDue, some input.dueDate, input.customerName,
      input.brandName].filterMap id).filter fun value =>
        1 < codeUnits (trim value.toList)).mergeSort fun first second =>
          codeUnits second.toList ≤ codeUnits first.toList

/-- Where the renderer emphasises: in the body, or in the subject in the colour of the theme. -/
inductive EmphasisUse where
  | body
  | subject (themeColor : String)
  deriving DecidableEq, Repr

def EmphasisUse.style : EmphasisUse → String
  | .body => "font-weight:700;color:#0F172A;"
  | .subject themeColor => "color:" ++ String.ofList (escapeHtml themeColor.toList) ++ ";"

/-! ## The tags taken out again -/

/-- The text without its tags; `inside` is whether a tag has been opened. -/
def withoutTags : Bool → List Char → List Char
  | _, [] => []
  | true, char :: rest => withoutTags (char ≠ '>') rest
  | false, char :: rest =>
      if char = '<' then withoutTags true rest else char :: withoutTags false rest

theorem withoutTags_text {text : List Char} (plain : '<' ∉ text) (rest : List Char) :
    withoutTags false (text ++ rest) = text ++ withoutTags false rest := by
  induction text with
  | nil => rfl
  | cons char text ih =>
      rw [List.mem_cons, not_or] at plain
      have here : ¬char = '<' := fun same => plain.1 same.symm
      rw [List.cons_append, withoutTags, if_neg here, ih plain.2, List.cons_append]

theorem withoutTags_tag {name : List Char} (plain : '>' ∉ name) (rest : List Char) :
    withoutTags false ('<' :: (name ++ '>' :: rest)) = withoutTags false rest := by
  have inside : withoutTags true (name ++ '>' :: rest) = withoutTags false rest := by
    induction name with
    | nil => simp [withoutTags]
    | cons char name ih =>
        rw [List.mem_cons, not_or] at plain
        have here : char ≠ '>' := fun same => plain.1 same.symm
        rw [List.cons_append, withoutTags, decide_eq_true here, ih plain.2]
  rw [withoutTags, if_pos rfl, inside]

/-- Nothing in a style ends the attribute or the tag that it stands in. -/
theorem EmphasisUse.style_plain (use : EmphasisUse) {char : Char} (special : char ∈ markupChars) :
    char ∉ use.style.toList := by
  cases use with
  | body => exact not_mem_of_isPlain (by decide +kernel) special
  | subject themeColor =>
      have before : char ∉ "color:".toList := not_mem_of_isPlain (by decide +kernel) special
      have escaped := not_mem_escapeHtml special themeColor.toList
      have after : char ∉ ";".toList := not_mem_of_isPlain (by decide +kernel) special
      simp only [EmphasisUse.style, String.toList_append, String.toList_ofList, List.mem_append]
      intro member
      obtain (member | member) | member := member
      · exact before member
      · exact escaped member
      · exact after member

/-! ## Nothing is injected -/

theorem withoutTags_attribute {before style after : List Char}
    (plain : '>' ∉ before ++ style ++ after) (rest : List Char) :
    withoutTags false ('<' :: before ++ style ++ (after ++ ['>']) ++ rest) =
      withoutTags false rest := by
  have tag := withoutTags_tag plain rest
  simp only [List.append_assoc] at tag
  simp only [List.append_assoc, List.cons_append, List.nil_append, tag]

theorem withoutTags_openingTag (use : EmphasisUse) (rest : List Char) :
    withoutTags false (openingTag use.style ++ rest) = withoutTags false rest := by
  have start : "<strong style=\"".toList = '<' :: "strong style=\"".toList := by decide +kernel
  have stop : "\">".toList = "\"".toList ++ ['>'] := by decide +kernel
  have style : '>' ∉ use.style.toList := use.style_plain (by decide)
  have around : '>' ∉ "strong style=\"".toList ∧ '>' ∉ "\"".toList := by decide +kernel
  have name : '>' ∉ "strong style=\"".toList ++ use.style.toList ++ "\"".toList := by
    rw [List.mem_append, List.mem_append, not_or, not_or]
    exact ⟨⟨around.1, style⟩, around.2⟩
  have opening : openingTag use.style =
      '<' :: "strong style=\"".toList ++ use.style.toList ++ ("\"".toList ++ ['>']) :=
    congrArg₂ (· ++ ·) (congrArg (· ++ use.style.toList) start) stop
  calc withoutTags false (openingTag use.style ++ rest)
      = withoutTags false ('<' :: "strong style=\"".toList ++ use.style.toList ++
          ("\"".toList ++ ['>']) ++ rest) :=
        congrArg (fun tag => withoutTags false (tag ++ rest)) opening
    _ = withoutTags false rest := withoutTags_attribute name rest

theorem withoutTags_closingTag (rest : List Char) :
    withoutTags false (closingTag ++ rest) = withoutTags false rest := by
  have name : '>' ∉ "/strong".toList := by decide +kernel
  have closing : closingTag = '<' :: ("/strong".toList ++ ['>']) := by decide +kernel
  rw [closing, List.cons_append, List.append_assoc, List.singleton_append]
  exact withoutTags_tag name rest

theorem withoutTags_partHtml (values : List String) (use : EmphasisUse) (part rest : List Char) :
    withoutTags false (partHtml values use.style part ++ rest) =
      escapeHtml part ++ withoutTags false rest := by
  have plain : '<' ∉ escapeHtml part := not_mem_escapeHtml (by decide) part
  unfold partHtml
  split_ifs with emphasised
  · rw [List.append_assoc, List.append_assoc, withoutTags_openingTag, withoutTags_text plain,
      withoutTags_closingTag]
  · exact withoutTags_text plain rest

theorem withoutTags_parts (values : List String) (use : EmphasisUse) (parts : List (List Char)) :
    withoutTags false (parts.flatMap (partHtml values use.style)) =
      escapeHtml parts.flatten := by
  induction parts with
  | nil => rfl
  | cons part parts ih =>
      rw [List.flatMap_cons, withoutTags_partHtml, ih, List.flatten_cons, escapeHtml_append]

theorem flatten_filter_length (parts : List (List Char)) :
    (parts.filter fun part => 0 < part.length).flatten = parts.flatten := by
  induction parts with
  | nil => rfl
  | cons part parts ih =>
      cases part with
      | nil => simpa using ih
      | cons char part => simpa using ih

theorem emphasise_parts (line : String) (values : List String) (style : String) :
    ∃ parts : List (List Char), parts.flatten = line.toList ∧
      emphasise line values style =
        some (String.ofList (parts.flatMap (partHtml values style))) := by
  by_cases none_ : values = []
  · have shown : [line.toList].flatMap (partHtml values style) = escapeHtml line.toList := by
      subst none_
      simp [partHtml]
    exact ⟨[line.toList], by simp, by rw [shown, emphasise, if_pos none_]⟩
  · have some_ : values.map String.toList ≠ [] := by simpa using none_
    have joined := Texts.flatten_split (values.map String.toList) line.toList
    rw [← flatten_filter_length] at joined
    have read := Texts.readPattern_alternation some_
    exact ⟨_, joined, by rw [emphasise, if_neg none_, read, Option.map_some]⟩

/-- For every line and every list of values, the mail is made of the parts of the line, each of
them escaped and between the two tags where it is a value.  Without its tags it is the line
escaped, and no character of the line opens or closes a tag or an attribute. -/
theorem emphasise_injection_free (line : String) (values : List String) (use : EmphasisUse) :
    ∃ parts : List (List Char), parts.flatten = line.toList ∧
      emphasise line values use.style =
        some (String.ofList (parts.flatMap fun part =>
          if values.contains (String.ofList part) then
            openingTag use.style ++ escapeHtml part ++ closingTag
          else escapeHtml part)) ∧
      (∀ mail, emphasise line values use.style = some mail →
        withoutTags false mail.toList = escapeHtml line.toList) ∧
      ∀ part ∈ parts, ∀ special ∈ markupChars, special ∉ escapeHtml part := by
  obtain ⟨parts, joined, shown⟩ := emphasise_parts line values use.style
  have without : ∀ mail, emphasise line values use.style = some mail →
      withoutTags false mail.toList = escapeHtml line.toList := by
    intro mail same
    rw [shown, Option.some.injEq] at same
    rw [← same, String.toList_ofList, withoutTags_parts, joined]
  have plain : ∀ part ∈ parts, ∀ special ∈ markupChars, special ∉ escapeHtml part := by
    intro part _ special member
    exact not_mem_escapeHtml member part
  exact ⟨parts, joined, shown, without, plain⟩

/-- One value is the start of another and both hold characters that mean something to a pattern
or to a page: the longer one is emphasised where it stands. -/
example : emphasise "a<b.c & a<b" ["a<b.c", "a<b"] "s" =
    some ("<strong style=\"s\">a&lt;b.c</strong> &amp; " ++
      "<strong style=\"s\">a&lt;b</strong>") := by decide +kernel

end Receipts

end MultiBrandInvoicing
