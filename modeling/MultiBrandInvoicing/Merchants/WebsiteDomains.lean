import Mathlib.Data.List.DropRight
import MultiBrandInvoicing.Money.AmountText
import MultiBrandInvoicing.Receipts.Emphasis
import MultiBrandInvoicing.Texts.LowerCase

/-!
# Website domains of companies

`normalizeWebsiteDomain` of `packages/shared/src/domain/company-domain.ts` and `websiteSchema` of
`packages/shared/src/schemas/entities.ts`.  What is stripped from an address is stripped once.
-/

set_option autoImplicit false

namespace MultiBrandInvoicing

namespace WebsiteDomains

open Texts

/-! ## The domain of an address -/

def isSmallLetter (char : Char) : Bool := 'a' ≤ char && char ≤ 'z'

def isAlphanumeric (char : Char) : Bool := isSmallLetter char || char.isDigit

def isSchemeCharacter (char : Char) : Bool :=
  isAlphanumeric char || ['+', '.', '-'].contains char

/-- `/^[a-z][a-z0-9+.-]*:\/\//` is cut off. -/
def dropScheme (text : List Char) : List Char :=
  let rest := text.dropWhile isSchemeCharacter
  if text.head?.any isSmallLetter && [':', '/', '/'].isPrefixOf rest then rest.drop 3 else text

/-- What ends the host of an address. -/
def hostMarks : List Char := ['/', '?', '#']

/-- `split(/[/?#]/)[0]`. -/
def hostPart (text : List Char) : List Char :=
  text.takeWhile fun char => !hostMarks.contains char

def www : List Char := ['w', 'w', 'w', '.']

def dropWww (text : List Char) : List Char := if www.isPrefixOf text then text.drop 4 else text

/-- `/:\d+$/` is cut off. -/
def dropPort (text : List Char) : List Char :=
  let rest := text.reverse.dropWhile Char.isDigit
  if rest.length < text.length ∧ rest.head? = some ':' then rest.tail.reverse else text

def dropDot (text : List Char) : List Char :=
  if text.getLast? = some '.' then text.dropLast else text

/-- `[a-z0-9](?:[a-z0-9-]{0,61}[a-z0-9])?`. -/
def isLabel (label : List Char) : Bool :=
  label.head?.any isAlphanumeric && label.getLast?.any isAlphanumeric && label.length ≤ 63 &&
    label.all fun char => isAlphanumeric char || char = '-'

def isTopLevel (label : List Char) : Bool :=
  2 ≤ label.length && label.length ≤ 63 && label.all isSmallLetter

/-- `DOMAIN_PATTERN`: labels, each before a dot, and a top level. -/
def isDomain (text : List Char) : Bool :=
  match (text.splitOn '.').reverse with
  | [] => false
  | topLevel :: labels => !labels.isEmpty && labels.all isLabel && isTopLevel topLevel

/-- `endsWord` says where a word ends, for the small letter of a capital sigma. -/
def normalizeWebsiteDomain (endsWord : List Char → List Char → Bool) (input : String) :
    Option String :=
  let value := toLowerCase endsWord (trim input.toList)
  if value.isEmpty then none
  else
    let value := dropDot (dropPort (dropWww (hostPart (dropScheme value))))
    if isDomain value then some (String.ofList value) else none

/-- `none` where the schema refuses; a missing website passes as it is. -/
def websiteSchema (endsWord : List Char → List Char → Bool) :
    Option String → Option (Option String)
  | none => some none
  | some value =>
      let value := String.ofList (trim value.toList)
      if 253 < Receipts.codeUnits value.toList then none
      else (normalizeWebsiteDomain endsWord value).map some

example : normalizeWebsiteDomain (fun _ _ => false) " https://www.Acme.com:8080/about?x " =
    some "acme.com" := by decide +kernel

/-! ## What a domain is made of -/

/-- What a domain is written with: all of it is small ASCII. -/
def isDomainCharacter (char : Char) : Bool := isAlphanumeric char || char = '-' || char = '.'

theorem toNat_of_domain {char : Char} (plain : isDomainCharacter char = true) :
    45 ≤ char.toNat ∧ char.toNat ≤ 46 ∨ 48 ≤ char.toNat ∧ char.toNat ≤ 57 ∨
      97 ≤ char.toNat ∧ char.toNat ≤ 122 := by
  simp only [isDomainCharacter, isAlphanumeric, isSmallLetter, Bool.or_eq_true, Bool.and_eq_true,
    decide_eq_true_eq] at plain
  rcases plain with ((letter | digit) | hyphen) | dot
  · exact .inr (.inr letter)
  · right
    left
    simpa [Char.isDigit, UInt32.le_iff_toNat_le] using digit
  · rw [hyphen]
    decide
  · rw [dot]
    decide

theorem plain_of_domain {char : Char} (plain : isDomainCharacter char = true) :
    isTrimmed char = false ∧ isSmallAscii char = true ∧
      hostMarks.contains char = false ∧ char ≠ ':' := by
  have range := toNat_of_domain plain
  have other : ∀ mark : Char, mark.toNat < 45 ∨ mark.toNat = 47 ∨ 57 < mark.toNat ∧
      mark.toNat < 97 → char ≠ mark := by
    intro mark outside same
    rw [same] at range
    omega
  have upper : char.isUpper = false := by
    rw [← Bool.not_eq_true, isUpper_iff]
    omega
  refine ⟨?_, ?_, ?_, other ':' (by decide)⟩
  · simp only [isTrimmed, List.contains_eq_mem, List.mem_cons, List.not_mem_nil, or_false,
      Bool.or_eq_false_iff, Bool.and_eq_false_iff, decide_eq_false_iff_not]
    omega
  · rw [isSmallAscii, isAscii, upper]
    simp only [Bool.not_false, Bool.and_true, decide_eq_true_eq]
    omega
  · have slash := other '/' (by decide)
    have query := other '?' (by decide)
    have hash := other '#' (by decide)
    simp [hostMarks, slash, query, hash]

theorem intercalate_dots {P : Char → Prop} {labels : List (List Char)} {last : List Char}
    (some_ : labels ≠ []) (each : ∀ label ∈ labels, ∀ char ∈ label, P char) (dot : P '.') :
    ∃ front, ['.'].intercalate (labels ++ [last]) = front ++ '.' :: last ∧
      ∀ char ∈ front, P char := by
  induction labels with
  | nil => exact absurd rfl some_
  | cons label labels ih =>
      have first := each label List.mem_cons_self
      cases labels with
      | nil =>
          refine ⟨label, ?_, first⟩
          rw [List.singleton_append, List.intercalate_cons_cons, List.intercalate_singleton,
            List.append_assoc]
          rfl
      | cons other labels =>
          have later : ∀ label ∈ other :: labels, ∀ char ∈ label, P char :=
            fun label member => each label (List.mem_cons_of_mem _ member)
          obtain ⟨front, joined, plain⟩ := ih (List.cons_ne_nil _ _) later
          refine ⟨label ++ '.' :: front, ?_, ?_⟩
          · rw [List.cons_append, List.intercalate_cons_of_ne_nil (by simp), joined]
            simp
          · intro char member
            rcases List.mem_append.mp member with member | member
            · exact first char member
            · rcases List.mem_cons.mp member with rfl | member
              · exact dot
              · exact plain char member

theorem shape_of_isDomain {text : List Char} (domain : isDomain text = true) :
    ∃ front topLevel, text = front ++ '.' :: topLevel ∧ isTopLevel topLevel = true ∧
      ∀ char ∈ front, isDomainCharacter char = true := by
  unfold isDomain at domain
  split at domain
  next => cases domain
  next topLevel labels parts =>
    simp only [Bool.and_eq_true, Bool.not_eq_true', List.isEmpty_eq_false_iff,
      List.all_eq_true] at domain
    obtain ⟨⟨some_, each⟩, top⟩ := domain
    have order : text.splitOn '.' = labels.reverse ++ [topLevel] := by
      rw [← List.reverse_cons, ← parts, List.reverse_reverse]
    have label : ∀ label ∈ labels.reverse, ∀ char ∈ label, isDomainCharacter char = true := by
      intro label member char here
      have checked := each label (List.mem_reverse.mp member)
      simp only [isLabel, Bool.and_eq_true, List.all_eq_true, Bool.or_eq_true] at checked
      rw [isDomainCharacter, Bool.or_eq_true, Bool.or_eq_true]
      exact .inl (checked.2 char here)
    have labels_ : labels.reverse ≠ [] := fun none_ => some_ (List.reverse_eq_nil_iff.mp none_)
    obtain ⟨front, joined, plain⟩ :
        ∃ front, ['.'].intercalate (labels.reverse ++ [topLevel]) = front ++ '.' :: topLevel ∧
          ∀ char ∈ front, isDomainCharacter char = true :=
      intercalate_dots labels_ label (by decide)
    rw [← order, List.intercalate_splitOn] at joined
    exact ⟨front, topLevel, joined, top, plain⟩

section Domain

variable {text : List Char} (domain : isDomain text = true)

include domain

theorem plain_of_isDomain : ∀ char ∈ text, isDomainCharacter char = true := by
  obtain ⟨front, topLevel, rfl, top, plain⟩ := shape_of_isDomain domain
  simp only [isTopLevel, Bool.and_eq_true, List.all_eq_true] at top
  intro char member
  rcases List.mem_append.mp member with member | member
  · exact plain char member
  · rcases List.mem_cons.mp member with rfl | member
    · decide
    · rw [isDomainCharacter, isAlphanumeric, top.2 char member]
      rfl

theorem dot_mem_of_isDomain : '.' ∈ text := by
  obtain ⟨front, topLevel, rfl, _, _⟩ := shape_of_isDomain domain
  exact List.mem_append_right front List.mem_cons_self

/-- A domain ends in a letter. -/
theorem getLast?_of_isDomain : text.getLast? ≠ some '.' := by
  obtain ⟨front, topLevel, rfl, top, _⟩ := shape_of_isDomain domain
  simp only [isTopLevel, Bool.and_eq_true, List.all_eq_true, decide_eq_true_eq] at top
  intro last
  have some_ : topLevel ≠ [] := by
    intro none_
    rw [none_] at top
    exact absurd top.1.1 (by decide)
  rw [List.getLast?_append_cons, List.getLast?_cons_of_ne_nil some_] at last
  have letter := top.2 '.' (List.mem_of_getLast? last)
  revert letter
  decide

theorem not_colon_of_isDomain : ':' ∉ text := by
  intro colon
  have other := (plain_of_domain (plain_of_isDomain domain ':' colon)).2.2.2
  exact other rfl

end Domain

/-! ## What a domain loses when it is normalized again -/

theorem dropScheme_self {text : List Char} (noColon : ':' ∉ text) : dropScheme text = text := by
  have noScheme : ([':', '/', '/'].isPrefixOf (text.dropWhile isSchemeCharacter)) = false := by
    rw [← Bool.not_eq_true, List.isPrefixOf_iff_prefix]
    intro marks
    have colon := (marks.sublist.trans (List.dropWhile_suffix _).sublist).subset List.mem_cons_self
    exact noColon colon
  simp [dropScheme, noScheme]

theorem dropPort_self {text : List Char} (noColon : ':' ∉ text) : dropPort text = text := by
  have noPort : (text.reverse.dropWhile Char.isDigit).head? ≠ some ':' := by
    intro first
    have colon := (List.dropWhile_suffix Char.isDigit).subset (List.mem_of_mem_head? first)
    exact noColon (List.mem_reverse.mp colon)
  simp [dropPort, noPort]

/-- Only a leading `www.` is stripped from a domain. -/
theorem normalizeWebsiteDomain_domain (endsWord : List Char → List Char → Bool)
    {text : List Char} (domain : isDomain text = true) :
    normalizeWebsiteDomain endsWord (String.ofList text) =
      if isDomain (dropWww text) then some (String.ofList (dropWww text)) else none := by
  have plain := plain_of_isDomain domain
  have noColon := not_colon_of_isDomain domain
  have kept : trim text = text :=
    trim_eq_self fun char member => (plain_of_domain (plain char member)).1
  have small : toLowerCase endsWord text = text :=
    toLowerCase_self endsWord fun char member => (plain_of_domain (plain char member)).2.1
  have host : hostPart text = text := by
    rw [hostPart, List.takeWhile_eq_self_iff]
    intro char member
    rw [(plain_of_domain (plain char member)).2.2.1]
    rfl
  have some_ : text.isEmpty = false := by
    rw [List.isEmpty_eq_false_iff]
    exact List.ne_nil_of_mem (dot_mem_of_isDomain domain)
  have noPort : dropPort (dropWww text) = dropWww text := by
    apply dropPort_self
    unfold dropWww
    split
    next => exact fun colon => noColon (List.mem_of_mem_drop colon)
    next => exact noColon
  have noDot : dropDot (dropWww text) = dropWww text := by
    have last : (dropWww text).getLast? ≠ some '.' := by
      unfold dropWww
      split
      next =>
        rw [List.getLast?_drop]
        split
        next => simp
        next => exact getLast?_of_isDomain domain
      next => exact getLast?_of_isDomain domain
    rw [dropDot, if_neg last]
  simp only [normalizeWebsiteDomain, String.toList_ofList, kept, small, some_,
    dropScheme_self noColon, host, noPort, noDot, Bool.false_eq_true, if_false]

/-- A domain that begins with `www.` is not its own normal form. -/
theorem normalized_self_iff (endsWord : List Char → List Char → Bool) {text : List Char}
    (domain : isDomain text = true) :
    normalizeWebsiteDomain endsWord (String.ofList text) = some (String.ofList text) ↔
      ¬www <+: text := by
  rw [normalizeWebsiteDomain_domain endsWord domain, dropWww]
  by_cases leading : www <+: text
  · have shorter : String.ofList (text.drop 4) ≠ String.ofList text := by
      intro same
      have length := congrArg List.length (String.ofList_injective same)
      have four : 4 ≤ text.length := leading.length_le
      rw [List.length_drop] at length
      omega
    rw [if_pos (List.isPrefixOf_iff_prefix.mpr leading)]
    split
    next => simp [shorter, leading]
    next => simp [leading]
  · rw [if_neg fun found => leading (List.isPrefixOf_iff_prefix.mp found), domain]
    simp [leading]

/-! ## What is left of an address -/

theorem dropPort_begins (text : List Char) : dropPort text <+: text := by
  unfold dropPort
  dsimp only
  split
  next =>
    rw [← List.reverse_suffix, List.reverse_reverse]
    exact (List.tail_suffix _).trans (List.dropWhile_suffix _)
  next => exact List.prefix_rfl

theorem dropDot_begins (text : List Char) : dropDot text <+: text := by
  unfold dropDot
  split
  next => exact List.dropLast_prefix text
  next => exact List.prefix_rfl

/-- What passes for a domain begins with `www.` exactly if the host begins with two of them. -/
theorem www_prefix_iff {host : List Char}
    (domain : isDomain (dropDot (dropPort (dropWww host))) = true) :
    www <+: dropDot (dropPort (dropWww host)) ↔ www ++ www <+: host := by
  have front : dropDot (dropPort (dropWww host)) <+: dropWww host :=
    (dropDot_begins _).trans (dropPort_begins _)
  constructor
  · intro leading
    have again := leading.trans front
    by_cases first : www <+: host
    · obtain ⟨rest, rfl⟩ := first
      rw [dropWww, if_pos (List.isPrefixOf_iff_prefix.mpr (List.prefix_append www rest))] at again
      exact (List.prefix_append_right_inj www).mpr again
    · rw [dropWww, if_neg fun found => first (List.isPrefixOf_iff_prefix.mp found)] at again
      exact absurd again first
  · intro ⟨rest, twice⟩
    have stripped : dropWww host = www ++ rest := by
      rw [← twice, List.append_assoc, dropWww,
        if_pos (List.isPrefixOf_iff_prefix.mpr (List.prefix_append www _))]
      rfl
    rcases List.prefix_or_prefix_of_prefix front (stripped ▸ List.prefix_append www rest) with
      short | leading
    · -- A domain has a dot, and the only one of `www.` is its last.
      have parts : ∀ part ∈ www.inits, '.' ∈ part → part = www := by decide
      have whole := parts _ (List.mem_inits _ _ |>.mpr short) (dot_mem_of_isDomain domain)
      rw [whole]
    · exact leading

/-! ## Addresses that repeat `www.` -/

def IsScheme (text : List Char) : Prop :=
  ∃ first rest, text = first :: rest ++ [':', '/', '/'] ∧ isSmallLetter first = true ∧
    ∀ char ∈ rest, isSchemeCharacter char = true

def IsWithoutScheme (text rest : List Char) : Prop :=
  (∃ scheme, IsScheme scheme ∧ text = scheme ++ rest) ∨
    rest = text ∧ ¬∃ scheme other, IsScheme scheme ∧ text = scheme ++ other

/-- After its scheme the address begins with `www.www.`. -/
def RepeatsWww (endsWord : List Char → List Char → Bool) (input : String) : Prop :=
  ∃ rest, IsWithoutScheme (toLowerCase endsWord (trim input.toList)) (www ++ www ++ rest)

theorem dropScheme_of_scheme {scheme rest : List Char} (isScheme : IsScheme scheme) :
    dropScheme (scheme ++ rest) = rest := by
  obtain ⟨first, name, rfl, letter, each⟩ := isScheme
  have all : ∀ char ∈ first :: name, isSchemeCharacter char = true := by
    intro char member
    rcases List.mem_cons.mp member with rfl | member
    · rw [isSchemeCharacter, isAlphanumeric, letter]
      rfl
    · exact each char member
  have colon : isSchemeCharacter ':' = false := by decide
  have marks : ((first :: name ++ [':', '/', '/']) ++ rest).dropWhile isSchemeCharacter =
      [':', '/', '/'] ++ rest := by
    rw [List.append_assoc, List.dropWhile_append_of_pos all]
    simp [colon]
  have head : ((first :: name ++ [':', '/', '/']) ++ rest).head?.any isSmallLetter = true := by
    simpa using letter
  have isMarks : [':', '/', '/'].isPrefixOf ([':', '/', '/'] ++ rest) = true :=
    List.isPrefixOf_iff_prefix.mpr (List.prefix_append _ _)
  rw [dropScheme, marks, head, isMarks]
  rfl

theorem dropScheme_cases (text : List Char) :
    (∃ scheme, IsScheme scheme ∧ text = scheme ++ dropScheme text) ∨ dropScheme text = text := by
  by_cases found : (text.head?.any isSmallLetter &&
      [':', '/', '/'].isPrefixOf (text.dropWhile isSchemeCharacter)) = true
  · obtain ⟨letter, marks⟩ := Bool.and_eq_true_iff.mp found
    obtain ⟨rest, after⟩ := List.isPrefixOf_iff_prefix.mp marks
    have whole : text.takeWhile isSchemeCharacter ++ [':', '/', '/'] ++ rest = text := by
      rw [List.append_assoc, after, List.takeWhile_append_dropWhile]
    have left : dropScheme text = rest := by
      rw [dropScheme, if_pos found, ← after]
      rfl
    cases text with
    | nil => cases letter
    | cons first others =>
        have letter : isSmallLetter first = true := letter
        have known : isSchemeCharacter first = true := by
          rw [isSchemeCharacter, isAlphanumeric, letter]
          rfl
        rw [List.takeWhile_cons_of_pos known] at whole
        refine .inl ⟨_, ⟨first, others.takeWhile isSchemeCharacter, rfl, letter, ?_⟩, ?_⟩
        · intro char member
          exact List.mem_takeWhile_imp member
        · rw [left, whole]
  · exact .inr (by rw [dropScheme, if_neg found])

theorem isWithoutScheme_iff {text rest : List Char} :
    IsWithoutScheme text rest ↔ dropScheme text = rest := by
  constructor
  · intro without
    rcases without with ⟨scheme, isScheme, rfl⟩ | ⟨rfl, none_⟩
    · exact dropScheme_of_scheme isScheme
    · rcases dropScheme_cases rest with ⟨scheme, isScheme, same⟩ | same
      · exact absurd ⟨scheme, _, isScheme, same⟩ none_
      · exact same
  · intro left
    by_cases some_ : ∃ scheme other, IsScheme scheme ∧ text = scheme ++ other
    · obtain ⟨scheme, other, isScheme, rfl⟩ := some_
      rw [dropScheme_of_scheme isScheme] at left
      exact .inl ⟨scheme, isScheme, by rw [left]⟩
    · rcases dropScheme_cases text with ⟨scheme, isScheme, same⟩ | same
      · exact absurd ⟨scheme, _, isScheme, same⟩ some_
      · exact .inr ⟨left.symm.trans same, some_⟩

theorem repeatsWww_iff {endsWord : List Char → List Char → Bool} {input : String} :
    RepeatsWww endsWord input ↔
      www ++ www <+: hostPart (dropScheme (toLowerCase endsWord (trim input.toList))) := by
  have unmarked : ∀ char ∈ www ++ www, (!hostMarks.contains char) = true :=
    List.all_eq_true.mp (by decide)
  constructor
  · intro ⟨rest, without⟩
    rw [isWithoutScheme_iff.mp without, hostPart, List.takeWhile_append_of_pos unmarked]
    exact List.prefix_append _ _
  · intro leading
    obtain ⟨rest, whole⟩ := leading.trans (List.takeWhile_prefix _)
    exact ⟨rest, isWithoutScheme_iff.mpr whole.symm⟩

/-! ## One form for each website -/

section Accepted

variable {endsWord : List Char → List Char → Bool} {input domain : String}

theorem of_normalizeWebsiteDomain (accepted : normalizeWebsiteDomain endsWord input = some domain) :
    ∃ text, domain = String.ofList text ∧ isDomain text = true ∧ text = dropDot (dropPort (dropWww
      (hostPart (dropScheme (toLowerCase endsWord (trim input.toList)))))) := by
  unfold normalizeWebsiteDomain at accepted
  dsimp only at accepted
  split at accepted
  next => cases accepted
  next =>
    split at accepted
    next isDomain_ => exact ⟨_, (Option.some.inj accepted).symm, isDomain_, rfl⟩
    next => cases accepted

theorem normalized_again_iff (accepted : normalizeWebsiteDomain endsWord input = some domain) :
    normalizeWebsiteDomain endsWord domain = some domain ↔ ¬RepeatsWww endsWord input := by
  obtain ⟨text, rfl, isDomain_, rfl⟩ := of_normalizeWebsiteDomain accepted
  rw [normalized_self_iff endsWord isDomain_, www_prefix_iff isDomain_, repeatsWww_iff]

theorem trim_trim (text : List Char) : trim (trim text) = trim text := by
  have front : (trim text).dropWhile isTrimmed = trim text := by
    rw [List.dropWhile_eq_self_iff]
    intro some_
    have leading : trim text <+: text.dropWhile isTrimmed := List.rdropWhile_prefix isTrimmed _
    rw [leading.getElem some_]
    exact List.dropWhile_get_zero_not isTrimmed text (leading.length_le.trans_lt' some_)
  have back : (trim text).reverse.dropWhile isTrimmed = (trim text).reverse := by
    rw [trim, List.reverse_reverse, List.dropWhile_idempotent]
  rw [trim, front, back, List.reverse_reverse]

theorem codeUnits_of_ascii {text : List Char} (ascii : ∀ char ∈ text, isAscii char = true) :
    Receipts.codeUnits text = text.length := by
  have each : text.map (fun char => if char.toNat < 0x10000 then 1 else 2) =
      text.map fun _ => 1 := by
    apply List.map_congr_left
    intro char member
    have small : char.toNat < 128 := of_decide_eq_true (ascii char member)
    rw [if_pos (by omega)]
  rw [Receipts.codeUnits, each]
  simp

theorem length_le_codeUnits (text : List Char) : text.length ≤ Receipts.codeUnits text := by
  induction text with
  | nil => exact Nat.le_refl 0
  | cons char text ih =>
      rw [Receipts.codeUnits, List.map_cons, List.sum_cons, List.length_cons]
      rw [Receipts.codeUnits] at ih
      split
      next => omega
      next => omega

theorem dropWww_sublist (text : List Char) : (dropWww text).Sublist text := by
  unfold dropWww
  split
  next => exact List.drop_sublist 4 text
  next => exact List.Sublist.refl text

theorem dropScheme_sublist (text : List Char) : (dropScheme text).Sublist text := by
  rcases dropScheme_cases text with ⟨scheme, _, same⟩ | same
  · have part : dropScheme text <:+ text := ⟨scheme, same.symm⟩
    exact part.sublist
  · rw [same]

theorem codeUnits_le (accepted : normalizeWebsiteDomain endsWord input = some domain) :
    Receipts.codeUnits domain.toList ≤ Receipts.codeUnits (trim input.toList) := by
  obtain ⟨text, rfl, isDomain_, taken⟩ := of_normalizeWebsiteDomain accepted
  have ascii : ∀ char ∈ text, isAscii char = true := by
    intro char member
    have small := (plain_of_domain (plain_of_isDomain isDomain_ char member)).2.1
    exact (Bool.and_eq_true_iff.mp small).1
  have part : text.Sublist (toLowerCase endsWord (trim input.toList)) := by
    have host : text.Sublist (dropWww (hostPart (dropScheme (toLowerCase endsWord
        (trim input.toList))))) := by
      rw [taken]
      exact ((dropDot_begins _).trans (dropPort_begins _)).sublist
    have address := (host.trans (dropWww_sublist _)).trans (List.takeWhile_sublist _)
    exact address.trans (dropScheme_sublist _)
  calc Receipts.codeUnits (String.ofList text).toList
      = text.length := by rw [String.toList_ofList, codeUnits_of_ascii ascii]
    _ = text.countP isAscii := (List.countP_eq_length.mpr ascii).symm
    _ ≤ (toLowerCase endsWord (trim input.toList)).countP isAscii := part.countP_le
    _ ≤ (trim input.toList).length := countP_isAscii_toLowerCase endsWord _
    _ ≤ Receipts.codeUnits (trim input.toList) := length_le_codeUnits _

theorem websiteSchema_again_iff
    (accepted : websiteSchema endsWord (some input) = some (some domain)) :
    websiteSchema endsWord (some domain) = some (some domain) ↔
      ¬RepeatsWww endsWord input := by
  have taken : normalizeWebsiteDomain endsWord (String.ofList (trim input.toList)) =
      some domain ∧ ¬253 < Receipts.codeUnits (trim input.toList) := by
    simp only [websiteSchema, String.toList_ofList] at accepted
    split at accepted
    next => cases accepted
    next short => exact ⟨by simpa using accepted, short⟩
  obtain ⟨normalized, short⟩ := taken
  have sameInput : RepeatsWww endsWord (String.ofList (trim input.toList)) ↔
      RepeatsWww endsWord input := by
    rw [RepeatsWww, RepeatsWww, String.toList_ofList, trim_trim]
  have length := codeUnits_le normalized
  rw [String.toList_ofList, trim_trim] at length
  obtain ⟨text, same, isDomain_, _⟩ := of_normalizeWebsiteDomain normalized
  have kept : String.ofList (trim domain.toList) = domain := by
    rw [same, String.toList_ofList, trim_eq_self fun char member =>
      (plain_of_domain (plain_of_isDomain isDomain_ char member)).1]
  have passes : websiteSchema endsWord (some domain) =
      (normalizeWebsiteDomain endsWord domain).map some := by
    simp only [websiteSchema, kept]
    rw [if_neg (by omega)]
  rw [passes, ← sameInput, ← normalized_again_iff normalized]
  cases normalizeWebsiteDomain endsWord domain with
  | none => simp
  | some again => simp

end Accepted

/-- A domain that was accepted is its own normal form, and passes the schema as it is, exactly
if the address did not repeat `www.`. -/
theorem website_canonical_iff (endsWord : List Char → List Char → Bool) (input : String) :
    (∀ domain, normalizeWebsiteDomain endsWord input = some domain →
      (normalizeWebsiteDomain endsWord domain = some domain ↔ ¬RepeatsWww endsWord input)) ∧
    ∀ domain, websiteSchema endsWord (some input) = some (some domain) →
      (websiteSchema endsWord (some domain) = some (some domain) ↔ ¬RepeatsWww endsWord input) :=
  ⟨fun _ => normalized_again_iff, fun _ => websiteSchema_again_iff⟩

/-- The form shows one domain and the API stores another, or refuses what the form accepted. -/
theorem repeated_www_survives :
    normalizeWebsiteDomain (fun _ _ => false) "www.www.acme.com" = some "www.acme.com" ∧
      normalizeWebsiteDomain (fun _ _ => false) "www.acme.com" = some "acme.com" ∧
      normalizeWebsiteDomain (fun _ _ => false) "www.www.com" = some "www.com" ∧
      normalizeWebsiteDomain (fun _ _ => false) "www.com" = none ∧
      ¬∀ input domain, normalizeWebsiteDomain (fun _ _ => false) input = some domain →
        normalizeWebsiteDomain (fun _ _ => false) domain = some domain := by
  have first : normalizeWebsiteDomain (fun _ _ => false) "www.www.acme.com" =
      some "www.acme.com" := by decide +kernel
  have again : normalizeWebsiteDomain (fun _ _ => false) "www.acme.com" = some "acme.com" := by
    decide +kernel
  have other : normalizeWebsiteDomain (fun _ _ => false) "www.www.com" = some "www.com" := by
    decide +kernel
  have refused : normalizeWebsiteDomain (fun _ _ => false) "www.com" = none := by decide +kernel
  refine ⟨first, again, other, refused, ?_⟩
  intro fixed
  have same := fixed _ _ other
  rw [refused] at same
  cases same

end WebsiteDomains

end MultiBrandInvoicing
