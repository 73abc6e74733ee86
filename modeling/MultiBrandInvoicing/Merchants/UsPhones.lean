import Mathlib.Tactic.IntervalCases
import MultiBrandInvoicing.Money.AmountText

/-!
# Phone numbers of US companies

`normalizeUsPhone` of `packages/shared/src/domain/us-phone.ts`.  A number is written with digits,
spaces and `( ) . -` after at most one plus; only the digits and the plus count.
-/

set_option autoImplicit false

namespace MultiBrandInvoicing

namespace UsPhones

/-- `[\d\s().-]`; `\s` is what `trim` takes off. -/
def isPhoneCharacter (char : Char) : Bool :=
  char.isDigit || isTrimmed char || ['(', ')', '.', '-'].contains char

def isPhoneText (text : List Char) : Bool :=
  let body := if text.head? = some '+' then text.tail else text
  !body.isEmpty && body.all isPhoneCharacter

def isTwoToNine (char : Char) : Bool := '2' ≤ char && char ≤ '9'

def fits : List (Char → Bool) → List Char → Bool
  | [], [] => true
  | charClass :: classes, char :: chars => charClass char && fits classes chars
  | _, _ => false

def nanpPattern : List (Char → Bool) :=
  [isTwoToNine] ++ List.replicate 2 Char.isDigit ++ [isTwoToNine] ++ List.replicate 6 Char.isDigit

/-- The digits without the country code. -/
def nationalDigits? (plus : Bool) (digits : List Char) : Option (List Char) :=
  if plus then
    if digits.length ≠ 11 ∨ digits.head? ≠ some '1' then none else some digits.tail
  else if digits.length = 11 then
    if digits.head? ≠ some '1' then none else some digits.tail
  else if digits.length = 10 then some digits
  else none

def normalizeUsPhone (input : String) : Option String :=
  let trimmed := trim input.toList
  if trimmed.isEmpty then none
  else if !isPhoneText trimmed then none
  else
    match nationalDigits? (trimmed.head? = some '+') (trimmed.filter Char.isDigit) with
    | none => none
    | some national =>
        if !fits nanpPattern national then none else some ("+1" ++ String.ofList national)

/-! ## Written numbers -/

/-- A number of the national plan: ten digits, the area and the exchange from 2 on. -/
structure IsNational (digits : List Char) : Prop where
  ten : digits.length = 10
  each : ∀ char ∈ digits, char.isDigit = true
  area : ∀ char, digits[0]? = some char → '2' ≤ char
  exchange : ∀ char, digits[3]? = some char → '2' ≤ char

def IsWritten (input : String) (plus : Bool) (body : List Char) : Prop :=
  trim input.toList = (if plus then ['+'] else []) ++ body ∧
    ∀ char ∈ body, isPhoneCharacter char = true

/-- The digits are a national number, after a 1 that only a number with a plus has to have. -/
def IsDialled (plus : Bool) (digits national : List Char) : Prop :=
  IsNational national ∧ (digits = '1' :: national ∨ plus = false ∧ digits = national)

theorem fits_iff {classes : List (Char → Bool)} {text : List Char} :
    fits classes text = true ↔ text.length = classes.length ∧
      ∀ (index : Nat) (charClass : Char → Bool) (char : Char), classes[index]? = some charClass →
        text[index]? = some char → charClass char = true := by
  induction classes generalizing text with
  | nil =>
      cases text with
      | nil => simp [fits]
      | cons char text => simp [fits]
  | cons charClass classes ih =>
      cases text with
      | nil => simp [fits]
      | cons char text =>
          rw [fits, Bool.and_eq_true, ih, List.length_cons, List.length_cons,
            Nat.add_right_cancel_iff]
          constructor
          · intro ⟨first, same, rest⟩
            refine ⟨same, ?_⟩
            intro index otherClass other
            cases index with
            | zero =>
                intro hereClass here
                cases hereClass
                cases here
                exact first
            | succ index => exact rest index otherClass other
          · intro ⟨same, each⟩
            exact ⟨each 0 charClass char rfl rfl, same, fun index => each (index + 1)⟩

theorem isTwoToNine_iff {char : Char} :
    isTwoToNine char = true ↔ char.isDigit = true ∧ '2' ≤ char := by
  simp only [isTwoToNine, Char.isDigit, Bool.and_eq_true, decide_eq_true_eq]
  constructor
  · intro ⟨least, most⟩
    have zero : '0' ≤ char := Char.le_trans (by decide : '0' ≤ '2') least
    exact ⟨⟨zero, most⟩, least⟩
  · intro ⟨⟨_, most⟩, least⟩
    exact ⟨least, most⟩

theorem fits_nanpPattern_iff {digits : List Char} :
    fits nanpPattern digits = true ↔ IsNational digits := by
  rw [fits_iff]
  constructor
  · intro ⟨ten, each⟩
    have first := fun char => each 0 isTwoToNine char rfl
    have fourth := fun char => each 3 isTwoToNine char rfl
    refine ⟨ten, ?_, fun char here => (isTwoToNine_iff.mp (first char here)).2,
      fun char here => (isTwoToNine_iff.mp (fourth char here)).2⟩
    intro char member
    obtain ⟨index, here⟩ := List.mem_iff_getElem?.mp member
    have within : index < nanpPattern.length := by
      rw [← ten]
      exact (List.getElem?_eq_some_iff.mp here).1
    have class_ := each index (nanpPattern[index]) char (List.getElem?_eq_getElem within) here
    have known : ∀ charClass ∈ nanpPattern, charClass char = true → char.isDigit = true := by
      intro charClass listed holds
      simp only [nanpPattern, List.mem_append, List.mem_singleton, List.mem_replicate] at listed
      rcases listed with ((rfl | ⟨_, rfl⟩) | rfl) | ⟨_, rfl⟩
      · exact (isTwoToNine_iff.mp holds).1
      · exact holds
      · exact (isTwoToNine_iff.mp holds).1
      · exact holds
    exact known _ (List.getElem_mem within) class_
  · intro national
    refine ⟨national.ten, ?_⟩
    intro index charClass char listed here
    have digit := national.each char (List.mem_of_getElem? here)
    have within : index < 10 := by
      rw [← national.ten]
      exact (List.getElem?_eq_some_iff.mp here).1
    interval_cases index <;> cases listed
    all_goals first
      | exact digit
      | exact isTwoToNine_iff.mpr ⟨digit, national.area char here⟩
      | exact isTwoToNine_iff.mpr ⟨digit, national.exchange char here⟩

/-! ## What decides the answer -/

def answer (plus : Bool) (digits : List Char) : Option String :=
  match nationalDigits? plus digits with
  | none => none
  | some national =>
      if !fits nanpPattern national then none else some ("+1" ++ String.ofList national)

theorem isPhoneCharacter_plus : isPhoneCharacter '+' = false := by decide

theorem isPhoneText_iff {input : String} :
    isPhoneText (trim input.toList) = true ↔
      ∃ plus body, IsWritten input plus body ∧ body ≠ [] := by
  constructor
  · intro text
    simp only [isPhoneText, Bool.and_eq_true, Bool.not_eq_true', List.isEmpty_eq_false_iff,
      List.all_eq_true] at text
    by_cases plus : (trim input.toList).head? = some '+'
    · rw [if_pos plus] at text
      refine ⟨true, (trim input.toList).tail, ⟨?_, text.2⟩, text.1⟩
      exact (List.cons_head?_tail plus).symm
    · rw [if_neg plus] at text
      exact ⟨false, trim input.toList, ⟨rfl, text.2⟩, text.1⟩
  · intro ⟨plus, body, ⟨same, allowed⟩, some_⟩
    have text : (if (trim input.toList).head? = some '+' then (trim input.toList).tail
        else trim input.toList) = body := by
      rw [same]
      cases plus with
      | true => rfl
      | false =>
          have other : body.head? ≠ some '+' := by
            intro first
            have refused := allowed '+' (List.mem_of_mem_head? first)
            rw [isPhoneCharacter_plus] at refused
            cases refused
          rw [if_neg Bool.false_ne_true, List.nil_append, if_neg other]
    simp only [isPhoneText, text, Bool.and_eq_true, Bool.not_eq_true', List.isEmpty_eq_false_iff,
      List.all_eq_true]
    exact ⟨some_, allowed⟩

theorem head?_of_written {input : String} {plus : Bool} {body : List Char}
    (written : IsWritten input plus body) :
    decide ((trim input.toList).head? = some '+') = plus := by
  rw [written.1]
  cases plus with
  | true => rfl
  | false =>
      rw [if_neg Bool.false_ne_true, List.nil_append, decide_eq_false_iff_not]
      intro first
      have refused := written.2 '+' (List.mem_of_mem_head? first)
      rw [isPhoneCharacter_plus] at refused
      cases refused

theorem filter_isDigit_of_written {input : String} {plus : Bool} {body : List Char}
    (written : IsWritten input plus body) :
    (trim input.toList).filter Char.isDigit = body.filter Char.isDigit := by
  rw [written.1, List.filter_append]
  cases plus with
  | true => rfl
  | false => rfl

theorem answer_nil (plus : Bool) : answer plus [] = none := by
  cases plus with
  | true => rfl
  | false => rfl

theorem normalizeUsPhone_written {input : String} {plus : Bool} {body : List Char}
    (written : IsWritten input plus body) :
    normalizeUsPhone input = answer plus (body.filter Char.isDigit) := by
  by_cases empty : body = []
  · have refused : isPhoneText (trim input.toList) = false := by
      rw [written.1, empty]
      cases plus with
      | true => rfl
      | false => rfl
    have nothing : normalizeUsPhone input = none := by
      simp only [normalizeUsPhone, refused, Bool.not_false, if_true, ite_self]
    rw [nothing, empty, List.filter_nil, answer_nil]
  · have text := isPhoneText_iff.mpr ⟨plus, body, written, empty⟩
    have some_ : (trim input.toList).isEmpty = false := by
      rw [written.1, List.isEmpty_eq_false_iff]
      exact List.append_ne_nil_of_right_ne_nil _ empty
    simp only [normalizeUsPhone, some_, text, Bool.not_true, Bool.false_eq_true, if_false,
      head?_of_written written, filter_isDigit_of_written written, answer]

theorem normalizeUsPhone_unwritten {input : String}
    (unwritten : ∀ plus body, ¬IsWritten input plus body) : normalizeUsPhone input = none := by
  have refused : isPhoneText (trim input.toList) = false := by
    rw [← Bool.not_eq_true, isPhoneText_iff]
    intro ⟨plus, body, written, _⟩
    exact unwritten plus body written
  simp only [normalizeUsPhone, refused, Bool.not_false, if_true, ite_self]

/-- A 1 and ten digits. -/
theorem eq_one_cons_iff {digits national : List Char} (ten : national.length = 10) :
    digits = '1' :: national ↔
      digits.length = 11 ∧ digits.head? = some '1' ∧ digits.tail = national := by
  constructor
  · intro same
    rw [same]
    exact ⟨by rw [List.length_cons, ten], rfl, rfl⟩
  · intro ⟨_, one, rest⟩
    rw [← rest]
    exact (List.cons_head?_tail one).symm

theorem nationalDigits?_eq_some {plus : Bool} {digits national : List Char}
    (ten : national.length = 10) :
    nationalDigits? plus digits = some national ↔
      digits = '1' :: national ∨ plus = false ∧ digits = national := by
  rw [eq_one_cons_iff ten]
  cases plus with
  | true =>
      simp only [nationalDigits?, if_true, Bool.true_eq_false, false_and, or_false]
      split
      next refused =>
        constructor
        · intro none_
          cases none_
        · intro ⟨eleven, one, _⟩
          exact absurd refused (by simp [eleven, one])
      next accepted =>
        rw [not_or, not_not, not_not] at accepted
        rw [Option.some.injEq]
        exact ⟨fun rest => ⟨accepted.1, accepted.2, rest⟩, fun ⟨_, _, rest⟩ => rest⟩
  | false =>
      simp only [nationalDigits?, Bool.false_eq_true, if_false, true_and]
      by_cases eleven : digits.length = 11
      · have notTen : digits ≠ national := by
          intro same
          rw [same, ten] at eleven
          omega
        simp only [eleven, notTen, if_true, true_and, or_false]
        by_cases one : digits.head? = some '1'
        · simp [one]
        · simp [one]
      · simp only [eleven, if_false, false_and, false_or]
        split
        next => rw [Option.some.injEq]
        next notTen =>
          constructor
          · intro none_
            cases none_
          · intro same
            rw [same] at notTen
            exact absurd ten notTen

theorem answer_eq_some {plus : Bool} {digits : List Char} {result : String} :
    answer plus digits = some result ↔
      ∃ national, IsDialled plus digits national ∧ result = "+1" ++ String.ofList national := by
  constructor
  · intro answered
    unfold answer at answered
    split at answered
    next => cases answered
    next national found =>
      split at answered
      next => cases answered
      next fit =>
        rw [Bool.not_eq_true', Bool.not_eq_false, fits_nanpPattern_iff] at fit
        exact ⟨national, ⟨fit, (nationalDigits?_eq_some fit.ten).mp found⟩,
          (Option.some.inj answered).symm⟩
  · intro ⟨national, ⟨valid, dialled⟩, same⟩
    rw [answer, (nationalDigits?_eq_some valid.ten).mpr dialled, same]
    simp [fits_nanpPattern_iff.mpr valid]

theorem normalizeUsPhone_eq_some {input result : String} :
    normalizeUsPhone input = some result ↔ ∃ plus body national, IsWritten input plus body ∧
      IsDialled plus (body.filter Char.isDigit) national ∧
      result = "+1" ++ String.ofList national := by
  constructor
  · intro accepted
    by_cases written : ∃ plus body, IsWritten input plus body
    · obtain ⟨plus, body, written⟩ := written
      rw [normalizeUsPhone_written written, answer_eq_some] at accepted
      obtain ⟨national, dialled, same⟩ := accepted
      exact ⟨plus, body, national, written, dialled, same⟩
    · have refused : normalizeUsPhone input = none :=
        normalizeUsPhone_unwritten fun plus body this => written ⟨plus, body, this⟩
      rw [refused] at accepted
      cases accepted
  · intro ⟨plus, body, national, written, dialled, same⟩
    rw [normalizeUsPhone_written written, answer_eq_some]
    exact ⟨national, dialled, same⟩

/-! ## One form for each number -/

/-- The form of a national number is written with a plus and dials it. -/
theorem normalizeUsPhone_canonical {national : List Char} (valid : IsNational national) :
    normalizeUsPhone ("+1" ++ String.ofList national) =
      some ("+1" ++ String.ofList national) := by
  have text : ("+1" ++ String.ofList national).toList = ['+'] ++ '1' :: national := by simp
  have digit : ∀ char ∈ '1' :: national, char.isDigit = true := by
    intro char member
    rcases List.mem_cons.mp member with rfl | member
    · rfl
    · exact valid.each char member
  have kept : trim ("+1" ++ String.ofList national).toList = ['+'] ++ '1' :: national := by
    rw [text]
    apply trim_eq_self
    intro char member
    rcases List.mem_cons.mp member with rfl | member
    · decide
    · exact (plain_of_isDigit (.inr (.inr (digit char member)))).1
  have written : IsWritten ("+1" ++ String.ofList national) true ('1' :: national) := by
    refine ⟨kept, ?_⟩
    intro char member
    simp [isPhoneCharacter, digit char member]
  have dialled : ('1' :: national).filter Char.isDigit = '1' :: national :=
    List.filter_eq_self.mpr digit
  refine normalizeUsPhone_eq_some.mpr ⟨true, _, national, written, ⟨valid, .inl dialled⟩, rfl⟩

/-- What a canonical form of US numbers has to be: its forms, that a form is its own, that
punctuation does not matter, and what it accepts. -/
structure Canonicalises (normalize : String → Option String) : Prop where
  image : ∀ input result, normalize input = some result →
    ∃ national, IsNational national ∧ result = "+1" ++ String.ofList national
  idempotent : ∀ input result, normalize input = some result → normalize result = some result
  kernel : ∀ first second plus body other, IsWritten first plus body →
    IsWritten second plus other → body.filter Char.isDigit = other.filter Char.isDigit →
      normalize first = normalize second
  accepted : ∀ input, (normalize input).isSome = true ↔ ∃ plus body national,
    IsWritten input plus body ∧ IsDialled plus (body.filter Char.isDigit) national

theorem normalizeUsPhone_canonicalises : Canonicalises normalizeUsPhone where
  image input result accepted := by
    obtain ⟨_, _, national, _, dialled, same⟩ := normalizeUsPhone_eq_some.mp accepted
    exact ⟨national, dialled.1, same⟩
  idempotent input result accepted := by
    obtain ⟨_, _, national, _, dialled, same⟩ := normalizeUsPhone_eq_some.mp accepted
    rw [same]
    exact normalizeUsPhone_canonical dialled.1
  kernel first second plus body other firstWritten secondWritten same := by
    rw [normalizeUsPhone_written firstWritten, normalizeUsPhone_written secondWritten, same]
  accepted input := by
    rw [Option.isSome_iff_exists]
    constructor
    · intro ⟨result, accepted⟩
      obtain ⟨plus, body, national, written, dialled, _⟩ := normalizeUsPhone_eq_some.mp accepted
      exact ⟨plus, body, national, written, dialled⟩
    · intro ⟨plus, body, national, written, dialled⟩
      exact ⟨_, normalizeUsPhone_eq_some.mpr ⟨plus, body, national, written, dialled, rfl⟩⟩

/-- Letters among the digits of a valid number: refused, though its digits would do. -/
theorem letters_refused :
    normalizeUsPhone "tel 2125551234" = none ∧
      IsDialled false ("tel 2125551234".toList.filter Char.isDigit) "2125551234".toList ∧
      ¬∀ input, (normalizeUsPhone input).isSome = true ↔ ∃ national,
        IsDialled (decide (input.toList.head? = some '+')) (input.toList.filter Char.isDigit)
          national := by
  have refused : normalizeUsPhone "tel 2125551234" = none := by decide +kernel
  have dialled : IsDialled false ("tel 2125551234".toList.filter Char.isDigit)
      "2125551234".toList :=
    ⟨fits_nanpPattern_iff.mp (by decide +kernel), .inr ⟨rfl, by decide +kernel⟩⟩
  refine ⟨refused, dialled, ?_⟩
  intro all
  have some_ := (all "tel 2125551234").mpr ⟨_, dialled⟩
  rw [refused] at some_
  cases some_

example : normalizeUsPhone " +1 (212) 555-1234" = some "+12125551234" := by decide +kernel

end UsPhones

end MultiBrandInvoicing
