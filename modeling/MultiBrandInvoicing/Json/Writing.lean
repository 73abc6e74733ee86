import MultiBrandInvoicing.Encodings.Utf8
import MultiBrandInvoicing.Json.Reading

/-!
# Writing a JSON text

`JSON.stringify`: a value as a text without white space.  Control characters, the quotation mark,
the reverse solidus and surrogates that stand alone are escaped, so that the text is well-formed
whatever the strings are.  The text is read as the value it was written for.
-/

set_option autoImplicit false

namespace Json

open Encodings

variable {ν : Type}

/-! ## Strings -/

def hexDigit (digit : ℕ) : UInt16 :=
  if digit < 10 then .ofNat (0x30 + digit) else .ofNat (0x61 + (digit - 10))

def hexDigits (unit : ℕ) : CodeUnits :=
  [hexDigit (unit / 0x1000), hexDigit (unit / 0x100 % 0x10), hexDigit (unit / 0x10 % 0x10),
    hexDigit (unit % 0x10)]

def escapes : List (ℕ × UInt16) :=
  [(0x08, 0x62), (0x09, 0x74), (0x0A, 0x6E), (0x0C, 0x66), (0x0D, 0x72), (0x22, quotationMark),
    (0x5C, reverseSolidus)]

def escape (point : ℕ) : CodeUnits :=
  match escapes.lookup point with
  | some mark => [reverseSolidus, mark]
  | none =>
    if point < 0x20 ∨ 0xD800 ≤ point ∧ point < 0xE000 then
      reverseSolidus :: 0x75 :: hexDigits point
    else utf16 point

def quoted (text : CodeUnits) : CodeUnits :=
  quotationMark :: ((codePoints text).flatMap escape ++ [quotationMark])

theorem lex_cons {mode moved : Mode} {unit : UInt16} {lexemes : List Lexeme}
    (step : lexStep mode unit = some (moved, lexemes)) (rest : CodeUnits) :
    lex mode (unit :: rest) = (lex moved rest).map (lexemes ++ ·) := by
  rw [lex, step, Option.bind_eq_bind, Option.bind_some]
  cases lex moved rest <;> rfl

theorem lex_on {mode moved : Mode} {unit : UInt16} (step : lexStep mode unit = some (moved, []))
    (rest : CodeUnits) : lex mode (unit :: rest) = lex moved rest := by
  rw [lex_cons step]
  simp

theorem hexValue_hexDigit {digit : ℕ} (small : digit < 16) :
    hexValue (hexDigit digit) = some digit := by
  revert digit
  decide

theorem lex_hexDigits {unit : ℕ} (small : unit < 0x10000) (seen rest : CodeUnits) :
    lex (.hex seen 0 0) (hexDigits unit ++ rest) = lex (.string (.ofNat unit :: seen)) rest := by
  have step (count value digit : ℕ) (bound : digit < 16) (early : count ≠ 3) (more : CodeUnits) :
      lex (.hex seen count value) (hexDigit digit :: more) =
        lex (.hex seen (count + 1) (value * 16 + digit)) more := by
    refine lex_on ?_ more
    rw [lexStep, hexValue_hexDigit bound, Option.map_some, if_neg early]
  have last (value digit : ℕ) (bound : digit < 16) (more : CodeUnits) :
      lex (.hex seen 3 value) (hexDigit digit :: more) =
        lex (.string (.ofNat (value * 16 + digit) :: seen)) more := by
    refine lex_on ?_ more
    rw [lexStep, hexValue_hexDigit bound, Option.map_some, if_pos rfl]
  have value : (((0 * 16 + unit / 0x1000) * 16 + unit / 0x100 % 0x10) * 16 +
      unit / 0x10 % 0x10) * 16 + unit % 0x10 = unit := by omega
  simp only [hexDigits, List.cons_append, List.nil_append]
  rw [step 0 _ _ (by omega) (by decide), step 1 _ _ (by omega) (by decide),
    step 2 _ _ (by omega) (by decide), last _ _ (by omega), value]

theorem lex_solidus (seen rest : CodeUnits) :
    lex (.string seen) (reverseSolidus :: rest) = lex (.escape seen) rest := lex_on rfl rest

theorem lex_hex (seen rest : CodeUnits) :
    lex (.escape seen) (0x75 :: rest) = lex (.hex seen 0 0) rest := lex_on rfl rest

theorem lex_escaped {mark meant : UInt16} (notHex : mark ≠ 0x75)
    (value : unescaped mark = some meant) (seen rest : CodeUnits) :
    lex (.string seen) (reverseSolidus :: mark :: rest) = lex (.string (meant :: seen)) rest := by
  rw [lex_solidus]
  refine lex_on ?_ rest
  rw [lexStep, if_neg notHex, value, Option.map_some]

theorem lex_unit {unit : UInt16} (mark : unit ≠ quotationMark) (solidus : unit ≠ reverseSolidus)
    (printed : 0x20 ≤ unit.toNat) (seen rest : CodeUnits) :
    lex (.string seen) (unit :: rest) = lex (.string (unit :: seen)) rest := by
  refine lex_on ?_ rest
  rw [lexStep, if_neg mark, if_neg solidus, if_neg (by omega)]

theorem mem_escapes {point : ℕ} {mark : UInt16} (listed : escapes.lookup point = some mark) :
    mark ≠ 0x75 ∧ mark.toNat < 0x80 ∧ utf16 point = [.ofNat point] ∧
      unescaped mark = some (.ofNat point) := by
  obtain ⟨before, after, split, _⟩ := List.lookup_eq_some_iff.mp listed
  have member : (point, mark) ∈ escapes := by
    rw [split]
    simp
  have table : escapes.all (fun entry => entry.2 ≠ 0x75 ∧ entry.2.toNat < 0x80 ∧
      utf16 entry.1 = [.ofNat entry.1] ∧ unescaped entry.2 = some (.ofNat entry.1)) = true := by
    decide
  exact of_decide_eq_true (List.all_eq_true.mp table _ member)

theorem ne_of_not_listed {point : ℕ} (other : escapes.lookup point = none) :
    point ≠ 0x22 ∧ point ≠ 0x5C := by
  constructor
  · rintro rfl
    exact absurd other (by decide)
  · rintro rfl
    exact absurd other (by decide)

theorem lex_escape {point : ℕ} (bound : point < 0x110000) (seen rest : CodeUnits) :
    lex (.string seen) (escape point ++ rest) =
      lex (.string ((utf16 point).reverse ++ seen)) rest := by
  rw [escape]
  cases listed : escapes.lookup point with
  | some mark =>
    obtain ⟨notHex, _, single, meant⟩ := mem_escapes listed
    rw [single]
    exact lex_escaped notHex meant seen rest
  | none =>
    have unlisted := ne_of_not_listed listed
    simp only
    split_ifs with control
    · rw [List.cons_append, List.cons_append, lex_solidus, lex_hex, lex_hexDigits (by omega),
        utf16, if_pos (by omega)]
      rfl
    · have other (unit : UInt16) (large : 0x20 ≤ unit.toNat) (notMark : unit.toNat ≠ 0x22)
          (notSolidus : unit.toNat ≠ 0x5C) (already more : CodeUnits) :
          lex (.string already) (unit :: more) = lex (.string (unit :: already)) more := by
        refine lex_unit ?_ ?_ large already more
        · rintro rfl
          exact notMark rfl
        · rintro rfl
          exact notSolidus rfl
      unfold utf16
      split_ifs with small
      · have value := toNat_ofNat small
        exact other _ (by omega) (by omega) (by omega) seen rest
      · have high := toNat_ofNat (n := 0xD800 + (point - 0x10000) / 0x400) (by omega)
        have low := toNat_ofNat (n := 0xDC00 + (point - 0x10000) % 0x400) (by omega)
        rw [List.cons_append, List.singleton_append,
          other _ (by omega) (by omega) (by omega), other _ (by omega) (by omega) (by omega)]
        rfl

theorem lex_escapes {points : List ℕ} (bound : ∀ point ∈ points, point < 0x110000)
    (seen rest : CodeUnits) :
    lex (.string seen) (points.flatMap escape ++ rest) =
      lex (.string ((points.flatMap utf16).reverse ++ seen)) rest := by
  induction points generalizing seen with
  | nil => rfl
  | cons point others ih =>
    rw [List.flatMap_cons, List.append_assoc, lex_escape (bound point List.mem_cons_self),
      ih fun other member => bound other (List.mem_cons_of_mem _ member), List.flatMap_cons,
      List.reverse_append, List.append_assoc]

theorem lex_opened (rest : CodeUnits) :
    lex .between (quotationMark :: rest) = lex (.string []) rest := lex_on rfl rest

theorem lex_closed (seen rest : CodeUnits) :
    lex (.string seen) (quotationMark :: rest) =
      (lex .between rest).map (.string seen.reverse :: ·) := by
  have step : lexStep (.string seen) quotationMark = some (.between, [.string seen.reverse]) := rfl
  exact lex_cons step rest

theorem lex_quoted (text rest : CodeUnits) :
    lex .between (quoted text ++ rest) = (lex .between rest).map (.string text :: ·) := by
  rw [quoted, List.cons_append, List.append_assoc, lex_opened,
    lex_escapes fun _ member => codePoints_lt member, flatMap_utf16_codePoints, List.append_nil,
    List.singleton_append, lex_closed, List.reverse_reverse]

/-! ## Values -/

mutual

def write (text : ν → CodeUnits) : Value ν → CodeUnits
  | .null => ofString "null"
  | .bool value => ofString (if value then "true" else "false")
  | .number value => text value
  | .string value => quoted value
  | .array items =>
    beginArray :: ([valueSeparator].intercalate (writeItems text items) ++ [endArray])
  | .object members =>
    beginObject :: ([valueSeparator].intercalate (writeMembers text members) ++ [endObject])

def writeItems (text : ν → CodeUnits) : List (Value ν) → List CodeUnits
  | [] => []
  | item :: rest => write text item :: writeItems text rest

def writeMembers (text : ν → CodeUnits) : List (CodeUnits × Value ν) → List CodeUnits
  | [] => []
  | (key, value) :: rest =>
    (quoted key ++ nameSeparator :: write text value) :: writeMembers text rest

end

/-- A text that is cut into the lexemes, whatever follows it that ends a plain run. -/
def Cut (text : CodeUnits) (lexemes : List Lexeme) : Prop :=
  ∀ rest : CodeUnits, (∀ unit ∈ rest.head?, delimits unit = true) →
    lex .between (text ++ rest) = (lex .between rest).map (lexemes ++ ·)

theorem lex_structural {unit : UInt16} {lexeme : Lexeme}
    (step : lexStep .between unit = some (.between, [lexeme])) (rest : CodeUnits) :
    lex .between (unit :: rest) = (lex .between rest).map (lexeme :: ·) := lex_cons step rest

structure Plain (text : CodeUnits) (value : Value Numeral) : Prop where
  nonempty : text ≠ []
  plain : text.any delimits = false
  reads : readPlain text = some value

theorem lex_plain {text : CodeUnits} (plain : text.any delimits = false) (seen rest : CodeUnits) :
    lex (.plain seen) (text ++ rest) = lex (.plain (text.reverse ++ seen)) rest := by
  induction text generalizing seen with
  | nil => rfl
  | cons unit others ih =>
    rw [List.any_cons, Bool.or_eq_false_iff] at plain
    have step : lexStep (.plain seen) unit = some (.plain (unit :: seen), []) := by
      rw [lexStep, plain.1]
      rfl
    rw [List.cons_append, lex_on step, ih plain.2, List.reverse_cons, List.append_assoc,
      List.singleton_append]

theorem betweenStep_plain {unit : UInt16} (plain : delimits unit = false) :
    betweenStep unit = (.plain [unit], []) := by
  simp only [delimits, Bool.or_eq_false_iff, decide_eq_false_iff_not, Option.isSome_eq_false_iff,
    Option.isNone_iff_eq_none] at plain
  rw [betweenStep, plain.1.1, if_neg (by decide), if_neg plain.1.2, plain.2]

theorem cut_plain {text : CodeUnits} {value : Value Numeral} (run : Plain text value) :
    Cut text [.plain value] := by
  intro rest ends
  obtain ⟨nonempty, plain, reads⟩ := run
  cases text with
  | nil => exact absurd rfl nonempty
  | cons first others =>
    rw [List.any_cons, Bool.or_eq_false_iff] at plain
    have begun : lexStep .between first = some (.plain [first], []) := by
      rw [lexStep, betweenStep_plain plain.1]
    rw [List.cons_append, lex_on begun, lex_plain plain.2, ← List.reverse_cons]
    cases rest with
    | nil =>
      rw [lex, lexEnd, List.reverse_reverse, reads, lex, lexEnd]
      rfl
    | cons unit more =>
      have ended : lexStep (.plain (first :: others).reverse) unit =
          some ((betweenStep unit).1, .plain value :: (betweenStep unit).2) := by
        rw [lexStep, ends unit rfl, if_pos rfl, List.reverse_reverse, reads, Option.map_some]
      have fresh : lexStep .between unit = some ((betweenStep unit).1, (betweenStep unit).2) := rfl
      rw [lex_cons ended, lex_cons fresh, Option.map_map]
      rfl

theorem plain_null : Plain (ofString "null") .null := ⟨by decide, by decide, rfl⟩

theorem plain_bool (value : Bool) :
    Plain (ofString (if value then "true" else "false")) (.bool value) := by
  cases value with
  | false => exact ⟨by decide, by decide, rfl⟩
  | true => exact ⟨by decide, by decide, rfl⟩

theorem cut_quoted (text : CodeUnits) : Cut (quoted text) [.string text] := by
  intro rest _
  exact lex_quoted text rest

theorem intercalate_map_cons {α β : Type} (separator : List β) (f : α → List β) (part : α)
    {others : List α} (more : others ≠ []) :
    separator.intercalate ((part :: others).map f) =
      f part ++ (separator ++ separator.intercalate (others.map f)) := by
  rw [List.map_cons, List.intercalate_cons_of_ne_nil (by simpa using more), List.append_assoc]

theorem cut_separated {α : Type} {parts : List α} {text : α → CodeUnits}
    {lexemes : α → List Lexeme} (each : ∀ part ∈ parts, Cut (text part) (lexemes part)) :
    Cut ([valueSeparator].intercalate (parts.map text))
      ([.valueSeparator].intercalate (parts.map lexemes)) := by
  intro rest ends
  induction parts with
  | nil => simp
  | cons part others ih =>
    have first := each part List.mem_cons_self
    by_cases last : others = []
    · rw [last, List.map_singleton, List.map_singleton, List.intercalate_singleton,
        List.intercalate_singleton]
      exact first rest ends
    · have later := ih fun other member => each other (List.mem_cons_of_mem _ member)
      have separated : ∀ unit ∈ (valueSeparator ::
          ([valueSeparator].intercalate (others.map text) ++ rest)).head?,
            delimits unit = true := by
        intro unit head
        obtain rfl := Option.some.inj head
        decide
      rw [intercalate_map_cons _ _ _ last, intercalate_map_cons _ _ _ last, List.append_assoc,
        List.append_assoc, List.singleton_append, first _ separated, lex_structural rfl, later,
        Option.map_map, Option.map_map]
      congr 1
      funext further
      simp

theorem writeItems_eq (text : ν → CodeUnits) (items : List (Value ν)) :
    writeItems text items = items.map (write text) := by
  induction items with
  | nil => rfl
  | cons item rest ih => rw [writeItems, ih, List.map_cons]

theorem writeMembers_eq (text : ν → CodeUnits) (members : List (CodeUnits × Value ν)) :
    writeMembers text members =
      members.map fun member => quoted member.1 ++ nameSeparator :: write text member.2 := by
  induction members with
  | nil => rfl
  | cons member rest ih => rw [writeMembers, ih, List.map_cons]

theorem itemLexemes_eq (numeral : ν → Numeral) (items : List (Value ν)) :
    itemLexemes (mapItems numeral items) = items.map fun item => lexemes (item.map numeral) := by
  induction items with
  | nil => rfl
  | cons item rest ih => rw [mapItems, itemLexemes, ih, List.map_cons]

theorem memberLexemes_eq (numeral : ν → Numeral) (members : List (CodeUnits × Value ν)) :
    memberLexemes (mapMembers numeral members) = members.map fun member =>
      .string member.1 :: .nameSeparator :: lexemes (member.2.map numeral) := by
  induction members with
  | nil => rfl
  | cons member rest ih => rw [mapMembers, memberLexemes, ih, List.map_cons]

theorem Cut.enclosed {text : CodeUnits} {lexemes : List Lexeme} (inner : Cut text lexemes)
    {first last : UInt16} {opening closing : Lexeme}
    (opens : lexStep .between first = some (.between, [opening]))
    (closes : lexStep .between last = some (.between, [closing]))
    (delimiter : delimits last = true) :
    Cut (first :: (text ++ [last])) (opening :: (lexemes ++ [closing])) := by
  intro rest _
  have ended : ∀ unit ∈ (last :: rest).head?, delimits unit = true := by
    intro unit head
    obtain rfl := Option.some.inj head
    exact delimiter
  rw [List.cons_append, List.append_assoc, List.singleton_append, lex_structural opens,
    inner _ ended, lex_structural closes, Option.map_map, Option.map_map]
  congr 1
  funext further
  simp

variable {text : ν → CodeUnits} {numeral : ν → Numeral}

theorem cut_write (numbers : ∀ value, Plain (text value) (.number (numeral value)))
    (value : Value ν) : Cut (write text value) (lexemes (value.map numeral)) := by
  induction value using Value.induction with
  | null => exact cut_plain plain_null
  | bool value => exact cut_plain (plain_bool value)
  | number value => exact cut_plain (numbers value)
  | string value => exact cut_quoted value
  | array items each =>
    rw [write, writeItems_eq, Value.map, lexemes, itemLexemes_eq]
    exact (cut_separated each).enclosed rfl rfl (by decide)
  | object members each =>
    rw [write, writeMembers_eq, Value.map, lexemes, memberLexemes_eq]
    refine (cut_separated ?_).enclosed rfl rfl (by decide)
    intro member found rest ends
    rw [List.append_assoc, List.cons_append, lex_quoted, lex_structural rfl,
      each member found rest ends, Option.map_map, Option.map_map]
    rfl

/-- A written value is read back, with its numbers as they were written. -/
theorem read_write (numbers : ∀ value, Plain (text value) (.number (numeral value)))
    (value : Value ν) : read (write text value) = some (value.map numeral) := by
  refine read_of_lex ?_
  have cut := cut_write numbers value [] (by simp)
  rw [List.append_nil] at cut
  rw [cut, lex, lexEnd, Option.map_some, List.append_nil]

/-! ## The text is well-formed -/

theorem hexDigit_ascii {digit : ℕ} (small : digit < 16) : (hexDigit digit).toNat < 0x80 := by
  revert digit
  decide

theorem hexDigits_ascii {unit : ℕ} (small : unit < 0x10000) : IsAscii (hexDigits unit) := by
  intro digit member
  simp only [hexDigits, List.mem_cons, List.not_mem_nil, or_false] at member
  rcases member with rfl | rfl | rfl | rfl <;> exact hexDigit_ascii (by omega)

theorem wellFormed_escape {point : ℕ} (bound : point < 0x110000) : WellFormed (escape point) := by
  rw [escape]
  cases listed : escapes.lookup point with
  | some mark =>
    obtain ⟨_, small, _⟩ := mem_escapes listed
    exact (IsAscii.cons (by decide) (IsAscii.cons small isAscii_nil)).wellFormed
  | none =>
    simp only
    split_ifs with control
    · have digits : IsAscii (hexDigits point) := hexDigits_ascii (by omega)
      exact (IsAscii.cons (by decide) (IsAscii.cons (by decide) digits)).wellFormed
    · refine wellFormed_utf16 ?_
      unfold IsScalar
      omega

theorem wellFormed_unit {unit : UInt16} (small : unit.toNat < 0x80) : WellFormed [unit] :=
  (IsAscii.cons small isAscii_nil).wellFormed

theorem wellFormed_quoted (text : CodeUnits) : WellFormed (quoted text) := by
  have inner : WellFormed ((codePoints text).flatMap escape) := by
    rw [List.flatMap_def]
    refine WellFormed.flatten ?_
    intro part member
    obtain ⟨point, found, rfl⟩ := List.mem_map.mp member
    exact wellFormed_escape (codePoints_lt found)
  have mark : WellFormed [quotationMark] := wellFormed_unit (by decide)
  exact mark.append (inner.append mark)

theorem wellFormed_separated {parts : List CodeUnits} (each : ∀ part ∈ parts, WellFormed part) :
    WellFormed ([valueSeparator].intercalate parts) := by
  induction parts with
  | nil => exact wellFormed_nil
  | cons part others ih =>
    have first := each part List.mem_cons_self
    by_cases last : others = []
    · rw [last, List.intercalate_singleton]
      exact first
    · rw [List.intercalate_cons_of_ne_nil last]
      have separator : WellFormed [valueSeparator] := wellFormed_unit (by decide)
      exact (first.append separator).append
        (ih fun other member => each other (List.mem_cons_of_mem _ member))

/-- Whatever the strings of a value are, its text has no surrogate that stands alone. -/
theorem wellFormed_write (numbers : ∀ value, WellFormed (text value)) (value : Value ν) :
    WellFormed (write text value) := by
  have enclosed (first last : UInt16) (low : first.toNat < 0x80) (high : last.toNat < 0x80)
      (inner : CodeUnits) (wellFormed : WellFormed inner) :
      WellFormed (first :: (inner ++ [last])) :=
    (wellFormed_unit low).append (wellFormed.append (wellFormed_unit high))
  induction value using Value.induction with
  | null => exact wellFormed_ofString _
  | bool value => exact wellFormed_ofString _
  | number value => exact numbers value
  | string value => exact wellFormed_quoted value
  | array items each =>
    rw [write, writeItems_eq]
    refine enclosed _ _ (by decide) (by decide) _ (wellFormed_separated ?_)
    intro part member
    obtain ⟨item, found, rfl⟩ := List.mem_map.mp member
    exact each item found
  | object members each =>
    rw [write, writeMembers_eq]
    refine enclosed _ _ (by decide) (by decide) _ (wellFormed_separated ?_)
    intro part member
    obtain ⟨item, found, rfl⟩ := List.mem_map.mp member
    have colon : WellFormed [nameSeparator] := wellFormed_unit (by decide)
    exact (wellFormed_quoted item.1).append (colon.append (each item found))

end Json
