import MultiBrandInvoicing.Json.Lexemes

/-!
# Reading a JSON text

A machine over the lexemes: what may come next, and the arrays and objects that are open.  Every
value is read where a value may begin, and leaves the machine with that value in its place.
-/

set_option autoImplicit false

namespace Json

open Encodings

/-- An open array or object, with what it has so far, the last one first. -/
inductive Frame where
  | item (before : List (Value Numeral))
  | member (before : List (CodeUnits × Value Numeral)) (key : CodeUnits)

inductive State where
  | value (frames : List Frame)
  | itemOrEnd (frames : List Frame)
  | key (before : List (CodeUnits × Value Numeral)) (frames : List Frame)
  | keyOrEnd (frames : List Frame)
  | separator (before : List (CodeUnits × Value Numeral)) (key : CodeUnits) (frames : List Frame)
  | done (value : Value Numeral) (frames : List Frame)

def beginValue (frames : List Frame) : Lexeme → Option State
  | .beginArray => some (.itemOrEnd frames)
  | .beginObject => some (.keyOrEnd frames)
  | .string text => some (.done (.string text) frames)
  | .plain value => some (.done value frames)
  | _ => none

def parseStep : State → Lexeme → Option State
  | .value frames, lexeme => beginValue frames lexeme
  | .itemOrEnd frames, .endArray => some (.done (.array []) frames)
  | .itemOrEnd frames, lexeme => beginValue (.item [] :: frames) lexeme
  | .key before frames, .string key => some (.separator before key frames)
  | .keyOrEnd frames, .endObject => some (.done (.object []) frames)
  | .keyOrEnd frames, .string key => some (.separator [] key frames)
  | .separator before key frames, .nameSeparator => some (.value (.member before key :: frames))
  | .done value (.item before :: frames), .valueSeparator =>
    some (.value (.item (value :: before) :: frames))
  | .done value (.item before :: frames), .endArray =>
    some (.done (.array (value :: before).reverse) frames)
  | .done value (.member before key :: frames), .valueSeparator =>
    some (.key ((key, value) :: before) frames)
  | .done value (.member before key :: frames), .endObject =>
    some (.done (.object ((key, value) :: before).reverse) frames)
  | _, _ => none

def parse : State → List Lexeme → Option (Value Numeral)
  | .done value [], [] => some value
  | _, [] => none
  | state, lexeme :: rest => do
    let moved ← parseStep state lexeme
    parse moved rest

/-- The value of a text, with its numbers as they are written. -/
def read (text : CodeUnits) : Option (Value Numeral) := do
  let lexemes ← lex .between text
  parse (.value []) lexemes

/-! ## The lexemes of a value -/

mutual

def lexemes : Value Numeral → List Lexeme
  | .null => [.plain .null]
  | .bool value => [.plain (.bool value)]
  | .number value => [.plain (.number value)]
  | .string text => [.string text]
  | .array items =>
    .beginArray :: ([.valueSeparator].intercalate (itemLexemes items) ++ [.endArray])
  | .object members =>
    .beginObject :: ([.valueSeparator].intercalate (memberLexemes members) ++ [.endObject])

def itemLexemes : List (Value Numeral) → List (List Lexeme)
  | [] => []
  | item :: rest => lexemes item :: itemLexemes rest

def memberLexemes : List (CodeUnits × Value Numeral) → List (List Lexeme)
  | [] => []
  | (key, value) :: rest => (.string key :: .nameSeparator :: lexemes value) :: memberLexemes rest

end

def MayBegin (state : State) (frames : List Frame) : Prop :=
  ∀ lexeme moved, beginValue frames lexeme = some moved → parseStep state lexeme = some moved

theorem mayBegin_value (frames : List Frame) : MayBegin (.value frames) frames := by
  intro lexeme moved begun
  exact begun

theorem mayBegin_itemOrEnd (frames : List Frame) :
    MayBegin (.itemOrEnd frames) (.item [] :: frames) := by
  intro lexeme moved begun
  cases lexeme <;> first | exact begun | exact absurd begun (by simp [beginValue])

theorem parse_cons {state moved : State} {lexeme : Lexeme}
    (step : parseStep state lexeme = some moved) (rest : List Lexeme) :
    parse state (lexeme :: rest) = parse moved rest := by
  rw [parse, step]
  rfl

def Parses (value : Value Numeral) : Prop :=
  ∀ (state : State) (frames : List Frame) (rest : List Lexeme), MayBegin state frames →
    parse state (lexemes value ++ rest) = parse (.done value frames) rest

theorem parse_items {items : List (Value Numeral)} (some_ : items ≠ [])
    (each : ∀ item ∈ items, Parses item) {state : State} {before : List (Value Numeral)}
    {frames : List Frame} (begins : MayBegin state (.item before :: frames)) (rest : List Lexeme) :
    parse state ([.valueSeparator].intercalate (itemLexemes items) ++ .endArray :: rest) =
      parse (.done (.array (before.reverse ++ items)) frames) rest := by
  induction items generalizing state before with
  | nil => exact absurd rfl some_
  | cons item others ih =>
    have first (further : List Lexeme) :=
      each item List.mem_cons_self state (.item before :: frames) further begins
    cases others with
    | nil =>
      rw [itemLexemes, itemLexemes, List.intercalate_singleton, first, parse_cons rfl,
        List.reverse_cons]
    | cons next others =>
      have later := ih (by simp) (fun other member => each other (List.mem_cons_of_mem _ member))
        (mayBegin_value (.item (item :: before) :: frames))
      rw [itemLexemes, List.intercalate_cons_of_ne_nil (by simp [itemLexemes]), List.append_assoc,
        List.append_assoc, first, List.singleton_append, parse_cons rfl, later, List.reverse_cons,
        List.append_assoc, List.singleton_append]

def AwaitsKey (state : State) (before : List (CodeUnits × Value Numeral)) (frames : List Frame) :
    Prop :=
  ∀ key, parseStep state (.string key) = some (.separator before key frames)

theorem parse_members {members : List (CodeUnits × Value Numeral)} (some_ : members ≠ [])
    (each : ∀ member ∈ members, Parses member.2) {state : State}
    {before : List (CodeUnits × Value Numeral)} {frames : List Frame}
    (awaits : AwaitsKey state before frames) (rest : List Lexeme) :
    parse state ([.valueSeparator].intercalate (memberLexemes members) ++ .endObject :: rest) =
      parse (.done (.object (before.reverse ++ members)) frames) rest := by
  induction members generalizing state before with
  | nil => exact absurd rfl some_
  | cons member others ih =>
    obtain ⟨key, value⟩ := member
    have first (further : List Lexeme) :
        parse state (.string key :: .nameSeparator :: lexemes value ++ further) =
          parse (.done value (.member before key :: frames)) further := by
      rw [List.cons_append, List.cons_append, parse_cons (awaits key), parse_cons rfl]
      exact each (key, value) List.mem_cons_self _ _ further (mayBegin_value _)
    cases others with
    | nil =>
      rw [memberLexemes, memberLexemes, List.intercalate_singleton, first, parse_cons rfl,
        List.reverse_cons]
    | cons next others =>
      have next_ : AwaitsKey (.key ((key, value) :: before) frames) ((key, value) :: before)
          frames := fun _ => rfl
      have later :=
        ih (by simp) (fun other found => each other (List.mem_cons_of_mem _ found)) next_
      rw [memberLexemes, List.intercalate_cons_of_ne_nil (by simp [memberLexemes]),
        List.append_assoc, List.append_assoc, first, List.singleton_append, parse_cons rfl, later,
        List.reverse_cons, List.append_assoc, List.singleton_append]

theorem parses (value : Value Numeral) : Parses value := by
  induction value using Value.induction with
  | null =>
    intro state frames rest begins
    exact parse_cons (begins _ _ rfl) rest
  | bool value =>
    intro state frames rest begins
    exact parse_cons (begins _ _ rfl) rest
  | number value =>
    intro state frames rest begins
    exact parse_cons (begins _ _ rfl) rest
  | string text =>
    intro state frames rest begins
    exact parse_cons (begins _ _ rfl) rest
  | array items each =>
    intro state frames rest begins
    rw [lexemes, List.cons_append, parse_cons (begins _ _ rfl), List.append_assoc,
      List.singleton_append]
    cases items with
    | nil => exact parse_cons rfl rest
    | cons item others => exact parse_items (by simp) each (mayBegin_itemOrEnd frames) rest
  | object members each =>
    intro state frames rest begins
    rw [lexemes, List.cons_append, parse_cons (begins _ _ rfl), List.append_assoc,
      List.singleton_append]
    cases members with
    | nil => exact parse_cons rfl rest
    | cons member others =>
      have awaits : AwaitsKey (.keyOrEnd frames) [] frames := fun _ => rfl
      exact parse_members (by simp) each awaits rest

/-- Whatever text is cut into the lexemes of a value is read as that value. -/
theorem read_of_lex {text : CodeUnits} {value : Value Numeral}
    (cut : lex .between text = some (lexemes value)) : read text = some value := by
  have whole := parses value (.value []) [] [] (mayBegin_value [])
  rw [List.append_nil] at whole
  rw [read, cut, Option.bind_eq_bind, Option.bind_some, whole, parse]

end Json
