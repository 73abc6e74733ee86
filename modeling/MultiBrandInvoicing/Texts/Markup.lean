import Mathlib.Data.List.Basic

/-!
# Reading markup

A text is read unit by unit: between tags, inside a tag, or inside a quoted value of a tag.  Between
tags and in quoted values an ampersand, a name and a semicolon stand for one unit.  What is inserted
with its special units escaped is read as it was, at the place it was inserted at, and the reading
of all else is that of the template.
-/

set_option autoImplicit false

namespace Markup

variable {α : Type}

structure Signs (α : Type) where
  opens : α
  closes : α
  quotation : α
  ampersand : α
  semicolon : α
  /-- What the name of a reference is made of. -/
  isLetter : α → Bool
  /-- What a name stands for. -/
  entity : List α → Option α

inductive Place where
  | text
  | tag
  | quoted
  deriving DecidableEq, Repr

structure Event (α : Type) where
  place : Place
  unit : α
  deriving DecidableEq, Repr

/-- Where the reading is, and the letters of a reference that has begun. -/
structure State (α : Type) where
  place : Place
  name : Option (List α) := none
  deriving DecidableEq, Repr

def atPlace (place : Place) (units : List α) : List (Event α) := units.map fun unit => ⟨place, unit⟩

section Reading

variable [DecidableEq α] (signs : Signs α)

/-- The next unit where no reference has begun.  The signs of a tag belong to it. -/
def plainStep (place : Place) (unit : α) : State α × List (Event α) :=
  match place with
  | .text =>
    if unit = signs.opens then (⟨.tag, none⟩, [⟨.tag, unit⟩])
    else if unit = signs.ampersand then (⟨.text, some []⟩, [])
    else (⟨.text, none⟩, [⟨.text, unit⟩])
  | .tag =>
    if unit = signs.quotation then (⟨.quoted, none⟩, [⟨.tag, unit⟩])
    else if unit = signs.closes then (⟨.text, none⟩, [⟨.tag, unit⟩])
    else (⟨.tag, none⟩, [⟨.tag, unit⟩])
  | .quoted =>
    if unit = signs.quotation then (⟨.tag, none⟩, [⟨.tag, unit⟩])
    else if unit = signs.ampersand then (⟨.quoted, some []⟩, [])
    else (⟨.quoted, none⟩, [⟨.quoted, unit⟩])

/-- A reference that does not end as one is what it is made of. -/
def step (state : State α) (unit : α) : State α × List (Event α) :=
  match state.name with
  | none => plainStep signs state.place unit
  | some name =>
    if signs.isLetter unit then (⟨state.place, some (name ++ [unit])⟩, [])
    else if unit = signs.semicolon then
      (⟨state.place, none⟩, atPlace state.place
        (match signs.entity name with
        | some meant => [meant]
        | none => signs.ampersand :: (name ++ [unit])))
    else
      let next := plainStep signs state.place unit
      (next.1, atPlace state.place (signs.ampersand :: name) ++ next.2)

def read (state : State α) : List α → State α × List (Event α)
  | [] => (state, [])
  | unit :: rest =>
    let next := step signs state unit
    let later := read next.1 rest
    (later.1, next.2 ++ later.2)

theorem read_append (state : State α) (first second : List α) :
    read signs state (first ++ second) =
      ((read signs (read signs state first).1 second).1,
        (read signs state first).2 ++ (read signs (read signs state first).1 second).2) := by
  induction first generalizing state with
  | nil => rfl
  | cons unit rest ih =>
    rw [List.cons_append, read, ih, read]
    simp only [List.append_assoc]

end Reading

/-! ## Inserted values -/

/-- A special unit is written as a reference to it, the others as they are. -/
structure Escapes (signs : Signs α) (escape : List α → List α) (written : α → List α) :
    Prop where
  flat : ∀ units, escape units = units.flatMap written
  notOpens : signs.ampersand ≠ signs.opens
  notQuotation : signs.ampersand ≠ signs.quotation
  notLetter : signs.isLetter signs.semicolon = false
  each : ∀ unit, written unit = [unit] ∧ unit ≠ signs.opens ∧ unit ≠ signs.quotation ∧
      unit ≠ signs.ampersand ∨
    ∃ name, written unit = signs.ampersand :: (name ++ [signs.semicolon]) ∧
      (∀ letter ∈ name, signs.isLetter letter = true) ∧ signs.entity name = some unit

section Inserting

variable [DecidableEq α] {signs : Signs α} {escape : List α → List α} {written : α → List α}

theorem read_name {place : Place} {name : List α}
    (letters : ∀ letter ∈ name, signs.isLetter letter = true) (before rest : List α) :
    read signs ⟨place, some before⟩ (name ++ rest) =
      read signs ⟨place, some (before ++ name)⟩ rest := by
  induction name generalizing before with
  | nil => rw [List.nil_append, List.append_nil]
  | cons letter others ih =>
    have first := letters letter List.mem_cons_self
    rw [List.cons_append, read, step]
    simp only [first, if_true]
    rw [ih (fun other member => letters other (List.mem_cons_of_mem _ member)), List.append_assoc]
    rfl

theorem read_written (escapes : Escapes signs escape written) {place : Place}
    (outside : place ≠ .tag) (unit : α) :
    read signs ⟨place, none⟩ (written unit) = (⟨place, none⟩, [⟨place, unit⟩]) := by
  rcases escapes.each unit with ⟨same, notOpens, notQuotation, notAmpersand⟩ |
    ⟨name, reference, letters, meant⟩
  · rw [same, read, step]
    cases place with
    | text => simp [plainStep, notOpens, notAmpersand, read]
    | tag => exact absurd rfl outside
    | quoted => simp [plainStep, notQuotation, notAmpersand, read]
  · have begun : step signs ⟨place, none⟩ signs.ampersand = (⟨place, some []⟩, []) := by
      rw [step]
      cases place with
      | text => simp [plainStep, escapes.notOpens]
      | tag => exact absurd rfl outside
      | quoted => simp [plainStep, escapes.notQuotation]
    rw [reference, read, begun]
    simp only [List.nil_append]
    rw [read_name letters, List.nil_append, read, step]
    simp [escapes.notLetter, meant, read, atPlace]

inductive Piece (α : Type) where
  | markup (units : List α)
  | value (units : List α)
  deriving DecidableEq, Repr

def Piece.html (escape : List α → List α) : Piece α → List α
  | .markup units => units
  | .value units => escape units

def html (escape : List α → List α) (pieces : List (Piece α)) : List α :=
  pieces.flatMap (Piece.html escape)

/-- The reading of a template, with its values as they are. -/
def told (signs : Signs α) (state : State α) : List (Piece α) → State α × List (Event α)
  | [] => (state, [])
  | .markup units :: rest =>
    let next := read signs state units
    let later := told signs next.1 rest
    (later.1, next.2 ++ later.2)
  | .value units :: rest =>
    let later := told signs state rest
    (later.1, atPlace state.place units ++ later.2)

def Piece.hole : Piece α → Option (List α)
  | .markup units => some units
  | .value _ => none

/-- Where a template leads, if its values stand between tags and in quoted values. -/
def leads (signs : Signs α) (state : State α) : List (Option (List α)) → Option (State α)
  | [] => some state
  | some units :: rest => leads signs (read signs state units).1 rest
  | none :: rest =>
    if state.place ≠ .tag ∧ state.name = none then leads signs state rest else none

def Leads (signs : Signs α) (state : State α) (pieces : List (Piece α)) (last : State α) : Prop :=
  leads signs state (pieces.map Piece.hole) = some last

theorem read_values (escapes : Escapes signs escape written) {place : Place}
    (outside : place ≠ .tag) (units : List α) :
    read signs ⟨place, none⟩ (escape units) = (⟨place, none⟩, atPlace place units) := by
  rw [escapes.flat]
  induction units with
  | nil => rfl
  | cons unit rest ih =>
    rw [List.flatMap_cons, read_append, read_written escapes outside]
    simp only [ih]
    rfl

theorem read_html (escapes : Escapes signs escape written) {pieces : List (Piece α)}
    {state last : State α} (fits : Leads signs state pieces last) :
    read signs state (html escape pieces) = told signs state pieces ∧
      (told signs state pieces).1 = last := by
  induction pieces generalizing state with
  | nil => exact ⟨rfl, Option.some.inj fits⟩
  | cons piece rest ih =>
    rw [html, List.flatMap_cons, ← html, read_append]
    cases piece with
    | markup units =>
      obtain ⟨later, ends⟩ := ih fits
      rw [Piece.html, later, told]
      exact ⟨rfl, ends⟩
    | value units =>
      rw [Leads, List.map_cons, Piece.hole, leads] at fits
      split at fits
      next outside =>
        obtain ⟨place, name⟩ := state
        obtain ⟨outside, rfl⟩ := outside
        obtain ⟨later, ends⟩ := ih fits
        rw [Piece.html, read_values escapes outside]
        simp only [later]
        exact ⟨rfl, ends⟩
      · cases fits

theorem read_plain {place : Place} (outside : place ≠ .tag) {units : List α}
    (plain : ∀ unit ∈ units, unit ≠ signs.opens ∧ unit ≠ signs.quotation ∧
      unit ≠ signs.ampersand) :
    read signs ⟨place, none⟩ units = (⟨place, none⟩, atPlace place units) := by
  induction units with
  | nil => rfl
  | cons unit rest ih =>
    obtain ⟨notOpens, notQuotation, notAmpersand⟩ := plain unit List.mem_cons_self
    have here : step signs ⟨place, none⟩ unit = (⟨place, none⟩, [⟨place, unit⟩]) := by
      cases place with
      | text => simp [step, plainStep, notOpens, notAmpersand]
      | tag => exact absurd rfl outside
      | quoted => simp [step, plainStep, notQuotation, notAmpersand]
    rw [read, here, ih fun other member => plain other (List.mem_cons_of_mem _ member)]
    rfl

theorem leads_append (state : State α) (first second : List (Option (List α))) :
    leads signs state (first ++ second) =
      (leads signs state first).bind fun middle => leads signs middle second := by
  induction first generalizing state with
  | nil => rfl
  | cons hole rest ih =>
    cases hole with
    | some units => exact ih _
    | none =>
      rw [List.cons_append, leads, leads]
      split
      · exact ih _
      · rfl

theorem Leads.append {first second : List (Piece α)} {state middle last : State α}
    (one : Leads signs state first middle) (other : Leads signs middle second last) :
    Leads signs state (first ++ second) last := by
  rw [Leads, List.map_append, leads_append, one]
  exact other

theorem leads_flatten {blocks : List (List (Piece α))} {state : State α}
    (each : ∀ block ∈ blocks, Leads signs state block state) :
    Leads signs state blocks.flatten state := by
  induction blocks with
  | nil => rfl
  | cons block rest ih =>
    rw [List.flatten_cons]
    exact (each block List.mem_cons_self).append
      (ih fun other member => each other (List.mem_cons_of_mem _ member))

theorem leads_each {pieces : List (Piece α)} {state : State α}
    (each : ∀ piece ∈ pieces, Leads signs state [piece] state) :
    Leads signs state pieces state := by
  induction pieces with
  | nil => rfl
  | cons piece rest ih =>
    have begins := each piece List.mem_cons_self
    exact begins.append (ih fun other member => each other (List.mem_cons_of_mem _ member))

theorem leads_intercalate {separator : List (Piece α)} {blocks : List (List (Piece α))}
    {state : State α} (between : Leads signs state separator state)
    (each : ∀ block ∈ blocks, Leads signs state block state) :
    Leads signs state (separator.intercalate blocks) state := by
  induction blocks with
  | nil => rfl
  | cons block rest ih =>
    have first := each block List.mem_cons_self
    have others := ih fun other member => each other (List.mem_cons_of_mem _ member)
    cases rest with
    | nil =>
      rw [List.intercalate_singleton]
      exact first
    | cons next more =>
      rw [List.intercalate_cons_of_ne_nil (List.cons_ne_nil _ _)]
      exact (first.append between).append others

/-! ## The tags -/

def tags (events : List (Event α)) : List α :=
  (events.filter fun event => event.place = .tag).map Event.unit

theorem tags_told {pieces others : List (Piece α)} {state last : State α}
    (fits : Leads signs state pieces last)
    (same : pieces.map Piece.hole = others.map Piece.hole) :
    tags (told signs state pieces).2 = tags (told signs state others).2 := by
  induction pieces generalizing others state with
  | nil =>
    rw [List.map_nil, eq_comm, List.map_eq_nil_iff] at same
    rw [same]
  | cons piece rest ih =>
    have some_ : others ≠ [] := by
      intro none_
      rw [none_] at same
      cases same
    obtain ⟨other, further, rfl⟩ := List.exists_cons_of_ne_nil some_
    rw [List.map_cons, List.map_cons] at same
    obtain ⟨here, behind⟩ := List.cons.inj same
    have split (first second : List (Event α)) : tags (first ++ second) = tags first ++ tags second := by
      rw [tags, List.filter_append, List.map_append]
      rfl
    have outside_ {place : Place} (outside : place ≠ .tag) (units : List α) :
        tags (atPlace place units) = [] := by
      simp [tags, atPlace, List.filter_map, Function.comp_def, outside]
    cases piece with
    | markup units =>
      cases other with
      | markup written =>
        obtain rfl := Option.some.inj here
        rw [told, told, split, split, ih fits behind]
      | value written => cases here
    | value units =>
      cases other with
      | markup written => cases here
      | value written =>
        rw [Leads, List.map_cons, Piece.hole, leads] at fits
        split at fits
        next place =>
          rw [told, told, split, split, outside_ place.1, outside_ place.1, ih fits behind]
        · cases fits

end Inserting

end Markup
