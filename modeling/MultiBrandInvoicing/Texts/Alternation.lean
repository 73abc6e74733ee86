import Mathlib.Data.List.Basic

/-!
# Patterns that are alternatives of fixed texts

The sources of regular expressions that consist of one group of alternatives, each a sequence of
characters and escaped characters, and the split of a text at their matches.  Where every
special character is escaped, the alternatives are the texts that were escaped.
-/

set_option autoImplicit false

namespace Texts

def backslash : Char := Char.ofNat 92

def syntaxCharacters : List Char :=
  "^$.*+?()[]|".toList ++ [backslash, Char.ofNat 123, Char.ofNat 125]

def isSyntaxCharacter (char : Char) : Bool := syntaxCharacters.contains char

/-! ## The source of a pattern -/

def escapeChar (char : Char) : List Char :=
  if isSyntaxCharacter char then [backslash, char] else [char]

def escapeRegExp (text : List Char) : List Char := text.flatMap escapeChar

def alternation (alternatives : List (List Char)) : List Char :=
  '(' :: (['|'].intercalate (alternatives.map escapeRegExp) ++ [')'])

def prefixed (char : Char) : List (List Char) → List (List Char)
  | [] => []
  | first :: others => (char :: first) :: others

/-- The alternatives from here to the parenthesis that ends the pattern.  Whatever else a pattern
can hold has no reading here. -/
def readAlternatives : List Char → Option (List (List Char))
  | [] => none
  | [char] => if char = ')' then some [[]] else none
  | char :: next :: rest =>
      if char = backslash then
        if isSyntaxCharacter next then (readAlternatives rest).map (prefixed next) else none
      else if char = '|' then (readAlternatives (next :: rest)).map ([] :: ·)
      else if isSyntaxCharacter char then none
      else (readAlternatives (next :: rest)).map (prefixed char)

def readPattern : List Char → Option (List (List Char))
  | [] => none
  | char :: rest => if char = '(' then readAlternatives rest else none

theorem isSyntaxCharacter_backslash : isSyntaxCharacter backslash = true := by decide +kernel

theorem isSyntaxCharacter_bar : isSyntaxCharacter '|' = true := by decide +kernel

theorem readAlternatives_escapeChar (char : Char) {rest : List Char} (some_ : rest ≠ []) :
    readAlternatives (escapeChar char ++ rest) = (readAlternatives rest).map (prefixed char) := by
  by_cases special : isSyntaxCharacter char = true
  · simp [escapeChar, special, readAlternatives]
  · obtain ⟨next, later, rfl⟩ := List.exists_cons_of_ne_nil some_
    have notBackslash : char ≠ backslash := by
      rintro rfl
      exact special isSyntaxCharacter_backslash
    have notBar : char ≠ '|' := by
      rintro rfl
      exact special isSyntaxCharacter_bar
    simp [escapeChar, special, readAlternatives, notBackslash, notBar]

theorem readAlternatives_escapeRegExp (text : List Char) {rest : List Char} (some_ : rest ≠ []) :
    readAlternatives (escapeRegExp text ++ rest) =
      (readAlternatives rest).map fun alternatives => text.foldr prefixed alternatives := by
  induction text with
  | nil => simp [escapeRegExp]
  | cons char text ih =>
      have more : escapeRegExp text ++ rest ≠ [] := by simp [some_]
      have split : escapeRegExp (char :: text) ++ rest =
          escapeChar char ++ (escapeRegExp text ++ rest) := by
        simp [escapeRegExp]
      rw [split, readAlternatives_escapeChar _ more, ih, Option.map_map]
      rfl

theorem foldr_prefixed (text first : List Char) (others : List (List Char)) :
    text.foldr prefixed (first :: others) = (text ++ first) :: others := by
  induction text with
  | nil => rfl
  | cons char text ih => rw [List.foldr_cons, ih]; rfl

theorem readAlternatives_bar {rest : List Char} (some_ : rest ≠ []) :
    readAlternatives ('|' :: rest) = (readAlternatives rest).map ([] :: ·) := by
  obtain ⟨next, later, rfl⟩ := List.exists_cons_of_ne_nil some_
  have different : ¬('|' = backslash) := by decide
  simp [readAlternatives, different]

theorem readPattern_alternation {alternatives : List (List Char)} (some_ : alternatives ≠ []) :
    readPattern (alternation alternatives) = some alternatives := by
  have body : ∀ first others, readAlternatives
      (['|'].intercalate ((first :: others).map escapeRegExp) ++ [')']) =
        some (first :: others) := by
    intro first others
    induction others generalizing first with
    | nil =>
        rw [List.map_singleton, List.intercalate_singleton,
          readAlternatives_escapeRegExp first (by simp)]
        simp [readAlternatives, foldr_prefixed]
    | cons second others ih =>
        have more : ['|'].intercalate ((second :: others).map escapeRegExp) ++ [')'] ≠ [] := by
          simp
        rw [List.map_cons, List.map_cons, List.intercalate_cons_cons, ← List.map_cons,
          List.append_assoc, List.append_assoc, readAlternatives_escapeRegExp first (by simp),
          List.singleton_append, readAlternatives_bar more, ih second]
        simp [foldr_prefixed]
  obtain ⟨first, others, rfl⟩ := List.exists_cons_of_ne_nil some_
  simp only [alternation, readPattern, if_pos]
  exact body first others

/-! ## Splitting at the matches -/

def alternativeAt (alternatives : List (List Char)) (text : List Char) : Option (List Char) :=
  alternatives.find? fun alternative => alternative.isPrefixOf text

/-- The parts from some point on: the first characters belong to the match before, and `piece`
has been passed since.  A match of nothing is one only after a character that was passed. -/
def splitFrom (alternatives : List (List Char)) :
    Nat → List Char → List Char → List (List Char)
  | _, piece, [] => [piece]
  | skipped + 1, piece, _ :: rest => splitFrom alternatives skipped piece rest
  | 0, piece, char :: rest =>
      match alternativeAt alternatives (char :: rest) with
      | none => splitFrom alternatives 0 (piece ++ [char]) rest
      | some [] =>
          if piece = [] then splitFrom alternatives 0 [char] rest
          else piece :: [] :: splitFrom alternatives 0 [char] rest
      | some (first :: others) =>
          piece :: (first :: others) :: splitFrom alternatives others.length [] rest

/-- `text.split(pattern)`, where the alternatives are a group that is captured. -/
def split (alternatives : List (List Char)) (text : List Char) : List (List Char) :=
  splitFrom alternatives 0 [] text

theorem flatten_splitFrom (alternatives : List (List Char)) (skipped : Nat)
    (piece text : List Char) :
    (splitFrom alternatives skipped piece text).flatten = piece ++ text.drop skipped := by
  induction text generalizing skipped piece with
  | nil => cases skipped <;> simp [splitFrom]
  | cons char rest ih =>
      cases skipped with
      | succ skipped => exact ih skipped piece
      | zero =>
          cases found : alternativeAt alternatives (char :: rest) with
          | none => simp [splitFrom, found, ih]
          | some alternative =>
              cases alternative with
              | nil =>
                  by_cases passed : piece = []
                  · simp [splitFrom, found, ih, passed]
                  · simp [splitFrom, found, ih, passed]
              | cons first others =>
                  have begins := List.find?_some found
                  rw [List.isPrefixOf_iff_prefix] at begins
                  obtain ⟨later, same⟩ := begins
                  obtain ⟨rfl, tail⟩ := List.cons.inj same
                  have after : others ++ rest.drop others.length = rest := by
                    rw [← tail]
                    simp
                  simp [splitFrom, found, ih, after]

/-- No character of the text is lost or added. -/
theorem flatten_split (alternatives : List (List Char)) (text : List Char) :
    (split alternatives text).flatten = text :=
  flatten_splitFrom alternatives 0 [] text

end Texts
