import Mathlib.Data.List.Basic

/-!
# Placeholders in texts

A text is read from left to right as characters and placeholders, and written again with a
value for each placeholder.  `replaceAll` is that of the language for a search text: its
replacement is a template of its own, in which a dollar sign stands for parts of the text.
-/

set_option autoImplicit false

namespace Texts

inductive Piece (ι : Type) where
  | letter (char : Char)
  | token (name : ι)
  deriving DecidableEq, Repr

variable {ι : Type}

/-! ## Reading and writing -/

section Reading

variable (token : ι → List Char)

def tokenAt (names : List ι) (text : List Char) : Option ι :=
  names.find? fun name => (token name).isPrefixOf text

/-- The pieces of a text; the first characters still belong to the token read last. -/
def read (names : List ι) : Nat → List Char → List (Piece ι)
  | _, [] => []
  | skipped + 1, _ :: rest => read names skipped rest
  | 0, char :: rest =>
      match tokenAt token names (char :: rest) with
      | some name => .token name :: read names ((token name).length - 1) rest
      | none => .letter char :: read names 0 rest

def Piece.write (value : ι → List Char) : Piece ι → List Char
  | .letter char => [char]
  | .token name => value name

def write (value : ι → List Char) (pieces : List (Piece ι)) : List Char :=
  pieces.flatMap (Piece.write value)

def substituted (names : List ι) (value : ι → List Char) (text : List Char) : List Char :=
  write value (read token names 0 text)

/-- A token that is not empty begins neither with nor inside another, and another does not
begin inside it. -/
structure Apart : Prop where
  some_ : ∀ name, token name ≠ []
  apart : ∀ name other inside, inside < (token name).length →
    (inside ≠ 0 ∨ other ≠ name) →
    ¬token other <+: (token name).drop inside ∧ ¬(token name).drop inside <+: token other

variable {token} {names : List ι}

theorem tokenAt_eq_some {text : List Char} {name : ι}
    (found : tokenAt token names text = some name) :
    name ∈ names ∧ ∃ rest, text = token name ++ rest := by
  have begins := List.find?_some found
  rw [List.isPrefixOf_iff_prefix] at begins
  obtain ⟨rest, same⟩ := begins
  exact ⟨List.mem_of_find?_eq_some found, rest, same.symm⟩

theorem read_skipped (skipped rest : List Char) :
    read token names skipped.length (skipped ++ rest) = read token names 0 rest := by
  induction skipped with
  | nil => rfl
  | cons char skipped ih => exact ih

theorem read_token (apart : Apart token) {name : ι} {rest : List Char}
    (found : tokenAt token names (token name ++ rest) = some name) :
    read token names 0 (token name ++ rest) = .token name :: read token names 0 rest := by
  obtain ⟨first, others, same⟩ := List.exists_cons_of_ne_nil (apart.some_ name)
  have begun : token name ++ rest = first :: (others ++ rest) := by rw [same]; rfl
  rw [begun] at found ⊢
  simp only [read, found]
  rw [same, List.length_cons, Nat.add_sub_cancel, read_skipped]

theorem read_char {char : Char} {rest : List Char}
    (absent : tokenAt token names (char :: rest) = none) :
    read token names 0 (char :: rest) = .letter char :: read token names 0 rest := by
  simp only [read, absent]

theorem reading (apart : Apart token) (names : List ι) {P : List Char → Prop} (nil : P [])
    (atToken : ∀ name rest, name ∈ names →
      tokenAt token names (token name ++ rest) = some name → P rest → P (token name ++ rest))
    (atChar : ∀ char rest, tokenAt token names (char :: rest) = none → P rest →
      P (char :: rest))
    (text : List Char) : P text := by
  induction long : text.length using Nat.strongRecOn generalizing text with
  | ind length ih =>
      cases text with
      | nil => exact nil
      | cons char rest =>
          cases found : tokenAt token names (char :: rest) with
          | none => exact atChar char rest found (ih rest.length (by simp [← long]) rest rfl)
          | some name =>
              obtain ⟨member, after, same⟩ := tokenAt_eq_some found
              rw [same] at found ⊢
              have positive := List.length_pos_iff.mpr (apart.some_ name)
              refine atToken name after member found (ih after.length ?_ after rfl)
              rw [← long, same, List.length_append]
              omega

theorem read_chars {chars rest : List Char}
    (absent : ∀ inside < chars.length, tokenAt token names (chars.drop inside ++ rest) = none) :
    read token names 0 (chars ++ rest) = chars.map .letter ++ read token names 0 rest := by
  induction chars with
  | nil => rfl
  | cons char chars ih =>
      have here : tokenAt token names (char :: (chars ++ rest)) = none := absent 0 (by simp)
      rw [List.cons_append, read_char here, List.map_cons, List.cons_append]
      refine congrArg _ (ih fun inside below => ?_)
      exact absent (inside + 1) (Nat.succ_lt_succ below)

theorem mem_names_of_read (apart : Apart token) {name : ι} (text : List Char)
    (member : .token name ∈ read token names 0 text) : name ∈ names := by
  induction text using reading apart names with
  | nil => simp [read] at member
  | atToken other rest named found ih =>
      rw [read_token apart found, List.mem_cons] at member
      rcases member with same | later
      · cases same
        exact named
      · exact ih later
  | atChar char rest absent ih =>
      rw [read_char absent, List.mem_cons] at member
      exact ih (member.resolve_left (by simp))

theorem write_read (apart : Apart token) (text : List Char) :
    write token (read token names 0 text) = text := by
  induction text using reading apart names with
  | nil => rfl
  | atToken name rest named found ih =>
      rw [read_token apart found]
      exact congrArg (token name ++ ·) ih
  | atChar char rest absent ih =>
      rw [read_char absent]
      exact congrArg (char :: ·) ih

theorem Apart.not_prefix (apart : Apart token) {name other : ι} {inside : Nat}
    {rest : List Char} (below : inside < (token name).length)
    (different : inside ≠ 0 ∨ other ≠ name) :
    ¬token other <+: (token name).drop inside ++ rest := by
  intro begins
  obtain ⟨within, beyond⟩ := apart.apart name other inside below different
  rcases List.prefix_or_prefix_of_prefix begins (List.prefix_append _ rest) with short | long
  · exact within short
  · exact beyond long

end Reading

/-! ## Replacing a search text -/

def backtick : Char := Char.ofNat 96

def apostrophe : Char := Char.ofNat 39

/-- What a dollar sign with this character after it stands for, where it stands for anything. -/
def reference? (matched before after : List Char) (char : Char) : Option (List Char) :=
  if char = '$' then some ['$']
  else if char = '&' then some matched
  else if char = backtick then some before
  else if char = apostrophe then some after
  else none

/-- The replacement of one match.  Numbers and names of groups stand for nothing, as a search
text has no groups. -/
def getSubstitution (matched before after : List Char) : List Char → List Char
  | [] => []
  | [char] => [char]
  | char :: next :: rest =>
      match if char = '$' then reference? matched before after next else none with
      | some referred => referred ++ getSubstitution matched before after rest
      | none => char :: getSubstitution matched before after (next :: rest)

/-- The text from some point on, where `before` is what came before it. -/
def replaceFrom (search replacement : List Char) : Nat → List Char → List Char → List Char
  | _, _, [] => []
  | skipped + 1, before, char :: rest =>
      replaceFrom search replacement skipped (before ++ [char]) rest
  | 0, before, char :: rest =>
      if search.isPrefixOf (char :: rest) then
        getSubstitution search before ((char :: rest).drop search.length) replacement ++
          replaceFrom search replacement (search.length - 1) (before ++ [char]) rest
      else char :: replaceFrom search replacement 0 (before ++ [char]) rest

/-- `text.replaceAll(search, replacement)` for a search text that is not empty. -/
def replaceAll (search replacement text : List Char) : List Char :=
  replaceFrom search replacement 0 [] text

/-- No dollar sign of the text stands for anything. -/
def isLiteral : List Char → Bool
  | char :: next :: rest =>
      !(char = '$' && (reference? [] [] [] next).isSome) && isLiteral (next :: rest)
  | _ => true

theorem getSubstitution_literal {matched before after replacement : List Char}
    (literal : isLiteral replacement = true) :
    getSubstitution matched before after replacement = replacement := by
  induction replacement with
  | nil => rfl
  | cons char rest ih =>
      cases rest with
      | nil => rfl
      | cons next rest =>
          rw [isLiteral, Bool.and_eq_true] at literal
          obtain ⟨here, later⟩ := literal
          have plain : (if char = '$' then reference? matched before after next else none) =
              none := by
            by_cases dollar : char = '$'
            · rw [if_pos dollar]
              simp only [dollar, decide_true, Bool.true_and, Bool.not_eq_true'] at here
              unfold reference? at here ⊢
              split_ifs at here ⊢ <;> first | rfl | cases here
            · rw [if_neg dollar]
          rw [getSubstitution, plain]
          exact congrArg _ (ih later)

def IsForeign (text : List Char) : Prop := ∃ first rest, text = first :: rest ∧ first ≠ '$'

section Sharpness

variable {matched before after : List Char}

theorem isSome_reference? (char : Char) :
    (reference? matched before after char).isSome = (reference? [] [] [] char).isSome := by
  unfold reference?
  split_ifs <;> rfl

theorem reference?_cases (foreign : IsForeign matched ∧ IsForeign before ∧ IsForeign after)
    {char : Char} {referred : List Char}
    (refers : reference? matched before after char = some referred) :
    (char = '$' ∧ referred = ['$']) ∨ IsForeign referred := by
  unfold reference? at refers
  split_ifs at refers with dollar
  · exact .inl ⟨dollar, (Option.some.inj refers).symm⟩
  · exact .inr (Option.some.inj refers ▸ foreign.1)
  · exact .inr (Option.some.inj refers ▸ foreign.2.1)
  · exact .inr (Option.some.inj refers ▸ foreign.2.2)

theorem IsForeign.append_ne {text later other : List Char} (foreign : IsForeign text) :
    text ++ later ≠ '$' :: other := by
  obtain ⟨first, rest, rfl, different⟩ := foreign
  intro same
  exact different (List.cons.inj same).1

/-- A replacement never comes to itself with dollar signs in front. -/
theorem getSubstitution_ne (foreign : IsForeign matched ∧ IsForeign before ∧ IsForeign after)
    (replacement : List Char) (dollars : Nat) :
    getSubstitution matched before after replacement ≠
      List.replicate (dollars + 1) '$' ++ replacement := by
  fun_induction getSubstitution matched before after replacement generalizing dollars with
  | case1 => simp
  | case2 char =>
      intro same
      have lengths := congrArg List.length same
      simp at lengths
  | case3 char next rest referred refers ih =>
      intro same
      by_cases dollar : char = '$'
      · rw [if_pos dollar] at refers
        rcases reference?_cases foreign refers with ⟨rfl, rfl⟩ | other
        · refine ih (dollars + 1) ?_
          rw [List.replicate_succ, dollar] at same
          have tails := (List.cons.inj same).2
          simpa [List.replicate_succ'] using tails
        · exact other.append_ne same
      · rw [if_neg dollar] at refers
        cases refers
  | case4 char next rest plain ih =>
      intro same
      rw [List.replicate_succ, List.cons_append] at same
      obtain ⟨rfl, tails⟩ := List.cons.inj same
      refine ih dollars ?_
      simpa [List.replicate_succ'] using tails

theorem literal_of_getSubstitution
    (foreign : IsForeign matched ∧ IsForeign before ∧ IsForeign after) {replacement : List Char}
    (same : getSubstitution matched before after replacement = replacement) :
    isLiteral replacement = true := by
  fun_induction getSubstitution matched before after replacement with
  | case1 => rfl
  | case2 char => rfl
  | case3 char next rest referred refers ih =>
      by_cases dollar : char = '$'
      · rw [if_pos dollar] at refers
        rcases reference?_cases foreign refers with ⟨rfl, rfl⟩ | other
        · rw [dollar] at same
          exact absurd (List.cons.inj same).2 (getSubstitution_ne foreign rest 0)
        · rw [dollar] at same
          exact absurd same other.append_ne
      · rw [if_neg dollar] at refers
        cases refers
  | case4 char next rest plain ih =>
      rw [isLiteral, ih (List.cons.inj same).2, Bool.and_true]
      by_cases dollar : char = '$'
      · rw [if_pos dollar] at plain
        have shown : (reference? matched before after next).isSome =
            (reference? [] [] [] next).isSome := isSome_reference? next
        rw [← shown, plain]
        simp
      · simp [dollar]

end Sharpness

section Replacing

variable (token : ι → List Char) [DecidableEq ι]

def onlyFor (name : ι) (value : List Char) (other : ι) : List Char :=
  if other = name then value else token other

def valuesFor (names : List ι) (value : ι → List Char) (name : ι) : List Char :=
  if name ∈ names then value name else token name

variable {token}

theorem replaceFrom_literal {name : ι} {value : List Char} {skipped : Nat}
    (before text : List Char)
    (literal : .token name ∈ read token [name] skipped text → isLiteral value = true) :
    replaceFrom (token name) value skipped before text =
      write (onlyFor token name value) (read token [name] skipped text) := by
  induction text generalizing skipped before with
  | nil => cases skipped <;> rfl
  | cons char rest ih =>
      cases skipped with
      | succ skipped => exact ih (before ++ [char]) literal
      | zero =>
          by_cases begins : (token name).isPrefixOf (char :: rest) = true
          · have found : tokenAt token [name] (char :: rest) = some name := by
              simp only [tokenAt, List.find?_cons, begins]
            simp only [read, found] at literal ⊢
            have plain := literal (by simp)
            rw [replaceFrom, if_pos begins, getSubstitution_literal plain,
              ih (before ++ [char]) fun _ => plain]
            simp [write, Piece.write, onlyFor]
          · have absent : tokenAt token [name] (char :: rest) = none := by
              simpa [tokenAt] using begins
            rw [read_char absent] at literal ⊢
            rw [replaceFrom, if_neg begins,
              ih (before ++ [char]) fun member => literal (List.mem_cons_of_mem _ member)]
            rfl

omit [DecidableEq ι] in
theorem replaceFrom_skipped (search replacement before skipped rest : List Char) :
    replaceFrom search replacement skipped.length before (skipped ++ rest) =
      replaceFrom search replacement 0 (before ++ skipped) rest := by
  induction skipped generalizing before with
  | nil => simp
  | cons char skipped ih =>
      rw [List.length_cons, List.cons_append, replaceFrom, ih]
      simp

theorem replaceAll_between {search : List Char} (replacement : List Char) {first : Char}
    {others : List Char} (same : search = first :: others) (different : first ≠ 'a') :
    replaceAll search replacement ('a' :: (search ++ ['a'])) =
      'a' :: (getSubstitution search ['a'] ['a'] replacement ++ ['a']) := by
  have absent : ∀ rest, search.isPrefixOf ('a' :: rest) = false := by
    intro rest
    simp [same, List.isPrefixOf, different]
  have begins : search.isPrefixOf (search ++ ['a']) = true := by
    rw [List.isPrefixOf_iff_prefix]
    exact List.prefix_append search ['a']
  have after : (search ++ ['a']).drop search.length = ['a'] := List.drop_left
  have rest : replaceFrom search replacement (search.length - 1) (['a'] ++ [first])
      (others ++ ['a']) = ['a'] := by
    rw [same, List.length_cons, Nat.add_sub_cancel, replaceFrom_skipped, ← same, replaceFrom,
      absent]
    rfl
  have begun : search ++ ['a'] = first :: (others ++ ['a']) := by
    rw [same]
    rfl
  rw [replaceAll, replaceFrom, absent, if_neg (by simp), List.nil_append, begun, replaceFrom,
    ← begun, begins, if_pos rfl, after, rest]

/-- A replacement of one token is verbatim in every text exactly if it refers to nothing. -/
theorem replaceAll_verbatim_iff (apart : Apart token) {name : ι} {first : Char}
    {others : List Char} (same : token name = first :: others) (plain : first ≠ '$')
    (different : first ≠ 'a') (value : List Char) :
    (∀ text, replaceAll (token name) value text =
        write (onlyFor token name value) (read token [name] 0 text)) ↔
      isLiteral value = true := by
  constructor
  · intro verbatim
    have here := verbatim ('a' :: (token name ++ ['a']))
    have absent : ∀ rest, tokenAt token [name] ('a' :: rest) = none := by
      intro rest
      simp [tokenAt, same, List.isPrefixOf, different]
    have found : tokenAt token [name] (token name ++ ['a']) = some name := by
      simp [tokenAt]
    rw [replaceAll_between value same different, read_char (absent _), read_token apart found,
      read_char (absent _)] at here
    have foreign : IsForeign ['a'] := ⟨'a', [], rfl, by decide⟩
    refine literal_of_getSubstitution ⟨⟨first, others, same, plain⟩, foreign, foreign⟩ ?_
    simpa [write, Piece.write, onlyFor, read] using here
  · intro literal text
    exact replaceFrom_literal [] text fun _ => literal

def Piece.filled (value : ι → List Char) (names : List ι) : Piece ι → List (Piece ι)
  | .letter char => [.letter char]
  | .token name => if name ∈ names then (value name).map .letter else [.token name]

theorem Piece.eq_of_mem_filled {value : ι → List Char} {names : List ι} {piece : Piece ι}
    {name : ι} (member : .token name ∈ piece.filled value names) : piece = .token name := by
  cases piece with
  | letter char => simp [Piece.filled] at member
  | token other =>
      by_cases listed : other ∈ names
      · simp [Piece.filled, listed] at member
      · simp only [Piece.filled, if_neg listed, List.mem_singleton] at member
        exact member.symm

theorem read_one (apart : Apart token) (name : ι) (later : List ι) (text : List Char) :
    read token [name] 0 text =
      (read token (name :: later) 0 text).flatMap fun piece =>
        if piece = .token name then [piece] else (piece.write token).map .letter := by
  induction text using reading apart (name :: later) with
  | nil => rfl
  | atToken other rest named found ih =>
      rw [read_token apart found, List.flatMap_cons]
      by_cases same : other = name
      · subst same
        have alone : tokenAt token [other] (token other ++ rest) = some other := by
          simp [tokenAt]
        rw [read_token apart alone, ih]
        simp
      · have absent : ∀ inside < (token other).length,
            tokenAt token [name] ((token other).drop inside ++ rest) = none := by
          intro inside below
          have begins : ¬token name <+: (token other).drop inside ++ rest :=
            apart.not_prefix below (.inr (Ne.symm same))
          simpa [tokenAt] using begins
        rw [read_chars absent, ih]
        simp [same, Piece.write]
  | atChar char rest absent ih =>
      have alone : tokenAt token [name] (char :: rest) = none := by
        simp only [tokenAt, List.find?_cons, List.find?_nil] at absent ⊢
        split at absent <;> simp_all
      rw [read_char alone, read_char absent, List.flatMap_cons, ih]
      simp [Piece.write]

omit [DecidableEq ι] in
theorem write_append (value : ι → List Char) (first second : List (Piece ι)) :
    write value (first ++ second) = write value first ++ write value second :=
  List.flatMap_append

omit [DecidableEq ι] in
theorem write_letters (value : ι → List Char) (chars : List Char) :
    write value (chars.map .letter) = chars := by
  induction chars with
  | nil => rfl
  | cons char chars ih => exact congrArg (char :: ·) ih

omit [DecidableEq ι] in
theorem write_congr {first second : ι → List Char} {pieces : List (Piece ι)}
    (same : ∀ name, .token name ∈ pieces → first name = second name) :
    write first pieces = write second pieces := by
  induction pieces with
  | nil => rfl
  | cons piece rest ih =>
      change Piece.write _ piece ++ write _ rest = Piece.write _ piece ++ write _ rest
      rw [ih fun name member => same name (List.mem_cons_of_mem _ member)]
      cases piece with
      | letter char => rfl
      | token name => exact congrArg (· ++ _) (same name List.mem_cons_self)

theorem write_read_one (apart : Apart token) (name : ι) (later : List ι) (value : List Char)
    (text : List Char) :
    write (onlyFor token name value) (read token [name] 0 text) =
      write (onlyFor token name value) (read token (name :: later) 0 text) := by
  rw [read_one apart name later]
  generalize read token (name :: later) 0 text = pieces
  induction pieces with
  | nil => rfl
  | cons piece rest ih =>
      rw [List.flatMap_cons, write_append, ih]
      change _ = Piece.write _ piece ++ write _ rest
      refine congrArg (· ++ _) ?_
      by_cases same : piece = .token name
      · subst same
        simp [write]
      · rw [if_neg same, write_letters]
        cases piece with
        | letter char => rfl
        | token other =>
            have different : other ≠ name := fun equal => same (by rw [equal])
            simp [Piece.write, onlyFor, different]

theorem write_filled (earlier : List ι) (name : ι) (value : ι → List Char)
    (pieces : List (Piece ι)) :
    write (onlyFor token name (value name)) (pieces.flatMap (Piece.filled value earlier)) =
      write (valuesFor token (earlier ++ [name]) value) pieces := by
  induction pieces with
  | nil => rfl
  | cons piece rest ih =>
      rw [List.flatMap_cons, write_append, ih]
      change _ = Piece.write _ piece ++ write _ rest
      refine congrArg (· ++ _) ?_
      cases piece with
      | letter char => rfl
      | token other =>
          by_cases filled : other ∈ earlier
          · simp [Piece.filled, filled, write_letters, Piece.write, valuesFor]
          · by_cases same : other = name
            · subst same
              simp [Piece.filled, filled, write, Piece.write, valuesFor, onlyFor]
            · simp [Piece.filled, filled, write, Piece.write, valuesFor, onlyFor, same]

def IsLiteralIn (token : ι → List Char) (names : List ι) (value : ι → List Char)
    (text : List Char) : Prop :=
  ∀ name ∈ names, .token name ∈ read token names 0 text → isLiteral (value name) = true

/-- With the values of some names filled in, the text shows exactly the placeholders of the
others that it showed before. -/
def IsUndisturbed (token : ι → List Char) (names : List ι) (value : ι → List Char)
    (text : List Char) : Prop :=
  ∀ filled < names.length,
    read token (names.drop filled) 0
        (write (valuesFor token (names.take filled) value) (read token names 0 text)) =
      (read token names 0 text).flatMap (Piece.filled value (names.take filled))

/-- One replacement after another comes to the substitution of all at once. -/
theorem replaced_in_turn (apart : Apart token) {names : List ι} {value : ι → List Char}
    {text : List Char} (literal : IsLiteralIn token names value text)
    (undisturbed : IsUndisturbed token names value text) :
    names.foldl (fun text name => replaceAll (token name) (value name) text) text =
      substituted token names value text := by
  have partly : ∀ filled ≤ names.length,
      (names.take filled).foldl (fun text name => replaceAll (token name) (value name) text)
          text =
        write (valuesFor token (names.take filled) value) (read token names 0 text) := by
    intro filled
    induction filled with
    | zero =>
        intro _
        have none_ : valuesFor token ([] : List ι) value = token := by
          funext name
          simp [valuesFor]
        rw [List.take_zero, none_, write_read apart]
        rfl
    | succ filled ih =>
        intro below
        have within : filled < names.length := below
        have next : names.drop filled = names[filled] :: names.drop (filled + 1) :=
          List.drop_eq_getElem_cons within
        have shown := undisturbed filled within
        rw [List.take_succ_eq_append_getElem within, List.foldl_append, ih (Nat.le_of_lt within),
          List.foldl_cons, List.foldl_nil, replaceAll, replaceFrom_literal,
          write_read_one apart _ (names.drop (filled + 1)), ← next, shown, write_filled]
        intro member
        refine literal _ (List.getElem_mem within) ?_
        rw [read_one apart _ (names.drop (filled + 1)), ← next, shown] at member
        obtain ⟨piece, there, kept⟩ := List.mem_flatMap.mp member
        obtain ⟨first, listed, became⟩ := List.mem_flatMap.mp there
        obtain rfl : piece = .token names[filled] := by
          by_contra other
          simp [other] at kept
        rwa [Piece.eq_of_mem_filled became] at listed
  have all := partly names.length (Nat.le_refl _)
  rw [List.take_length] at all
  rw [all, substituted]
  refine write_congr fun name member => ?_
  simp [valuesFor, mem_names_of_read apart text member]

end Replacing

end Texts
