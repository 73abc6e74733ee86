import Mathlib.Data.List.Infix

/-!
# Paths

The directories and files of a tree are named by the list of the names from its root.  A text is
read as such a list, from a directory or from the root; a path that stays below a directory is one
that begins with its text and a separator.
-/

set_option autoImplicit false

namespace Files

abbrev Path (α : Type) := List (List α)

variable {α : Type} {slash dot : α}

structure IsName (slash dot : α) (name : List α) : Prop where
  some_ : name ≠ []
  single : slash ∉ name
  notHere : name ≠ [dot]
  notAbove : name ≠ [dot, dot]

def IsPath (slash dot : α) (path : Path α) : Prop := ∀ name ∈ path, IsName slash dot name

def pathText (slash : α) : Path α → List α
  | [] => [slash]
  | path => path.flatMap (slash :: ·)

def directoryText (slash : α) (path : Path α) : List α := path.flatMap (slash :: ·) ++ [slash]

/-! ## Paths below a directory -/

theorem head_of_flatMap (path : Path α) {unit : α} {rest : List α}
    (begins : path.flatMap (slash :: ·) = unit :: rest) : unit = slash := by
  cases path with
  | nil => exact absurd begins (List.cons_ne_nil _ _).symm
  | cons name others =>
    rw [List.flatMap_cons, List.cons_append] at begins
    exact (List.cons.inj begins).1.symm

theorem name_unique {first second front back : List α} (one : slash ∉ first)
    (other : slash ∉ second) (ends : ∀ unit rest, back = unit :: rest → unit = slash)
    (same : first ++ slash :: front = second ++ back) :
    first = second ∧ slash :: front = back := by
  induction first generalizing second with
  | nil =>
    cases second with
    | nil => exact ⟨rfl, same⟩
    | cons unit rest =>
      rw [List.nil_append, List.cons_append] at same
      rw [(List.cons.inj same).1] at other
      exact absurd List.mem_cons_self other
  | cons unit rest ih =>
    cases second with
    | nil =>
      have begins := ends unit (rest ++ slash :: front) same.symm
      rw [begins] at one
      exact absurd List.mem_cons_self one
    | cons head others =>
      rw [List.cons_append, List.cons_append] at same
      obtain ⟨equal, behind⟩ := List.cons.inj same
      obtain ⟨names, tails⟩ := ih (fun member => one (List.mem_cons_of_mem _ member))
        (fun member => other (List.mem_cons_of_mem _ member)) behind
      exact ⟨by rw [equal, names], tails⟩

theorem exists_directoryText (slash : α) (path : Path α) :
    ∃ rest, directoryText slash path = slash :: rest := by
  cases path with
  | nil => exact ⟨[], rfl⟩
  | cons name others => exact ⟨_, rfl⟩

theorem directoryText_prefix_iff {above below : Path α} (isAbove : IsPath slash dot above)
    (isBelow : IsPath slash dot below) :
    directoryText slash above <+: below.flatMap (slash :: ·) ↔
      ∃ rest, rest ≠ [] ∧ below = above ++ rest := by
  induction above generalizing below with
  | nil =>
    rw [directoryText, List.flatMap_nil, List.nil_append]
    constructor
    · intro begins
      refine ⟨below, ?_, rfl⟩
      intro none_
      rw [none_, List.flatMap_nil] at begins
      exact absurd (List.prefix_nil.mp begins) (List.cons_ne_nil _ _)
    · intro exists_
      obtain ⟨rest, some_, rfl⟩ := exists_
      obtain ⟨name, others, rfl⟩ := List.exists_cons_of_ne_nil some_
      exact ⟨name ++ others.flatMap (slash :: ·), rfl⟩
  | cons name above ih =>
    cases below with
    | nil =>
      constructor
      · intro begins
        exact absurd (List.prefix_nil.mp begins) (by simp [directoryText])
      · intro exists_
        obtain ⟨rest, -, same⟩ := exists_
        exact absurd same (List.cons_ne_nil _ _).symm
    | cons other below =>
      have one := isAbove name List.mem_cons_self
      have two := isBelow other List.mem_cons_self
      have isRest : IsPath slash dot below :=
        fun part member => isBelow part (List.mem_cons_of_mem _ member)
      have shorter := ih (fun part member => isAbove part (List.mem_cons_of_mem _ member)) isRest
      rw [directoryText, List.flatMap_cons, List.flatMap_cons, List.cons_append, List.cons_append,
        List.cons_append, List.append_assoc, List.cons_prefix_cons, ← directoryText]
      constructor
      · intro begins
        obtain ⟨more, same⟩ := begins.2
        obtain ⟨front, split⟩ := exists_directoryText slash above
        rw [split, List.append_assoc, List.cons_append] at same
        obtain ⟨rfl, behind⟩ := name_unique one.single two.single
          (fun unit rest found => head_of_flatMap below found) same
        obtain ⟨rest, some_, rfl⟩ := shorter.mp ⟨more, by rw [split]; exact behind⟩
        exact ⟨rest, some_, rfl⟩
      · intro exists_
        obtain ⟨rest, some_, same⟩ := exists_
        obtain ⟨rfl, rfl⟩ := List.cons.inj same
        exact ⟨rfl, (List.prefix_append_right_inj _).mpr (shorter.mpr ⟨rest, some_, rfl⟩)⟩

theorem directoryText_cons (name : List α) (path : Path α) :
    directoryText slash (name :: path) = slash :: (name ++ directoryText slash path) := by
  rw [directoryText, List.flatMap_cons, List.cons_append, List.cons_append, List.append_assoc,
    ← directoryText]

theorem directoryText_inj {path other : Path α} (isPath : IsPath slash dot path)
    (isOther : IsPath slash dot other)
    (same : directoryText slash path = directoryText slash other) : path = other := by
  have endsOnce {name : List α} {rest : Path α} (isName : IsName slash dot name)
      (equal : directoryText slash [] = directoryText slash (name :: rest)) : False := by
    have length := congrArg List.length equal
    have some_ := List.length_pos_iff.mpr isName.some_
    rw [directoryText_cons, List.length_cons, List.length_append, directoryText,
      directoryText] at length
    simp at length
  induction path generalizing other with
  | nil =>
    cases other with
    | nil => rfl
    | cons name others => exact (endsOnce (isOther name List.mem_cons_self) same).elim
  | cons name rest ih =>
    cases other with
    | nil => exact (endsOnce (isPath name List.mem_cons_self) same.symm).elim
    | cons second others =>
      rw [directoryText_cons, directoryText_cons] at same
      obtain ⟨front, begins⟩ := exists_directoryText slash rest
      have behind := (List.cons.inj same).2
      rw [begins] at behind
      obtain ⟨rfl, tails⟩ := name_unique (isPath name List.mem_cons_self).single
        (isOther second List.mem_cons_self).single (fun unit more found => by
          obtain ⟨back, starts⟩ := exists_directoryText slash others
          rw [starts] at found
          exact (List.cons.inj found).1.symm) behind
      rw [ih (fun part member => isPath part (List.mem_cons_of_mem _ member))
        (fun part member => isOther part (List.mem_cons_of_mem _ member)) (begins.trans tails)]

theorem not_endsWith {path : Path α} (isPath : IsPath slash dot path) :
    ¬[slash] <:+ path.flatMap (slash :: ·) := by
  intro ends
  obtain ⟨before, text⟩ := ends
  rcases List.eq_nil_or_concat' path with rfl | ⟨front, name, rfl⟩
  · exact absurd text (by simp)
  · have last := isPath name (List.mem_append_right _ List.mem_cons_self)
    rcases List.eq_nil_or_concat' name with rfl | ⟨units, unit, rfl⟩
    · exact last.some_ rfl
    · rw [List.flatMap_append, List.flatMap_singleton, ← List.cons_append, ← List.append_assoc]
        at text
      have same := (List.append_inj' text rfl).2
      rw [(List.cons.inj same).1] at last
      exact last.single (List.mem_append_right _ List.mem_cons_self)

theorem pathText_eq {path : Path α} (some_ : path ≠ []) :
    pathText slash path = path.flatMap (slash :: ·) := by
  cases path with
  | nil => exact absurd rfl some_
  | cons name rest => rfl

theorem pathText_inj {path other : Path α} (isPath : IsPath slash dot path)
    (isOther : IsPath slash dot other) (same : pathText slash path = pathText slash other) :
    path = other := by
  by_cases top : path = []
  · by_cases alike : other = []
    · rw [top, alike]
    · rw [pathText_eq alike, top] at same
      exact absurd ⟨[], same⟩ (not_endsWith isOther)
  · by_cases alike : other = []
    · rw [pathText_eq top, alike] at same
      exact absurd ⟨[], same.symm⟩ (not_endsWith isPath)
    · rw [pathText_eq top, pathText_eq alike] at same
      exact directoryText_inj isPath isOther (by rw [directoryText, directoryText, same])

/-! ## Reading a text -/

variable [DecidableEq α]

instance (name : List α) : Decidable (IsName slash dot name) :=
  decidable_of_iff (name ≠ [] ∧ slash ∉ name ∧ name ≠ [dot] ∧ name ≠ [dot, dot])
    ⟨fun all => ⟨all.1, all.2.1, all.2.2.1, all.2.2.2⟩,
      fun isName => ⟨isName.1, isName.2, isName.3, isName.4⟩⟩

/-- Going on from a directory; there is nothing above the root. -/
def enter (dot : α) (path : Path α) (name : List α) : Path α :=
  if name = [] ∨ name = [dot] then path
  else if name = [dot, dot] then path.dropLast
  else path ++ [name]

def walk (slash dot : α) (start : Path α) (text : List α) : Path α :=
  (text.splitOn slash).foldl (enter dot) start

/-- A text that begins with a separator is read from the root. -/
def resolve (slash dot : α) (directory : Path α) (text : List α) : Path α :=
  walk slash dot (if text.head? = some slash then [] else directory) text

theorem notMem_of_mem_splitOn {text piece : List α} (member : piece ∈ text.splitOn slash) :
    slash ∉ piece := by
  induction text generalizing piece with
  | nil =>
    rw [List.splitOn_nil, List.mem_singleton] at member
    rw [member]
    exact List.not_mem_nil
  | cons head rest ih =>
    rw [List.splitOn_cons_eq_if_modifyHead] at member
    split at member
    · rcases List.mem_cons.mp member with rfl | later
      · exact List.not_mem_nil
      · exact ih later
    next other =>
      cases pieces : rest.splitOn slash with
      | nil => exact absurd pieces (List.splitOn_ne_nil _ _)
      | cons first others =>
        rw [pieces, List.modifyHead_cons] at member
        rw [pieces] at ih
        rcases List.mem_cons.mp member with rfl | later
        · intro inside
          rcases List.mem_cons.mp inside with rfl | found
          · exact other (beq_self_eq_true _)
          · exact ih List.mem_cons_self found
        · exact ih (List.mem_cons_of_mem _ later)

theorem isPath_enter {path : Path α} (isPath : IsPath slash dot path) {piece : List α}
    (single : slash ∉ piece) : IsPath slash dot (enter dot path piece) := by
  rw [enter]
  split
  · exact isPath
  next some_ =>
    rw [not_or] at some_
    split
    · intro name member
      exact isPath name (List.mem_of_mem_dropLast member)
    next notAbove =>
      intro name member
      rcases List.mem_append.mp member with before | last
      · exact isPath name before
      · rw [List.mem_singleton.mp last]
        exact ⟨some_.1, single, some_.2, notAbove⟩

theorem isPath_walk {start : Path α} (isPath : IsPath slash dot start) (text : List α) :
    IsPath slash dot (walk slash dot start text) := by
  have single : ∀ piece ∈ text.splitOn slash, slash ∉ piece :=
    fun piece member => notMem_of_mem_splitOn member
  rw [walk]
  generalize text.splitOn slash = pieces at single
  induction pieces generalizing start with
  | nil => exact isPath
  | cons piece rest ih =>
    rw [List.foldl_cons]
    exact ih (isPath_enter isPath (single piece List.mem_cons_self))
      fun other member => single other (List.mem_cons_of_mem _ member)

theorem isPath_resolve {directory : Path α} (isPath : IsPath slash dot directory)
    (text : List α) : IsPath slash dot (resolve slash dot directory text) := by
  rw [resolve]
  split
  · exact isPath_walk (fun name member => absurd member List.not_mem_nil) text
  · exact isPath_walk isPath text

theorem walk_intercalate {names : Path α} (isPath : IsPath slash dot names) (some_ : names ≠ [])
    (start : Path α) : walk slash dot start ([slash].intercalate names) = start ++ names := by
  rw [walk, List.splitOn_intercalate slash (fun name member => (isPath name member).single) some_]
  clear some_
  induction names generalizing start with
  | nil => rw [List.foldl_nil, List.append_nil]
  | cons name rest ih =>
    have here := isPath name List.mem_cons_self
    rw [List.foldl_cons, ih fun other member => isPath other (List.mem_cons_of_mem _ member), enter,
      if_neg (not_or.mpr ⟨here.some_, here.notHere⟩), if_neg here.notAbove, List.append_assoc]
    rfl

end Files
