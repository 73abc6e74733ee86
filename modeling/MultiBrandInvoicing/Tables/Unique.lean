import Mathlib.Algebra.BigOperators.Group.List.Basic
import Mathlib.Tactic.Abel

/-!
# Tables with unique indexes

A table is a list of rows together with the proof that every unique index is
respected: the values an index gives to the rows are pairwise distinct, and a row
for which it gives none is never in conflict.  A statement that would break an
index has no result, so a table that breaks one cannot be built.
-/

set_option autoImplicit false

structure UniqueTable (α κ : Type) (indexes : List (α → Option κ)) where
  rows : List α
  distinct : ∀ index ∈ indexes, (rows.filterMap index).Nodup

namespace UniqueTable

variable {α κ : Type} {indexes : List (α → Option κ)}

instance [DecidableEq α] : DecidableEq (UniqueTable α κ indexes) := fun first second =>
  decidable_of_iff (first.rows = second.rows) (by
    cases first
    cases second
    simp)

def empty : UniqueTable α κ indexes := ⟨[], by simp⟩

section Statements

variable [DecidableEq κ]

/-- The table with these rows, unless they break an index. -/
def put? (rows : List α) : Option (UniqueTable α κ indexes) :=
  if distinct : ∀ index ∈ indexes, (rows.filterMap index).Nodup then some ⟨rows, distinct⟩
  else none

def insert? (table : UniqueTable α κ indexes) (row : α) : Option (UniqueTable α κ indexes) :=
  put? (table.rows ++ [row])

def update? (table : UniqueTable α κ indexes) (here : α → Bool) (change : α → α) :
    Option (UniqueTable α κ indexes) :=
  put? (table.rows.map fun row => if here row then change row else row)

theorem rows_of_put? {rows : List α} {table : UniqueTable α κ indexes}
    (accepted : put? rows = some table) : table.rows = rows := by
  unfold put? at accepted
  split at accepted
  · cases accepted
    rfl
  · cases accepted

theorem rows_of_insert? {table next : UniqueTable α κ indexes} {row : α}
    (accepted : table.insert? row = some next) : next.rows = table.rows ++ [row] :=
  rows_of_put? accepted

theorem rows_of_insert?_isSome {table : UniqueTable α κ indexes} {row : α}
    (accepted : (table.insert? row).isSome = true) :
    ((table.insert? row).getD table).rows = table.rows ++ [row] := by
  obtain ⟨next, inserted⟩ := Option.isSome_iff_exists.mp accepted
  rw [inserted, Option.getD_some, rows_of_insert? inserted]

theorem isSome_insert? {table : UniqueTable α κ indexes} {row : α} :
    (table.insert? row).isSome = true ↔ ∀ index ∈ indexes, ∀ value, index row = some value →
      ∀ other ∈ table.rows, index other ≠ some value := by
  have alone : ∀ index : α → Option κ, ((table.rows ++ [row]).filterMap index).Nodup ↔
      (table.rows.filterMap index).Nodup ∧ ∀ value, index row = some value →
        ∀ other ∈ table.rows, index other ≠ some value := by
    intro index
    rw [List.filterMap_append, List.nodup_append]
    cases named : index row with
    | none => simp [named]
    | some value =>
        simp only [List.filterMap_cons_some named, List.filterMap_nil, List.nodup_cons,
          List.not_mem_nil, not_false_eq_true, List.nodup_nil, true_and, List.mem_filterMap,
          List.mem_singleton, forall_eq, Option.some.injEq, forall_eq']
        exact and_congr_right fun _ =>
          ⟨fun apart other member same => apart value ⟨other, member, same⟩ rfl,
            fun apart found ⟨other, member, same⟩ equal => apart other member (equal ▸ same)⟩
  have accepted : (table.insert? row).isSome = true ↔
      ∀ index ∈ indexes, ((table.rows ++ [row]).filterMap index).Nodup := by
    unfold insert? put?
    split
    next distinct => exact iff_of_true rfl distinct
    next broken => exact iff_of_false (by simp) broken
  rw [accepted]
  exact forall₂_congr fun index listed =>
    (alone index).trans (and_iff_right (table.distinct index listed))

/-- An insert that is refused leaves the table as it is. -/
theorem rows_of_insert?_getD (table : UniqueTable α κ indexes) (row : α) :
    ((table.insert? row).getD table).rows = table.rows ∨
      ((table.insert? row).getD table).rows = table.rows ++ [row] := by
  cases accepted : (table.insert? row).isSome with
  | true => exact .inr (rows_of_insert?_isSome accepted)
  | false =>
      rw [Option.isSome_eq_false_iff, Option.isNone_iff_eq_none] at accepted
      exact .inl (by rw [accepted, Option.getD_none])

theorem find?_insert?_getD {table : UniqueTable α κ indexes} {row found : α} {here : α → Bool}
    (present : table.rows.find? here = some found) :
    ((table.insert? row).getD table).rows.find? here = some found := by
  rcases table.rows_of_insert?_getD row with same | added
  · rw [same, present]
  · rw [added, List.find?_append, present]
    rfl

theorem rows_of_update? {table next : UniqueTable α κ indexes} {here : α → Bool}
    {change : α → α} (accepted : table.update? here change = some next) :
    next.rows = table.rows.map fun row => if here row then change row else row :=
  rows_of_put? accepted

end Statements

/-- Rewriting rows in columns that no index looks at is always accepted. -/
def modify (table : UniqueTable α κ indexes) (here : α → Bool) (change : α → α)
    (kept : ∀ index ∈ indexes, ∀ row, index (change row) = index row) :
    UniqueTable α κ indexes where
  rows := table.rows.map fun row => if here row then change row else row
  distinct := by
    intro index listed
    have same : (index ∘ fun row => if here row then change row else row) = index := by
      funext row
      by_cases chosen : here row = true
      · simp [chosen, kept index listed row]
      · simp [chosen]
    rw [List.filterMap_map, same]
    exact table.distinct index listed

@[simp] theorem modify_rows (table : UniqueTable α κ indexes) (here : α → Bool)
    (change : α → α) (kept : ∀ index ∈ indexes, ∀ row, index (change row) = index row) :
    (table.modify here change kept).rows =
      table.rows.map fun row => if here row then change row else row := rfl

/-! ## What an index guarantees -/

theorem eq_of_index {rows : List α} {index : α → Option κ}
    (distinct : (rows.filterMap index).Nodup) {first second : α} {value : κ}
    (firstMember : first ∈ rows) (secondMember : second ∈ rows)
    (firstValue : index first = some value) (secondValue : index second = some value) :
    first = second := by
  induction rows with
  | nil => cases firstMember
  | cons head tail ih =>
      have tailDistinct : (tail.filterMap index).Nodup := by
        cases headValue : index head with
        | none => simpa [headValue] using distinct
        | some other =>
            rw [List.filterMap_cons_some headValue] at distinct
            exact (List.nodup_cons.mp distinct).2
      have headOnly : ∀ row ∈ tail, index head = some value → index row ≠ some value := by
        intro row member headValue rowValue
        rw [List.filterMap_cons_some headValue] at distinct
        exact (List.nodup_cons.mp distinct).1 (List.mem_filterMap.mpr ⟨row, member, rowValue⟩)
      rcases List.mem_cons.mp firstMember with rfl | firstTail
      · rcases List.mem_cons.mp secondMember with rfl | secondTail
        · rfl
        · exact absurd secondValue (headOnly second secondTail firstValue)
      · rcases List.mem_cons.mp secondMember with rfl | secondTail
        · exact absurd firstValue (headOnly first firstTail secondValue)
        · exact ih tailDistinct firstTail secondTail

theorem find?_eq_some {δ : Type} [DecidableEq δ] {rows : List α} (index : α → Option κ)
    (key : α → δ) (name : δ → κ) (distinct : (rows.filterMap index).Nodup)
    (named : ∀ row, index row = some (name (key row))) {value : δ} {row : α} :
    rows.find? (fun row => key row = value) = some row ↔ row ∈ rows ∧ key row = value := by
  constructor
  · intro found
    exact ⟨List.mem_of_find?_eq_some found, by simpa using List.find?_some found⟩
  · rintro ⟨member, rfl⟩
    cases found : rows.find? fun other => key other = key row with
    | none => exact absurd (List.find?_eq_none.mp found row member) (by simp)
    | some other =>
        have same : key other = key row := by simpa using List.find?_some found
        rw [eq_of_index distinct (List.mem_of_find?_eq_some found) member (named other)
          (by rw [named, same])]

theorem find?_modified {δ : Type} [DecidableEq δ] {rows : List α} {key : α → δ} {value : δ}
    {here : α → Bool} {change : α → α} (kept : ∀ row, key (change row) = key row) :
    (rows.map fun row => if here row then change row else row).find?
        (fun row => key row = value) =
      (rows.find? fun row => key row = value).map fun row =>
        if here row then change row else row := by
  have same : ((fun row => decide (key row = value)) ∘ fun row =>
      if here row then change row else row) = fun row => decide (key row = value) := by
    funext row
    by_cases chosen : here row = true <;> simp [chosen, kept]
  rw [List.find?_map, same]

theorem fresh_of_append {rows : List α} {row : α} {index : α → Option κ} {value : κ}
    (distinct : ((rows ++ [row]).filterMap index).Nodup) (named : index row = some value) :
    ∀ other ∈ rows, index other ≠ some value := by
  intro other member same
  rw [List.filterMap_append] at distinct
  have separate := (List.nodup_append.mp distinct).2.2
  exact separate value (List.mem_filterMap.mpr ⟨other, member, same⟩) value (by simp [named]) rfl

/-- Rewriting the one row an index names moves a sum over the rows by that row's
difference. -/
theorem sum_update {M : Type} [AddCommGroup M] [DecidableEq κ] {rows : List α}
    {index : α → Option κ} (distinct : (rows.filterMap index).Nodup) {row : α} {value : κ}
    (member : row ∈ rows) (named : index row = some value) (change : α → α) (weight : α → M) :
    ((rows.map fun other => if index other = some value then change other else other).map
        weight).sum =
      (rows.map weight).sum - weight row + weight (change row) := by
  induction rows with
  | nil => cases member
  | cons head tail ih =>
      by_cases headNamed : index head = some value
      · have same : head = row :=
          eq_of_index distinct (by simp) member headNamed named
        subst same
        have untouched : ∀ other ∈ tail, index other ≠ some value := by
          intro other otherMember otherNamed
          rw [List.filterMap_cons_some headNamed] at distinct
          exact (List.nodup_cons.mp distinct).1
            (List.mem_filterMap.mpr ⟨other, otherMember, otherNamed⟩)
        have rest : (tail.map fun other =>
            if index other = some value then change other else other) = tail := by
          rw [List.map_congr_left fun other otherMember => if_neg (untouched other otherMember)]
          exact List.map_id' tail
        simp only [List.map_cons, headNamed, if_true, List.sum_cons, rest]
        abel
      · have tailMember : row ∈ tail := by
          rcases List.mem_cons.mp member with rfl | other
          · exact absurd named headNamed
          · exact other
        have tailDistinct : (tail.filterMap index).Nodup := by
          cases headValue : index head with
          | none => simpa [headValue] using distinct
          | some other =>
              rw [List.filterMap_cons_some headValue] at distinct
              exact (List.nodup_cons.mp distinct).2
        have rest := ih tailDistinct tailMember
        simp only [List.map_cons, headNamed, if_false, List.sum_cons, rest]
        abel

end UniqueTable
