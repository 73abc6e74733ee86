import Mathlib.Data.List.Sort
import Mathlib.Order.Defs.LinearOrder

/-!
# The top rows

The rows with the greatest keys, so many of them, whichever of equal rows they are.  A part of the
rows is enough to take them from if, above every key, it has as many rows as are shown or all that
there are.  The top rows of several tables, taken together, are such a part.
-/

set_option autoImplicit false

namespace TopRows

variable {α β κ : Type} [LinearOrder κ]

structure IsTop (key : α → κ) (count : ℕ) (all top : List α) : Prop where
  rest : ∃ rest, (top ++ rest).Perm all ∧ ∀ shown ∈ top, ∀ left ∈ rest, key left ≤ key shown
  sorted : top.Pairwise fun first second => key second ≤ key first
  length : top.length = min count all.length

def above (key : α → κ) (bound : κ) (rows : List α) : ℕ :=
  rows.countP fun row => decide (bound ≤ key row)

structure Covers (key : α → κ) (count : ℕ) (all part : List α) : Prop where
  among : ∃ dropped, (part ++ dropped).Perm all
  enough : ∀ bound, min count (above key bound all) ≤ above key bound part

variable {key : α → κ} {count : ℕ} {all part top : List α}

theorem above_append (bound : κ) (first second : List α) :
    above key bound (first ++ second) = above key bound first + above key bound second :=
  List.countP_append

theorem above_perm {bound : κ} {first second : List α} (same : first.Perm second) :
    above key bound first = above key bound second := same.countP_eq _

theorem IsTop.enough (isTop : IsTop key count all top) (bound : κ) :
    min count (above key bound all) ≤ above key bound top := by
  obtain ⟨rest, perm, below⟩ := isTop.rest
  rw [← above_perm perm, above_append]
  by_cases left : ∃ row ∈ rest, bound ≤ key row
  · obtain ⟨row, member, high⟩ := left
    have whole : above key bound top = top.length := by
      rw [above, List.countP_eq_length]
      intro shown found
      exact decide_eq_true (high.trans (below shown found row member))
    have most : above key bound rest ≤ rest.length := List.countP_le_length
    have length := isTop.length
    have total := perm.length_eq
    rw [List.length_append] at total
    omega
  · have none_ : above key bound rest = 0 := by
      rw [above, List.countP_eq_zero]
      intro row member high
      exact left ⟨row, member, of_decide_eq_true high⟩
    omega

theorem IsTop.covers (isTop : IsTop key count all top) : Covers key count all top where
  among := by
    obtain ⟨rest, perm, _⟩ := isTop.rest
    exact ⟨rest, perm⟩
  enough := isTop.enough

theorem Covers.refl (all : List α) : Covers key count all all where
  among := ⟨[], by rw [List.append_nil]⟩
  enough _ := min_le_right _ _

theorem among_append {first second one other : List α}
    (left : ∃ dropped, (one ++ dropped).Perm first)
    (right : ∃ dropped, (other ++ dropped).Perm second) :
    ∃ dropped, (one ++ other ++ dropped).Perm (first ++ second) := by
  obtain ⟨lost, perm⟩ := left
  obtain ⟨missing, same⟩ := right
  refine ⟨lost ++ missing, ?_⟩
  have regroup : (one ++ other ++ (lost ++ missing)).Perm (one ++ lost ++ (other ++ missing)) := by
    rw [List.append_assoc, List.append_assoc]
    refine List.Perm.append_left one ?_
    rw [← List.append_assoc, ← List.append_assoc]
    exact List.Perm.append_right missing List.perm_append_comm
  exact regroup.trans (perm.append same)

theorem Covers.append {first second one other : List α} (left : Covers key count first one)
    (right : Covers key count second other) :
    Covers key count (first ++ second) (one ++ other) where
  among := among_append left.among right.among
  enough := by
    intro bound
    have one_ := left.enough bound
    have other_ := right.enough bound
    rw [above_append, above_append]
    omega

theorem above_map {other : β → κ} {shown : α → β} (same : ∀ row, other (shown row) = key row)
    (bound : κ) (rows : List α) : above other bound (rows.map shown) = above key bound rows := by
  rw [above, List.countP_map]
  refine List.countP_congr ?_
  intro row _
  rw [Function.comp_apply, same]

theorem Covers.map {other : β → κ} {shown : α → β} (same : ∀ row, other (shown row) = key row)
    (covers : Covers key count all part) :
    Covers other count (all.map shown) (part.map shown) where
  among := by
    obtain ⟨dropped, perm⟩ := covers.among
    refine ⟨dropped.map shown, ?_⟩
    rw [← List.map_append]
    exact perm.map shown
  enough := by
    intro bound
    rw [above_map same, above_map same]
    exact covers.enough bound

theorem take_above {rows : List α} (sorted : rows.Pairwise fun first second => key second ≤ key first)
    {bound : κ} (many : count ≤ above key bound rows) :
    ∀ row ∈ rows.take count, bound ≤ key row := by
  induction rows generalizing count with
  | nil => simp
  | cons first rest ih =>
    cases count with
    | zero => simp
    | succ count =>
      obtain ⟨below, later⟩ := List.pairwise_cons.mp sorted
      have high : bound ≤ key first := by
        by_contra low
        have none_ : above key bound (first :: rest) = 0 := by
          rw [above, List.countP_eq_zero]
          intro row member high
          rcases List.mem_cons.mp member with rfl | found
          · exact low (of_decide_eq_true high)
          · exact low ((of_decide_eq_true high).trans (below row found))
        omega
      have more : count ≤ above key bound rest := by
        have counted : above key bound (first :: rest) = above key bound rest + 1 := by
          rw [above, List.countP_cons, if_pos (decide_eq_true high), above]
        omega
      rw [List.take_succ_cons]
      intro row member
      rcases List.mem_cons.mp member with rfl | found
      · exact high
      · exact ih later more row found

def newestFirst (key : α → κ) (first second : α) : Prop := key second ≤ key first

instance (key : α → κ) : DecidableRel (newestFirst key) := fun first second =>
  inferInstanceAs (Decidable (key second ≤ key first))

instance (key : α → κ) : Std.Total (newestFirst key) := ⟨fun _ _ => le_total _ _⟩

instance (key : α → κ) : IsTrans α (newestFirst key) := ⟨fun _ _ _ one other => other.trans one⟩

theorem Covers.isTop (covers : Covers key count all part) :
    IsTop key count all ((part.insertionSort (newestFirst key)).take count) := by
  have perm := List.perm_insertionSort (newestFirst key) part
  have sorted : (part.insertionSort (newestFirst key)).Pairwise fun first second =>
      key second ≤ key first := List.pairwise_insertionSort (newestFirst key) part
  obtain ⟨dropped, whole⟩ := covers.among
  have total := whole.length_eq
  rw [List.length_append] at total
  -- A dropped row has as many rows above it as are shown.
  have missed : ∀ row ∈ dropped, count ≤ above key (key row) part := by
    intro row member
    have enough := covers.enough (key row)
    rw [← above_perm whole, above_append] at enough
    have some_ : 0 < above key (key row) dropped := by
      rw [above, List.countP_pos_iff]
      exact ⟨row, member, decide_eq_true le_rfl⟩
    omega
  refine ⟨⟨(part.insertionSort (newestFirst key)).drop count ++ dropped, ?_, ?_⟩, ?_, ?_⟩
  · rw [← List.append_assoc, List.take_append_drop]
    exact (perm.append_right dropped).trans whole
  · intro shown top left rest
    rcases List.mem_append.mp rest with behind | lost
    · have split := sorted
      rw [← List.take_append_drop count (part.insertionSort (newestFirst key)),
        List.pairwise_append] at split
      exact split.2.2 shown top left behind
    · have many := missed left lost
      rw [← above_perm perm] at many
      exact take_above sorted many shown top
  · exact sorted.sublist (List.take_sublist _ _)
  · rw [List.length_take, List.length_insertionSort]
    cases dropped with
    | nil =>
      rw [List.length_nil, Nat.add_zero] at total
      rw [total]
    | cons row rest =>
      have many := missed row List.mem_cons_self
      have most : above key (key row) part ≤ part.length := List.countP_le_length
      omega

end TopRows
