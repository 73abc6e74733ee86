import Mathlib.Algebra.BigOperators.Group.List.Basic
import Mathlib.Algebra.Ring.Int.Defs

/-!
# Sums over groups of rows

The sums of a grouped query, in whatever order it lists the groups, and a sum looked up in them.
-/

set_option autoImplicit false

namespace Records

variable {ρ κ : Type} [DecidableEq κ]

def groupSums (order : List κ) (key : ρ → κ) (amount : ρ → Int) (rows : List ρ) :
    List (κ × Int) :=
  (order.filter fun group => rows.any fun row => key row = group).map fun group =>
    (group, ((rows.filter fun row => key row = group).map amount).sum)

def groupSum (groups : List (κ × Int)) (key : κ) : Int :=
  ((groups.find? fun group => group.1 = key).map Prod.snd).getD 0

variable {order : List κ} {key : ρ → κ} {amount : ρ → Int} {rows : List ρ}

theorem mem_groupSums {group : κ} {sum : Int}
    (member : (group, sum) ∈ groupSums order key amount rows) : ∃ row ∈ rows, key row = group := by
  obtain ⟨other, found, same⟩ := List.mem_map.mp member
  have some_ : rows.any (fun row => key row = other) = true := (List.mem_filter.mp found).2
  obtain ⟨row, row_mem, here⟩ := List.any_eq_true.mp some_
  exact ⟨row, row_mem, (of_decide_eq_true here).trans (congrArg Prod.fst same)⟩

theorem groupSums_eq_nil_iff (complete : ∀ row ∈ rows, key row ∈ order) :
    groupSums order key amount rows = [] ↔ rows = [] := by
  constructor
  · intro none_
    cases rows with
    | nil => rfl
    | cons row rows =>
        have listed : key row ∈ order.filter fun group =>
            (row :: rows).any fun row => key row = group := by
          simp [complete row]
        rw [List.map_eq_nil_iff.mp none_] at listed
        cases listed
  · intro none_
    subst none_
    simp [groupSums]

/-- What is looked up is the sum over the rows with the key. -/
theorem groupSum_groupSums (complete : ∀ row ∈ rows, key row ∈ order) (group : κ) :
    groupSum (groupSums order key amount rows) group =
      ((rows.filter fun row => key row = group).map amount).sum := by
  have looked : ∀ groups : List κ,
      (groups.map fun group =>
        (group, ((rows.filter fun row => key row = group).map amount).sum)).find?
          (fun entry => entry.1 = group) =
        if group ∈ groups then
          some (group, ((rows.filter fun row => key row = group).map amount).sum) else none := by
    intro groups
    induction groups with
    | nil => rfl
    | cons other groups ih =>
        rw [List.map_cons, List.find?_cons]
        by_cases same : other = group
        · subst same
          simp
        · have different : ¬group = other := fun equal => same equal.symm
          simp [same, different, ih]
  rw [groupSum, groupSums, looked]
  by_cases here : ∃ row ∈ rows, key row = group
  · obtain ⟨row, member, rfl⟩ := here
    have listed : key row ∈ order.filter fun group => rows.any fun row => key row = group := by
      simp only [List.mem_filter, List.any_eq_true, decide_eq_true_eq]
      exact ⟨complete row member, row, member, rfl⟩
    rw [if_pos listed]
    rfl
  · have unlisted : group ∉ order.filter fun group => rows.any fun row => key row = group := by
      simp only [List.mem_filter, List.any_eq_true, decide_eq_true_eq]
      exact fun found => here found.2
    have none_ : (rows.filter fun row => key row = group) = [] := by
      rw [List.filter_eq_nil_iff]
      intro row member same
      exact here ⟨row, member, of_decide_eq_true same⟩
    rw [if_neg unlisted, none_]
    rfl

end Records
