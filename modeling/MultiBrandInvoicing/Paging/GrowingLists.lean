import Mathlib.Data.List.Basic

/-!
# Reading a list page by page while it grows

A page is a window at a fixed offset of the list as it is when the page is asked for.  A
new element can land anywhere; what was there before keeps its order, so an element that no
page has shown yet is still ahead.
-/

set_option autoImplicit false

namespace Paging

variable {α : Type}

def page (size number : Nat) (list : List α) : List α := (list.drop (size * number)).take size

def hasMore (size number : Nat) (list : List α) : Bool :=
  decide (size * (number + 1) < list.length)

/-- What the pages from `number` on show of the list as it is. -/
def ahead (size number : Nat) (list : List α) : List α := list.drop (size * number)

/-- The element lands at the position, or last in a shorter list. -/
def insertAt (element : α) : Nat → List α → List α
  | 0, list => element :: list
  | _ + 1, [] => [element]
  | position + 1, first :: rest => first :: insertAt element position rest

@[simp] theorem mem_insertAt {element other : α} {position : Nat} {list : List α} :
    other ∈ insertAt element position list ↔ other = element ∨ other ∈ list := by
  induction list generalizing position with
  | nil => cases position <;> simp [insertAt]
  | cons first rest ih =>
      cases position with
      | zero => simp [insertAt]
      | succ position =>
          simp only [insertAt, List.mem_cons, ih]
          tauto

theorem mem_drop_insertAt {element other : α} {position skipped : Nat} {list : List α}
    (member : other ∈ list.drop skipped) :
    other ∈ (insertAt element position list).drop skipped := by
  induction list generalizing position skipped with
  | nil => simp at member
  | cons first rest ih =>
      cases position with
      | zero =>
          cases skipped with
          | zero => exact List.mem_cons_of_mem element member
          | succ skipped =>
              have later : other ∈ ((first :: rest).drop skipped).drop 1 := by
                rwa [List.drop_drop]
              exact List.mem_of_mem_drop later
      | succ position =>
          cases skipped with
          | zero => exact mem_insertAt.mpr (.inr member)
          | succ skipped => exact ih member

theorem mem_ahead_insertAt {size number position : Nat} {element other : α} {list : List α}
    (member : other ∈ ahead size number list) :
    other ∈ ahead size number (insertAt element position list) :=
  mem_drop_insertAt member

@[simp] theorem ahead_zero (size : Nat) (list : List α) : ahead size 0 list = list := rfl

/-- What is ahead is on the next page or still ahead of the page after it. -/
theorem ahead_eq (size number : Nat) (list : List α) :
    ahead size number list = page size number list ++ ahead size (number + 1) list := by
  unfold ahead page
  rw [Nat.mul_succ, ← List.drop_drop, List.take_append_drop]

theorem mem_of_mem_page {size number : Nat} {element : α} {list : List α}
    (member : element ∈ page size number list) : element ∈ list :=
  List.mem_of_mem_drop (List.mem_of_mem_take member)

theorem ahead_last {size number : Nat} {list : List α} (last : hasMore size number list = false) :
    ahead size (number + 1) list = [] := by
  unfold hasMore at last
  rw [decide_eq_false_iff_not] at last
  exact List.drop_eq_nil_of_le (by omega)

end Paging
