import MultiBrandInvoicing.Tables.TopRows

/-!
# Pages of a table

Rows in the order of a key, the greatest first, page after page.  Where rows share a key their
order is up to the database, and may differ from query to query; where no two do, the pages are
those of one list.
-/

set_option autoImplicit false

namespace Pages

open TopRows

variable {α κ : Type} [LinearOrder κ]

/-- `skip` and `take`, the pages numbered from one. -/
def page (size number : ℕ) (rows : List α) : List α :=
  (rows.drop ((number - 1) * size)).take size

def IsPage (key : α → κ) (size number : ℕ) (rows answer : List α) : Prop :=
  ∃ sorted, sorted.Perm rows ∧ sorted.Pairwise (newestFirst key) ∧ answer = page size number sorted

variable {key : α → κ} {size number : ℕ} {rows answer : List α}

theorem page_subset : page size number rows ⊆ rows := by
  intro row member
  exact List.mem_of_mem_drop (List.mem_of_mem_take member)

theorem IsPage.subset (isPage : IsPage key size number rows answer) : answer ⊆ rows := by
  obtain ⟨sorted, perm, -, rfl⟩ := isPage
  intro row member
  exact perm.subset (page_subset member)

theorem isPage_insertionSort (key : α → κ) (size number : ℕ) (rows : List α) :
    IsPage key size number rows (page size number (rows.insertionSort (newestFirst key))) :=
  ⟨_, List.perm_insertionSort _ rows, List.pairwise_insertionSort _ rows, rfl⟩

theorem sorted_unique (distinct : (rows.map key).Nodup) {first second : List α}
    (one : first.Perm rows) (other : second.Perm rows) (sorted : first.Pairwise (newestFirst key))
    (ordered : second.Pairwise (newestFirst key)) : first = second := by
  refine (one.trans other.symm).eq_of_pairwise ?_ sorted ordered
  intro row same member found low high
  exact List.inj_on_of_nodup_map distinct (one.subset member) (other.subset found)
    (le_antisymm high low)

theorem IsPage.eq (isPage : IsPage key size number rows answer)
    (distinct : (rows.map key).Nodup) :
    answer = page size number (rows.insertionSort (newestFirst key)) := by
  obtain ⟨sorted, perm, ordered, rfl⟩ := isPage
  rw [sorted_unique distinct perm (List.perm_insertionSort (newestFirst key) rows) ordered
    (List.pairwise_insertionSort (newestFirst key) rows)]

theorem take_append_page (size count : ℕ) (rows : List α) :
    rows.take (count * size) ++ page size (count + 1) rows = rows.take ((count + 1) * size) := by
  rw [page, Nat.add_sub_cancel, Nat.succ_mul, List.take_add]

end Pages
