import Mathlib.Data.List.Dedup
import Mathlib.Data.List.Perm.Subperm
import Mathlib.Data.List.Sort

/-!
# The page numbers of the pagination control

`pageWindow` of `packages/ui/src/pagination/pagination.tsx`: the first page, the last and those
around the current one, with a mark wherever some are left out between two of them.
-/

set_option autoImplicit false

namespace MultiBrandInvoicing

namespace PageWindow

/-- The rounds of the loop over the sorted pages; `none` is the `null` for an ellipsis. -/
def withEllipses (previous : Int) : List Int → List (Option Int)
  | [] => []
  | page :: pages =>
      (if previous ≠ 0 ∧ page - previous > 1 then [none] else []) ++
        some page :: withEllipses page pages

/-- The pages of the set that exist, in order; sorting forgets how the set lists them. -/
def shownPages (current totalPages : Int) : List Int :=
  ([1, totalPages, current - 1, current, current + 1].dedup.filter fun page =>
    1 ≤ page && page ≤ totalPages).insertionSort (· ≤ ·)

def pageWindow (current totalPages : Int) : List (Option Int) :=
  if totalPages ≤ 7 then
    (List.range totalPages.toNat).map fun index : Nat => some ((index : Int) + 1)
  else withEllipses 0 (shownPages current totalPages)

/-! ## Marks between pages -/

/-- A mark stands between two pages exactly if they do not follow each other. -/
inductive GapsMarked : List (Option Int) → Prop
  | nil : GapsMarked []
  | last (page : Int) : GapsMarked [some page]
  | next {page : Int} {rest : List (Option Int)} (marked : GapsMarked (some (page + 1) :: rest)) :
      GapsMarked (some page :: some (page + 1) :: rest)
  | gap {page later : Int} {rest : List (Option Int)} (apart : page + 1 < later)
      (marked : GapsMarked (some later :: rest)) :
      GapsMarked (some page :: none :: some later :: rest)

theorem pages_withEllipses (previous : Int) (pages : List Int) :
    (withEllipses previous pages).filterMap id = pages := by
  induction pages generalizing previous with
  | nil => rfl
  | cons page pages ih =>
      have here : (some page :: withEllipses page pages).filterMap id = page :: pages := by
        rw [List.filterMap_cons_some (f := id) rfl, ih]
      rw [withEllipses, List.filterMap_append, here]
      split
      next => rfl
      next => rfl

theorem mem_withEllipses {previous page : Int} {pages : List Int} :
    some page ∈ withEllipses previous pages ↔ page ∈ pages := by
  have shown := List.mem_filterMap (f := id) (l := withEllipses previous pages) (b := page)
  rw [pages_withEllipses] at shown
  simpa using shown.symm

theorem marked_after {page : Int} {pages : List Int} (positive : 1 ≤ page)
    (increasing : (page :: pages).Pairwise (· < ·)) :
    GapsMarked (some page :: withEllipses page pages) := by
  induction pages generalizing page with
  | nil => exact .last page
  | cons later pages ih =>
      obtain ⟨first, rest⟩ := List.pairwise_cons.mp increasing
      have less := first later List.mem_cons_self
      have marked := ih (by omega) rest
      rw [withEllipses]
      split
      next apart => exact .gap (by omega) marked
      next together =>
        obtain rfl : later = page + 1 := by omega
        exact .next marked

theorem gapsMarked_withEllipses {pages : List Int} (positive : ∀ page ∈ pages, 1 ≤ page)
    (increasing : pages.Pairwise (· < ·)) : GapsMarked (withEllipses 0 pages) := by
  cases pages with
  | nil => exact .nil
  | cons page pages =>
      have marked := marked_after (positive page List.mem_cons_self) increasing
      simpa [withEllipses] using marked

/-- The loop adds one mark for each page that is not followed, the last one apart. -/
theorem length_after {page : Int} {pages : List Int} (positive : 1 ≤ page)
    (increasing : (page :: pages).Pairwise (· < ·)) :
    (withEllipses page pages).length + 1 =
      pages.length + ((page :: pages).filter fun other => other + 1 ∉ page :: pages).length := by
  induction pages generalizing page with
  | nil =>
      have alone : page + 1 ≠ page := by omega
      simp [withEllipses, alone]
  | cons later pages ih =>
      obtain ⟨first, rest⟩ := List.pairwise_cons.mp increasing
      have less := first later List.mem_cons_self
      have counted := ih (by omega) rest
      -- The first page follows none of the others, so it changes nothing for them.
      have others : (later :: pages).filter (fun other => other + 1 ∉ page :: later :: pages) =
          (later :: pages).filter fun other => other + 1 ∉ later :: pages := by
        apply List.filter_congr
        intro other member
        have beyond := first other member
        have different : other + 1 ≠ page := by omega
        simp [different]
      have followed : page + 1 ∈ page :: later :: pages ↔ later = page + 1 := by
        constructor
        · intro member
          rcases List.mem_cons.mp member with same | member
          · omega
          · rcases List.mem_cons.mp member with same | member
            · exact same.symm
            · have beyond := (List.pairwise_cons.mp rest).1 (page + 1) member
              omega
        · intro same
          rw [← same]
          exact List.mem_cons_of_mem page List.mem_cons_self
      rw [List.filter_cons, others, withEllipses]
      by_cases together : later = page + 1
      · have noMark : ¬(page ≠ 0 ∧ later - page > 1) := by omega
        have kept : ¬decide (page + 1 ∉ page :: later :: pages) = true := by
          rw [decide_eq_true_eq, not_not]
          exact followed.mpr together
        rw [if_neg noMark, if_neg kept, List.nil_append, List.length_cons, List.length_cons]
        omega
      · have mark : page ≠ 0 ∧ later - page > 1 := by omega
        have dropped : decide (page + 1 ∉ page :: later :: pages) = true := by
          rw [decide_eq_true_eq]
          exact fun member => together (followed.mp member)
        rw [if_pos mark, if_pos dropped]
        simp only [List.singleton_append, List.length_cons]
        omega

theorem length_withEllipses {pages : List Int} (positive : ∀ page ∈ pages, 1 ≤ page)
    (increasing : pages.Pairwise (· < ·)) :
    (withEllipses 0 pages).length ≤
      pages.length + (pages.filter fun page => page + 1 ∉ pages).length - 1 := by
  cases pages with
  | nil => simp [withEllipses]
  | cons page pages =>
      have counted := length_after (positive page List.mem_cons_self) increasing
      have start : ¬((0 : Int) ≠ 0 ∧ page - 0 > 1) := by omega
      rw [withEllipses, if_neg start, List.nil_append, List.length_cons, List.length_cons]
      omega

/-! ## The pages that are shown -/

section Window

variable {current totalPages : Int}

theorem mem_shownPages {page : Int} : page ∈ shownPages current totalPages ↔
    page ∈ [1, totalPages, current - 1, current, current + 1] ∧ 1 ≤ page ∧ page ≤ totalPages := by
  simp only [shownPages, List.mem_insertionSort, List.mem_filter, List.mem_dedup,
    Bool.and_eq_true, decide_eq_true_eq]

theorem shownPages_increasing : (shownPages current totalPages).Pairwise (· < ·) := by
  have sorted : (shownPages current totalPages).Pairwise (· ≤ ·) := List.pairwise_insertionSort _ _
  have nodup : (shownPages current totalPages).Nodup := by
    rw [shownPages, (List.perm_insertionSort _ _).nodup_iff]
    exact (List.nodup_dedup _).filter _
  exact (sorted.and nodup).imp fun ⟨le, different⟩ => lt_of_le_of_ne le different

theorem length_le_of_subset {pages others : List Int} (increasing : pages.Pairwise (· < ·))
    (subset : ∀ page ∈ pages, page ∈ others) : pages.length ≤ others.length :=
  (List.Nodup.subperm (increasing.imp ne_of_lt) subset).length_le

/-- What is shown of a long list has at most seven entries: the pages that none follows are the
first, the one after the current and the last. -/
theorem length_shown :
    (withEllipses 0 (shownPages current totalPages)).length ≤ 7 := by
  have shown : (shownPages current totalPages).length ≤ 5 :=
    length_le_of_subset shownPages_increasing fun page member => (mem_shownPages.mp member).1
  have ends : ((shownPages current totalPages).filter fun page =>
      page + 1 ∉ shownPages current totalPages).length ≤ [1, current + 1, totalPages].length := by
    refine length_le_of_subset (shownPages_increasing.filter _) ?_
    intro page member
    obtain ⟨listed, alone⟩ := List.mem_filter.mp member
    have alone : page + 1 ∉ shownPages current totalPages := of_decide_eq_true alone
    obtain ⟨choice, first, last⟩ := mem_shownPages.mp listed
    simp only [mem_shownPages, List.mem_cons, List.not_mem_nil, or_false] at choice alone ⊢
    omega
  have increasing : (shownPages current totalPages).Pairwise (· < ·) := shownPages_increasing
  have counted := length_withEllipses (fun page member => (mem_shownPages.mp member).2.1)
    increasing
  simp only [List.length_cons, List.length_nil] at ends
  omega

def firstPages (count : Nat) : List Int :=
  (List.range count).map fun index : Nat => (index : Int) + 1

theorem mem_firstPages {count : Nat} {page : Int} :
    page ∈ firstPages count ↔ 1 ≤ page ∧ page ≤ count := by
  simp only [firstPages, List.mem_map, List.mem_range]
  constructor
  · intro ⟨index, within, same⟩
    omega
  · intro ⟨first, last⟩
    exact ⟨(page - 1).toNat, by omega, by omega⟩

theorem firstPages_increasing (count : Nat) : (firstPages count).Pairwise (· < ·) := by
  rw [firstPages, List.pairwise_map]
  exact List.pairwise_lt_range.imp fun less => by omega

theorem withEllipses_firstPages (count : Nat) :
    withEllipses 0 (firstPages count) = (firstPages count).map some := by
  have from_ : ∀ start : Nat, ∀ length : Nat, withEllipses (start : Int)
      ((List.range' start length).map fun index : Nat => (index : Int) + 1) =
        ((List.range' start length).map fun index : Nat => (index : Int) + 1).map some := by
    intro start length
    induction length generalizing start with
    | zero => rfl
    | succ length ih =>
        have together : ¬((start : Int) ≠ 0 ∧ (start : Int) + 1 - start > 1) := by omega
        have rest := ih (start + 1)
        rw [Int.natCast_succ] at rest
        rw [List.range'_succ, List.map_cons, withEllipses, if_neg together, rest]
        rfl
  rw [firstPages, List.range_eq_range']
  exact from_ 0 count

/-! ## What the window shows -/

/-- The pages are in order, the ends, the current page and those around it are there, marks
stand where pages are left out, and it all is short. -/
structure WellFormed (current totalPages : Int) (window : List (Option Int)) : Prop where
  increasing : (window.filterMap id).Pairwise (· < ·)
  first : some 1 ∈ window
  here : some current ∈ window
  last : some totalPages ∈ window
  before : 1 ≤ current - 1 → some (current - 1) ∈ window
  after : current + 1 ≤ totalPages → some (current + 1) ∈ window
  marked : GapsMarked window
  short : window.length ≤ 7

theorem WellFormed.of_pages {pages : List Int} (least : 1 ≤ current) (most : current ≤ totalPages)
    (increasing : pages.Pairwise (· < ·)) (positive : ∀ page ∈ pages, 1 ≤ page)
    (around : ∀ page ∈ [1, totalPages, current - 1, current, current + 1],
      1 ≤ page → page ≤ totalPages → page ∈ pages)
    (short : (withEllipses 0 pages).length ≤ 7) :
    WellFormed current totalPages (withEllipses 0 pages) where
  increasing := by rwa [pages_withEllipses]
  first := mem_withEllipses.mpr (around 1 (by simp) le_rfl (least.trans most))
  here := mem_withEllipses.mpr (around current (by simp) least most)
  last := mem_withEllipses.mpr (around totalPages (by simp) (least.trans most) le_rfl)
  before exists_ := mem_withEllipses.mpr (around (current - 1) (by simp) exists_ (by omega))
  after exists_ := mem_withEllipses.mpr (around (current + 1) (by simp) (by omega) exists_)
  marked := gapsMarked_withEllipses positive increasing
  short

end Window

theorem pageWindow_wellFormed (current totalPages : Int) (least : 1 ≤ current)
    (most : current ≤ totalPages) :
    WellFormed current totalPages (pageWindow current totalPages) := by
  by_cases few : totalPages ≤ 7
  · have count : (totalPages.toNat : Int) = totalPages := Int.toNat_of_nonneg (by omega)
    have all : pageWindow current totalPages = withEllipses 0 (firstPages totalPages.toNat) := by
      rw [pageWindow, if_pos few, withEllipses_firstPages, firstPages, List.map_map]
      rfl
    have short : (withEllipses 0 (firstPages totalPages.toNat)).length ≤ 7 := by
      rw [withEllipses_firstPages, List.length_map, firstPages, List.length_map, List.length_range]
      omega
    rw [all]
    refine .of_pages least most (firstPages_increasing _) ?_ ?_ short
    · intro page member
      exact (mem_firstPages.mp member).1
    · intro page _ first last
      rw [mem_firstPages, count]
      exact ⟨first, last⟩
  · have long : pageWindow current totalPages =
        withEllipses 0 (shownPages current totalPages) := by
      rw [pageWindow, if_neg few]
    rw [long]
    refine .of_pages least most shownPages_increasing ?_ ?_ length_shown
    · intro page member
      exact (mem_shownPages.mp member).2.1
    · intro page listed first last
      exact mem_shownPages.mpr ⟨listed, first, last⟩

theorem pageWindow_wellFormed_sample :
    pageWindow 5 20 = [some 1, none, some 4, some 5, some 6, none, some 20] ∧
      WellFormed 5 20 (pageWindow 5 20) :=
  ⟨by decide, pageWindow_wellFormed 5 20 (by decide) (by decide)⟩

end PageWindow

end MultiBrandInvoicing
