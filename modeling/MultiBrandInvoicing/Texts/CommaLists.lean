import Mathlib.Data.String.Basic

/-!
# Lists written with commas

Texts joined by commas, and the join taken apart again.  A join gives its parts back when none
of them holds a comma and there is at least one.
-/

set_option autoImplicit false

namespace Texts

open String

/-- `splitOn` along its text: `l` has been cut off, `m` is the part under way, `r` is to come. -/
theorem splitOnAux_comma (l m r : List Char) (parts : List String) :
    splitOnAux (ofList (l ++ m ++ r)) "," ⟨utf8Len l⟩ ⟨utf8Len l + utf8Len m⟩ 0 parts =
      parts.reverse ++ (List.splitOnPPrepend (· == ',') r m.reverse).map ofList := by
  induction r generalizing l m parts with
  | nil =>
      have ended : Pos.Raw.atEnd (ofList (l ++ m ++ [])) ⟨utf8Len l + utf8Len m⟩ = true := by
        rw [atEnd_iff, rawEndPos_ofList]
        simp
      rw [splitOnAux, if_pos ended, extract_of_valid]
      simp
  | cons c r ih =>
      have more : ¬Pos.Raw.atEnd (ofList (l ++ m ++ c :: r)) ⟨utf8Len l + utf8Len m⟩ = true := by
        have wide := c.utf8Size_pos
        rw [atEnd_iff, rawEndPos_ofList]
        simp
        omega
      have here := get_of_valid (l ++ m) (c :: r)
      have next := next_of_valid (l ++ m) c r
      rw [utf8Len_append, List.headD_cons] at here
      rw [utf8Len_append] at next
      have comma : Pos.Raw.get "," 0 = ',' := by decide
      have afterComma : Pos.Raw.next "," 0 = ⟨1⟩ := by decide
      have still : (⟨utf8Len l + utf8Len m⟩ : Pos.Raw).unoffsetBy 0 =
          ⟨utf8Len l + utf8Len m⟩ := by simp [Pos.Raw.unoffsetBy]
      rw [splitOnAux, if_neg more, here, comma, afterComma, still, next]
      by_cases found : c = ','
      · -- The part under way ends here, and the comma belongs to none.
        subst c
        have one : (',').utf8Size = 1 := by decide
        have wholeComma : Pos.Raw.atEnd "," ⟨1⟩ = true := by decide
        have back : (⟨utf8Len l + utf8Len m + (',').utf8Size⟩ : Pos.Raw).unoffsetBy ⟨1⟩ =
            ⟨utf8Len l + utf8Len m⟩ := by simp [Pos.Raw.unoffsetBy, one]
        rw [if_pos (beq_self_eq_true _), if_pos wholeComma, back, extract_of_valid]
        have rest := ih (l ++ m ++ [',']) [] (ofList m :: parts)
        simpa [Nat.add_assoc, List.splitOnPPrepend_cons_eq_if] using rest
      · have rest := ih l (m ++ [c]) parts
        simpa [found, Nat.add_assoc, List.splitOnPPrepend_cons_eq_if] using rest

theorem splitOn_comma (text : String) :
    text.splitOn "," = (text.toList.splitOn ',').map ofList := by
  simpa [splitOn, List.splitOn] using splitOnAux_comma [] [] text.toList []

def IsPlain (text : String) : Prop := text ≠ "" ∧ ',' ∉ text.toList

theorem splitOn_intercalate_comma {texts : List String}
    (plain : ∀ text ∈ texts, IsPlain text) (some_ : texts ≠ []) :
    (",".intercalate texts).splitOn "," = texts := by
  have comma : (",").toList = [','] := by decide
  rw [splitOn_comma, toList_intercalate, comma, List.splitOn_intercalate]
  · simp
  · intro chars listed
    obtain ⟨text, member, rfl⟩ := List.mem_map.mp listed
    exact (plain text member).2
  · simpa using some_

theorem intercalate_comma_ne_empty {texts : List String} (plain : ∀ text ∈ texts, IsPlain text)
    (some_ : texts ≠ []) : ",".intercalate texts ≠ "" := by
  intro empty
  have parts := splitOn_intercalate_comma plain some_
  have alone : ("").splitOn "," = [""] := by simp [splitOn_comma]
  rw [empty, alone] at parts
  exact (plain "" (by simp [← parts])).1 rfl

end Texts
