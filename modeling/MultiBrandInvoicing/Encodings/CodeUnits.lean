import Mathlib.Data.List.Basic

/-!
# Strings of UTF-16 code units

A string of the language is a sequence of 16-bit units, in which a surrogate may also stand
alone.  It is read as code points by pairing a high surrogate with the low one right behind it.
-/

set_option autoImplicit false

namespace Encodings

abbrev CodeUnits := List UInt16

def isHigh (unit : UInt16) : Bool := 0xD800 ≤ unit.toNat && unit.toNat < 0xDC00

def isLow (unit : UInt16) : Bool := 0xDC00 ≤ unit.toNat && unit.toNat < 0xE000

def paired (high low : UInt16) : ℕ :=
  0x10000 + (high.toNat - 0xD800) * 0x400 + (low.toNat - 0xDC00)

/-- The code points of a string; a surrogate without a partner is a code point itself. -/
def codePoints : CodeUnits → List ℕ
  | [] => []
  | [unit] => [unit.toNat]
  | first :: second :: rest =>
    if isHigh first && isLow second then paired first second :: codePoints rest
    else first.toNat :: codePoints (second :: rest)

def utf16 (point : ℕ) : CodeUnits :=
  if point < 0x10000 then [.ofNat point]
  else [.ofNat (0xD800 + (point - 0x10000) / 0x400), .ofNat (0xDC00 + (point - 0x10000) % 0x400)]

def ofString (text : String) : CodeUnits := text.toList.flatMap fun char => utf16 char.toNat

/-- A code point that is no surrogate. -/
def IsScalar (point : ℕ) : Prop := point < 0xD800 ∨ 0xE000 ≤ point ∧ point < 0x110000

/-- No surrogate stands alone. -/
def WellFormed (units : CodeUnits) : Prop :=
  ∃ points : List ℕ, (∀ point ∈ points, IsScalar point) ∧ units = points.flatMap utf16

theorem toNat_ofNat {n : ℕ} (small : n < 0x10000) : (UInt16.ofNat n).toNat = n :=
  UInt16.toNat_ofNat_of_lt' small

@[simp] theorem utf16_unit (unit : UInt16) : utf16 unit.toNat = [unit] := by
  rw [utf16, if_pos unit.toNat_lt, UInt16.ofNat_toNat]

theorem utf16_paired {high low : UInt16} (first : isHigh high = true) (second : isLow low = true) :
    utf16 (paired high low) = [high, low] := by
  simp only [isHigh, isLow, Bool.and_eq_true, decide_eq_true_eq] at first second
  have large : ¬paired high low < 0x10000 := by
    unfold paired
    omega
  have upper : 0xD800 + (paired high low - 0x10000) / 0x400 = high.toNat := by
    unfold paired
    omega
  have lower : 0xDC00 + (paired high low - 0x10000) % 0x400 = low.toNat := by
    unfold paired
    omega
  rw [utf16, if_neg large, upper, lower, UInt16.ofNat_toNat, UInt16.ofNat_toNat]

/-- A string is its code points again, whatever surrogates it has. -/
theorem flatMap_utf16_codePoints (units : CodeUnits) :
    (codePoints units).flatMap utf16 = units := by
  fun_induction codePoints units with
  | case1 => rfl
  | case2 unit => simp
  | case3 first second rest pair ih =>
    rw [Bool.and_eq_true] at pair
    rw [List.flatMap_cons, ih, utf16_paired pair.1 pair.2]
    rfl
  | case4 first second rest single ih =>
    rw [List.flatMap_cons, ih, utf16_unit]
    rfl

theorem codePoints_lt {units : CodeUnits} {point : ℕ} (member : point ∈ codePoints units) :
    point < 0x110000 := by
  fun_induction codePoints units with
  | case1 => simp at member
  | case2 unit =>
    have bound := unit.toNat_lt
    simp only [List.mem_singleton] at member
    omega
  | case3 first second rest pair ih =>
    simp only [isHigh, isLow, Bool.and_eq_true, decide_eq_true_eq] at pair
    rcases List.mem_cons.mp member with same | later
    · rw [same]
      unfold paired
      omega
    · exact ih later
  | case4 first second rest single ih =>
    have bound := first.toNat_lt
    rcases List.mem_cons.mp member with same | later
    · omega
    · exact ih later

theorem codePoints_utf16_append {point : ℕ} (scalar : IsScalar point) (rest : CodeUnits) :
    codePoints (utf16 point ++ rest) = point :: codePoints rest := by
  unfold IsScalar at scalar
  rw [utf16]
  split
  case isTrue small =>
    have value := toNat_ofNat small
    have notHigh : isHigh (.ofNat point) = false := by
      rw [isHigh, value]
      simp only [Bool.and_eq_false_iff, decide_eq_false_iff_not]
      omega
    cases rest with
    | nil => simp [codePoints, value]
    | cons second rest => simp [codePoints, notHigh, value]
  case isFalse large =>
    have high := toNat_ofNat (n := 0xD800 + (point - 0x10000) / 0x400) (by omega)
    have low := toNat_ofNat (n := 0xDC00 + (point - 0x10000) % 0x400) (by omega)
    revert high low
    generalize UInt16.ofNat (0xD800 + (point - 0x10000) / 0x400) = first
    generalize UInt16.ofNat (0xDC00 + (point - 0x10000) % 0x400) = second
    intro high low
    have pair : (isHigh first && isLow second) = true := by
      simp only [isHigh, isLow, Bool.and_eq_true, decide_eq_true_eq]
      omega
    have value : paired first second = point := by
      unfold paired
      omega
    simp only [List.cons_append, List.nil_append, codePoints, pair, if_true, value]

theorem codePoints_flatMap {points : List ℕ} (scalars : ∀ point ∈ points, IsScalar point) :
    codePoints (points.flatMap utf16) = points := by
  induction points with
  | nil => rfl
  | cons point rest ih =>
    rw [List.flatMap_cons, codePoints_utf16_append (scalars point List.mem_cons_self),
      ih fun other member => scalars other (List.mem_cons_of_mem _ member)]

/-! ## Well-formed strings -/

theorem wellFormed_nil : WellFormed [] := ⟨[], by simp, rfl⟩

theorem WellFormed.append {first second : CodeUnits} (one : WellFormed first)
    (other : WellFormed second) : WellFormed (first ++ second) := by
  obtain ⟨points, scalars, rfl⟩ := one
  obtain ⟨more, further, rfl⟩ := other
  refine ⟨points ++ more, ?_, List.flatMap_append.symm⟩
  intro point member
  rcases List.mem_append.mp member with early | late
  · exact scalars point early
  · exact further point late

theorem wellFormed_utf16 {point : ℕ} (scalar : IsScalar point) : WellFormed (utf16 point) :=
  ⟨[point], by simpa using scalar, by simp⟩

theorem WellFormed.flatten {parts : List CodeUnits} (each : ∀ part ∈ parts, WellFormed part) :
    WellFormed parts.flatten := by
  induction parts with
  | nil => exact wellFormed_nil
  | cons part rest ih =>
    rw [List.flatten_cons]
    exact (each part List.mem_cons_self).append
      (ih fun other member => each other (List.mem_cons_of_mem _ member))

/-! ## Strings of characters -/

theorem isScalar_toNat (char : Char) : IsScalar char.toNat := by
  have valid : char.toNat < 0xD800 ∨ 0xDFFF < char.toNat ∧ char.toNat < 0x110000 := char.valid
  unfold IsScalar
  omega

theorem ofString_points (text : String) :
    (∀ point ∈ text.toList.map Char.toNat, IsScalar point) ∧
      ofString text = (text.toList.map Char.toNat).flatMap utf16 := by
  constructor
  · intro point member
    obtain ⟨char, _, rfl⟩ := List.mem_map.mp member
    exact isScalar_toNat char
  · rw [ofString, List.flatMap_map]

theorem wellFormed_ofString (text : String) : WellFormed (ofString text) :=
  ⟨text.toList.map Char.toNat, ofString_points text⟩

theorem ofString_inj {text other : String} : ofString text = ofString other ↔ text = other := by
  constructor
  · intro same
    have points (string : String) :
        codePoints (ofString string) = string.toList.map Char.toNat := by
      obtain ⟨scalars, units⟩ := ofString_points string
      rw [units, codePoints_flatMap scalars]
    have chars := congrArg codePoints same
    rw [points, points] at chars
    exact String.toList_inj.mp (List.map_injective_iff.mpr (fun _ _ => Char.toNat_inj.mp) chars)
  · intro same
    rw [same]

end Encodings
