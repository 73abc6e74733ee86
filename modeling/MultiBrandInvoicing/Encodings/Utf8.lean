import MultiBrandInvoicing.Encodings.CodeUnits

/-!
# UTF-8

Strings to bytes and back.  A surrogate that stands alone is encoded as the replacement character;
bytes that are no UTF-8 are decoded to replacement characters, one for each part that could have
begun a character.  A well-formed string is decoded from its own bytes.
-/

set_option autoImplicit false

namespace Encodings

def replacement : ℕ := 0xFFFD

def replaced (point : ℕ) : ℕ := if 0xD800 ≤ point ∧ point < 0xE000 then replacement else point

def encodePoint (point : ℕ) : List UInt8 :=
  if point < 0x80 then [.ofNat point]
  else if point < 0x800 then [.ofNat (0xC0 + point / 0x40), .ofNat (0x80 + point % 0x40)]
  else if point < 0x10000 then
    [.ofNat (0xE0 + point / 0x1000), .ofNat (0x80 + point / 0x40 % 0x40),
      .ofNat (0x80 + point % 0x40)]
  else
    [.ofNat (0xF0 + point / 0x40000), .ofNat (0x80 + point / 0x1000 % 0x40),
      .ofNat (0x80 + point / 0x40 % 0x40), .ofNat (0x80 + point % 0x40)]

def utf8 (text : CodeUnits) : List UInt8 :=
  (codePoints text).flatMap fun point => encodePoint (replaced point)

/-- A character that has begun: the bytes it lacks, the bounds of the next one and the bits read
so far. -/
structure Pending where
  missing : ℕ
  lower : ℕ
  upper : ℕ
  value : ℕ

/-- The first byte of a character: what has begun with it, and what is read off already. -/
def lead (byte : ℕ) : Option Pending × List ℕ :=
  if byte < 0x80 then (none, [byte])
  else if 0xC2 ≤ byte ∧ byte < 0xE0 then (some ⟨1, 0x80, 0xBF, byte - 0xC0⟩, [])
  else if 0xE0 ≤ byte ∧ byte < 0xF0 then
    (some ⟨2, if byte = 0xE0 then 0xA0 else 0x80, if byte = 0xED then 0x9F else 0xBF,
      byte - 0xE0⟩, [])
  else if 0xF0 ≤ byte ∧ byte < 0xF5 then
    (some ⟨3, if byte = 0xF0 then 0x90 else 0x80, if byte = 0xF4 then 0x8F else 0xBF,
      byte - 0xF0⟩, [])
  else (none, [replacement])

/-- A byte out of bounds ends the character that has begun and is read as a first byte. -/
def decodeStep : Option Pending → ℕ → Option Pending × List ℕ
  | none, byte => lead byte
  | some pending, byte =>
    if pending.lower ≤ byte ∧ byte ≤ pending.upper then
      let value := pending.value * 0x40 + (byte - 0x80)
      if pending.missing = 1 then (none, [value])
      else (some ⟨pending.missing - 1, 0x80, 0xBF, value⟩, [])
    else ((lead byte).1, replacement :: (lead byte).2)

def decodeFrom : Option Pending → List UInt8 → List ℕ
  | none, [] => []
  | some _, [] => [replacement]
  | pending, byte :: rest =>
    (decodeStep pending byte.toNat).2 ++ decodeFrom (decodeStep pending byte.toNat).1 rest

def fromUtf8 (bytes : List UInt8) : CodeUnits := (decodeFrom none bytes).flatMap utf16

example : fromUtf8 [0x41, 0xF0, 0x9F, 0x42] = [0x41, 0xFFFD, 0x42] := by decide

theorem byte_toNat {n : ℕ} (small : n < 0x100) : (UInt8.ofNat n).toNat = n :=
  UInt8.toNat_ofNat_of_lt' small

/-! ## The bytes of a character -/

theorem decodeFrom_lead {byte : ℕ} {pending : Pending} (small : byte < 0x100)
    (begun : lead byte = (some pending, [])) (rest : List UInt8) :
    decodeFrom none (.ofNat byte :: rest) = decodeFrom (some pending) rest := by
  rw [decodeFrom, byte_toNat small, decodeStep, begun]
  rfl

theorem decodeFrom_more {missing lower upper value bits : ℕ} (small : bits < 0x40)
    (bounds : lower ≤ 0x80 + bits ∧ 0x80 + bits ≤ upper) (rest : List UInt8) :
    decodeFrom (some ⟨missing + 2, lower, upper, value⟩) (.ofNat (0x80 + bits) :: rest) =
      decodeFrom (some ⟨missing + 1, 0x80, 0xBF, value * 0x40 + bits⟩) rest := by
  rw [decodeFrom, byte_toNat (by omega), decodeStep, if_pos bounds, if_neg (by simp),
    Nat.add_sub_cancel_left]
  rfl

theorem decodeFrom_last {lower upper value bits : ℕ} (small : bits < 0x40)
    (bounds : lower ≤ 0x80 + bits ∧ 0x80 + bits ≤ upper) (rest : List UInt8) :
    decodeFrom (some ⟨1, lower, upper, value⟩) (.ofNat (0x80 + bits) :: rest) =
      (value * 0x40 + bits) :: decodeFrom none rest := by
  rw [decodeFrom, byte_toNat (by omega), decodeStep, if_pos bounds, if_pos rfl,
    Nat.add_sub_cancel_left]
  rfl

theorem decodeFrom_encodePoint {point : ℕ} (scalar : IsScalar point) (rest : List UInt8) :
    decodeFrom none (encodePoint point ++ rest) = point :: decodeFrom none rest := by
  unfold IsScalar at scalar
  unfold encodePoint
  split_ifs with one two three
  · rw [List.singleton_append, decodeFrom, byte_toNat (by omega), decodeStep, lead, if_pos one]
    rfl
  · have begun : lead (0xC0 + point / 0x40) = (some ⟨1, 0x80, 0xBF, point / 0x40⟩, []) := by
      rw [lead, if_neg (by omega), if_pos (by omega), Nat.add_sub_cancel_left]
    simp only [List.cons_append, List.nil_append]
    rw [decodeFrom_lead (by omega) begun, decodeFrom_last (by omega) (by omega)]
    congr 1
    omega
  · obtain ⟨lower, low⟩ :
        ∃ lower, (if 0xE0 + point / 0x1000 = 0xE0 then 0xA0 else 0x80) = lower := ⟨_, rfl⟩
    obtain ⟨upper, high⟩ :
        ∃ upper, (if 0xE0 + point / 0x1000 = 0xED then 0x9F else 0xBF) = upper := ⟨_, rfl⟩
    have begun : lead (0xE0 + point / 0x1000) = (some ⟨2, lower, upper, point / 0x1000⟩, []) := by
      rw [lead, if_neg (by omega), if_neg (by omega), if_pos (by omega), low, high,
        Nat.add_sub_cancel_left]
    -- The bounds of the second byte shut out what has a shorter encoding and the surrogates.
    have bounds : lower ≤ 0x80 + point / 0x40 % 0x40 ∧ 0x80 + point / 0x40 % 0x40 ≤ upper := by
      split_ifs at low high <;> omega
    simp only [List.cons_append, List.nil_append]
    rw [decodeFrom_lead (by omega) begun, decodeFrom_more (by omega) bounds,
      decodeFrom_last (by omega) (by omega)]
    congr 1
    omega
  · obtain ⟨lower, low⟩ :
        ∃ lower, (if 0xF0 + point / 0x40000 = 0xF0 then 0x90 else 0x80) = lower := ⟨_, rfl⟩
    obtain ⟨upper, high⟩ :
        ∃ upper, (if 0xF0 + point / 0x40000 = 0xF4 then 0x8F else 0xBF) = upper := ⟨_, rfl⟩
    have begun : lead (0xF0 + point / 0x40000) = (some ⟨3, lower, upper, point / 0x40000⟩, []) := by
      rw [lead, if_neg (by omega), if_neg (by omega), if_neg (by omega), if_pos (by omega), low,
        high, Nat.add_sub_cancel_left]
    have bounds : lower ≤ 0x80 + point / 0x1000 % 0x40 ∧
        0x80 + point / 0x1000 % 0x40 ≤ upper := by
      split_ifs at low high <;> omega
    simp only [List.cons_append, List.nil_append]
    rw [decodeFrom_lead (by omega) begun, decodeFrom_more (by omega) bounds,
      decodeFrom_more (by omega) (by omega), decodeFrom_last (by omega) (by omega)]
    congr 1
    omega

theorem replaced_scalar {point : ℕ} (scalar : IsScalar point) : replaced point = point := by
  unfold IsScalar at scalar
  rw [replaced, if_neg (by omega)]

theorem decodeFrom_flatMap {points : List ℕ} (scalars : ∀ point ∈ points, IsScalar point) :
    decodeFrom none (points.flatMap fun point => encodePoint (replaced point)) = points := by
  induction points with
  | nil => rfl
  | cons point rest ih =>
    have scalar := scalars point List.mem_cons_self
    rw [List.flatMap_cons, replaced_scalar scalar, decodeFrom_encodePoint scalar,
      ih fun other member => scalars other (List.mem_cons_of_mem _ member)]

/-- A well-formed string is decoded from its own bytes. -/
theorem fromUtf8_utf8 {text : CodeUnits} (wellFormed : WellFormed text) :
    fromUtf8 (utf8 text) = text := by
  obtain ⟨points, scalars, rfl⟩ := wellFormed
  rw [fromUtf8, utf8, codePoints_flatMap scalars, decodeFrom_flatMap scalars]

/-! ## Strings of ASCII characters -/

def IsAscii (text : CodeUnits) : Prop := ∀ unit ∈ text, unit.toNat < 0x80

theorem isAscii_nil : IsAscii [] := by simp [IsAscii]

theorem IsAscii.cons {unit : UInt16} {rest : CodeUnits} (first : unit.toNat < 0x80)
    (others : IsAscii rest) : IsAscii (unit :: rest) := List.forall_mem_cons.mpr ⟨first, others⟩

theorem ascii_points {text : CodeUnits} (ascii : IsAscii text) :
    (∀ point ∈ text.map UInt16.toNat, IsScalar point) ∧
      text = (text.map UInt16.toNat).flatMap utf16 := by
  constructor
  · intro point member
    obtain ⟨unit, found, rfl⟩ := List.mem_map.mp member
    have small := ascii unit found
    exact .inl (by omega)
  · rw [List.flatMap_map]
    simp only [utf16_unit]
    exact (List.flatMap_singleton' text).symm

theorem IsAscii.wellFormed {text : CodeUnits} (ascii : IsAscii text) : WellFormed text :=
  ⟨text.map UInt16.toNat, ascii_points ascii⟩

theorem codePoints_ascii {text : CodeUnits} (ascii : IsAscii text) :
    codePoints text = text.map UInt16.toNat := by
  obtain ⟨scalars, units⟩ := ascii_points ascii
  have points := codePoints_flatMap scalars
  rwa [← units] at points

theorem utf8_ascii {text : CodeUnits} (ascii : IsAscii text) :
    utf8 text = text.map fun unit => .ofNat unit.toNat := by
  rw [utf8, codePoints_ascii ascii, List.flatMap_map, List.map_eq_flatMap]
  refine List.flatMap_congr ?_
  intro unit member
  have small := ascii unit member
  rw [replaced_scalar (.inl (by omega)), encodePoint, if_pos small]

theorem exists_large_byte {point : ℕ} (bound : point < 0x110000) (large : 0x80 ≤ point) :
    ∃ byte ∈ encodePoint (replaced point), 0x80 ≤ byte.toNat := by
  have kept : 0x80 ≤ replaced point ∧ replaced point < 0x110000 := by
    unfold replaced replacement
    split_ifs <;> omega
  unfold encodePoint
  rw [if_neg (by omega)]
  split_ifs
  · exact ⟨_, List.mem_cons_self, by rw [byte_toNat (by omega)]; omega⟩
  · exact ⟨_, List.mem_cons_self, by rw [byte_toNat (by omega)]; omega⟩
  · exact ⟨_, List.mem_cons_self, by rw [byte_toNat (by omega)]; omega⟩

theorem isAscii_of_utf8 {text : CodeUnits} (small : ∀ byte ∈ utf8 text, byte.toNat < 0x80) :
    IsAscii text := by
  have points : ∀ point ∈ codePoints text, point < 0x80 := by
    intro point member
    by_contra large
    obtain ⟨byte, found, high⟩ := exists_large_byte (codePoints_lt member) (by omega)
    have low := small byte (List.mem_flatMap.mpr ⟨point, member, found⟩)
    omega
  intro unit member
  rw [← flatMap_utf16_codePoints text] at member
  obtain ⟨point, found, hit⟩ := List.mem_flatMap.mp member
  have low := points point found
  rw [utf16, if_pos (by omega), List.mem_singleton] at hit
  rw [hit, toNat_ofNat (by omega)]
  exact low

theorem eq_of_utf8_ascii {text other : CodeUnits} (ascii : IsAscii text)
    (same : utf8 other = utf8 text) : other = text := by
  have small : ∀ byte ∈ utf8 other, byte.toNat < 0x80 := by
    rw [same, utf8_ascii ascii]
    intro byte member
    obtain ⟨unit, found, rfl⟩ := List.mem_map.mp member
    have low := ascii unit found
    rw [byte_toNat (by omega)]
    exact low
  have otherAscii := isAscii_of_utf8 small
  rw [utf8_ascii ascii, utf8_ascii otherAscii] at same
  have back (units : CodeUnits) (low : IsAscii units) :
      (units.map fun unit => UInt8.ofNat unit.toNat).map (fun byte => UInt16.ofNat byte.toNat) =
        units := by
    rw [List.map_map]
    refine (List.map_congr_left ?_).trans (List.map_id units)
    intro unit member
    have small := low unit member
    rw [Function.comp_apply, byte_toNat (by omega), UInt16.ofNat_toNat, id]
  rw [← back text ascii, ← back other otherAscii, same]

/-! ## Joined strings -/

theorem codePoints_append_cons {unit : UInt16} (notLow : isLow unit = false)
    (first rest : CodeUnits) :
    codePoints (first ++ unit :: rest) = codePoints first ++ codePoints (unit :: rest) := by
  fun_induction codePoints first with
  | case1 => rfl
  | case2 single =>
    have apart : (isHigh single && isLow unit) = false := by rw [notLow, Bool.and_false]
    rw [List.singleton_append, codePoints, apart]
    rfl
  | case3 high low others pair ih =>
    rw [List.cons_append, List.cons_append, codePoints, if_pos pair, ih, List.cons_append]
  | case4 high low others single ih =>
    rw [List.cons_append, List.cons_append, codePoints, if_neg single]
    rw [List.cons_append] at ih
    rw [ih, List.cons_append]

theorem utf8_append_cons {unit : UInt16} (ascii : unit.toNat < 0x80) (first rest : CodeUnits) :
    utf8 (first ++ unit :: rest) = utf8 first ++ utf8 (unit :: rest) := by
  have notLow : isLow unit = false := by
    rw [isLow, Bool.and_eq_false_iff, decide_eq_false_iff_not]
    omega
  rw [utf8, codePoints_append_cons notLow, List.flatMap_append]
  rfl

theorem utf8_ascii_append {first : CodeUnits} (ascii : IsAscii first) (rest : CodeUnits) :
    utf8 (first ++ rest) = utf8 first ++ utf8 rest := by
  induction first with
  | nil => rfl
  | cons unit others ih =>
    have small := ascii unit List.mem_cons_self
    have later := ih fun other member => ascii other (List.mem_cons_of_mem _ member)
    have notHigh : isHigh unit = false := by
      rw [isHigh, Bool.and_eq_false_iff, decide_eq_false_iff_not]
      omega
    have alone (tail : CodeUnits) : utf8 (unit :: tail) = utf8 [unit] ++ utf8 tail := by
      cases tail with
      | nil => exact (List.append_nil _).symm
      | cons second tail =>
        have apart : (isHigh unit && isLow second) = false := by rw [notHigh, Bool.false_and]
        simp only [utf8, codePoints, apart, Bool.false_eq_true, if_false, List.flatMap_cons,
          List.flatMap_nil, List.append_nil]
    rw [List.cons_append, alone, later, alone others, List.append_assoc]

theorem replaced_isScalar {point : ℕ} (bound : point < 0x110000) : IsScalar (replaced point) := by
  unfold IsScalar replaced replacement
  split_ifs <;> omega

/-- The bytes of any string are read with a replacement for each surrogate that stands alone. -/
theorem fromUtf8_utf8_eq (text : CodeUnits) :
    fromUtf8 (utf8 text) = ((codePoints text).map replaced).flatMap utf16 := by
  have scalars : ∀ point ∈ (codePoints text).map replaced, IsScalar point := by
    intro point member
    obtain ⟨original, found, rfl⟩ := List.mem_map.mp member
    exact replaced_isScalar (codePoints_lt found)
  have bytes : utf8 text =
      ((codePoints text).map replaced).flatMap fun point => encodePoint (replaced point) := by
    rw [utf8, List.flatMap_map]
    refine List.flatMap_congr ?_
    intro point member
    rw [replaced_scalar (replaced_isScalar (codePoints_lt member))]
  rw [fromUtf8, bytes, decodeFrom_flatMap scalars]

theorem utf8_fromUtf8_utf8 (text : CodeUnits) : utf8 (fromUtf8 (utf8 text)) = utf8 text := by
  have scalars : ∀ point ∈ (codePoints text).map replaced, IsScalar point := by
    intro point member
    obtain ⟨original, found, rfl⟩ := List.mem_map.mp member
    exact replaced_isScalar (codePoints_lt found)
  rw [fromUtf8_utf8_eq, utf8, codePoints_flatMap scalars, utf8, List.flatMap_map]
  refine List.flatMap_congr ?_
  intro point member
  rw [replaced_scalar (replaced_isScalar (codePoints_lt member))]

theorem encodePoint_cons (point : ℕ) (bound : point < 0x110000) :
    ∃ first rest, encodePoint point = first :: rest ∧
      (first.toNat < 0x80 → first.toNat = point ∧ rest = []) := by
  unfold encodePoint
  split_ifs with one two three
  · exact ⟨_, _, rfl, fun _ => ⟨byte_toNat (by omega), rfl⟩⟩
  · refine ⟨_, _, rfl, fun small => ?_⟩
    rw [byte_toNat (by omega)] at small
    omega
  · refine ⟨_, _, rfl, fun small => ?_⟩
    rw [byte_toNat (by omega)] at small
    omega
  · refine ⟨_, _, rfl, fun small => ?_⟩
    rw [byte_toNat (by omega)] at small
    omega

/-- A byte of ASCII at the front is the first unit. -/
theorem cons_of_utf8 {text : CodeUnits} {byte : UInt8} {bytes : List UInt8}
    (small : byte.toNat < 0x80) (encoded : utf8 text = byte :: bytes) :
    ∃ rest, text = .ofNat byte.toNat :: rest ∧ utf8 rest = bytes := by
  have front (point : ℕ) (points : List ℕ) (bound : point < 0x110000)
      (same : encodePoint (replaced point) ++
        (points.flatMap fun point => encodePoint (replaced point)) = byte :: bytes) :
      point = byte.toNat ∧ (points.flatMap fun point => encodePoint (replaced point)) = bytes := by
    have kept : replaced point < 0x110000 := by
      unfold replaced replacement
      split_ifs <;> omega
    obtain ⟨first, rest, split, ascii⟩ := encodePoint_cons (replaced point) kept
    rw [split, List.cons_append, List.cons.injEq] at same
    obtain ⟨rfl, tail⟩ := same
    obtain ⟨value, rfl⟩ := ascii small
    refine ⟨?_, tail⟩
    unfold replaced replacement at value
    split_ifs at value <;> omega
  rw [utf8] at encoded
  fun_cases codePoints text with
  | case1 => simp [codePoints] at encoded
  | case2 unit =>
    rw [codePoints, List.flatMap_cons] at encoded
    obtain ⟨value, tail⟩ := front _ _ (by have bound := unit.toNat_lt; omega) encoded
    rw [← value, UInt16.ofNat_toNat]
    exact ⟨[], rfl, tail⟩
  | case3 high low rest pair =>
    rw [codePoints, if_pos pair, List.flatMap_cons] at encoded
    simp only [isHigh, isLow, Bool.and_eq_true, decide_eq_true_eq] at pair
    obtain ⟨value, _⟩ := front _ _ (by unfold paired; omega) encoded
    unfold paired at value
    omega
  | case4 first second rest single =>
    rw [codePoints, if_neg single, List.flatMap_cons] at encoded
    obtain ⟨value, tail⟩ := front _ _ (by have bound := first.toNat_lt; omega) encoded
    rw [← value, UInt16.ofNat_toNat]
    exact ⟨second :: rest, rfl, tail⟩

theorem append_of_utf8 {front text : CodeUnits} {rest : CodeUnits} (ascii : IsAscii front)
    (encoded : utf8 text = utf8 (front ++ rest)) :
    ∃ later, text = front ++ later ∧ utf8 later = utf8 rest := by
  induction front generalizing text with
  | nil => exact ⟨text, rfl, encoded⟩
  | cons unit others ih =>
    have small := ascii unit List.mem_cons_self
    have single : IsAscii [unit] := isAscii_nil.cons small
    have value : (UInt8.ofNat unit.toNat).toNat = unit.toNat := byte_toNat (by omega)
    rw [List.cons_append, ← List.singleton_append, utf8_ascii_append single, utf8_ascii single,
      List.map_singleton, List.singleton_append] at encoded
    obtain ⟨tail, rfl, same⟩ := cons_of_utf8 (by omega) encoded
    obtain ⟨later, rfl, bytes⟩ :=
      ih (fun other member => ascii other (List.mem_cons_of_mem _ member)) same
    rw [value, UInt16.ofNat_toNat]
    exact ⟨later, rfl, bytes⟩

end Encodings
