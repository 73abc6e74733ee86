import Mathlib.Data.List.TakeWhile
import MultiBrandInvoicing.Encodings.Utf8

/-!
# Bytes in base64url

Three bytes are four characters of six bits each; one or two bytes at the end are two or three
characters, without padding.  The decoder also knows the characters of plain base64, stops at the
padding and passes over everything else.  It inverts the encoder.
-/

set_option autoImplicit false

namespace Encodings

def sextetChar (sextet : ℕ) : UInt16 :=
  if sextet < 26 then .ofNat (0x41 + sextet)
  else if sextet < 52 then .ofNat (0x61 + (sextet - 26))
  else if sextet < 62 then .ofNat (0x30 + (sextet - 52))
  else if sextet = 62 then 0x2D
  else 0x5F

def charSextet (unit : UInt16) : Option ℕ :=
  if 0x41 ≤ unit.toNat ∧ unit.toNat ≤ 0x5A then some (unit.toNat - 0x41)
  else if 0x61 ≤ unit.toNat ∧ unit.toNat ≤ 0x7A then some (unit.toNat - 0x61 + 26)
  else if 0x30 ≤ unit.toNat ∧ unit.toNat ≤ 0x39 then some (unit.toNat - 0x30 + 52)
  else if unit = 0x2D ∨ unit = 0x2B then some 62
  else if unit = 0x5F ∨ unit = 0x2F then some 63
  else none

def sextets : List UInt8 → List ℕ
  | first :: second :: third :: rest =>
    [first.toNat / 4, first.toNat % 4 * 16 + second.toNat / 16,
      second.toNat % 16 * 4 + third.toNat / 64, third.toNat % 64] ++ sextets rest
  | [first, second] =>
    [first.toNat / 4, first.toNat % 4 * 16 + second.toNat / 16, second.toNat % 16 * 4]
  | [first] => [first.toNat / 4, first.toNat % 4 * 16]
  | [] => []

def octets : List ℕ → List UInt8
  | first :: second :: third :: fourth :: rest =>
    [.ofNat (first * 4 + second / 16), .ofNat (second % 16 * 16 + third / 4),
      .ofNat (third % 4 * 64 + fourth)] ++ octets rest
  | [first, second, third] =>
    [.ofNat (first * 4 + second / 16), .ofNat (second % 16 * 16 + third / 4)]
  | [first, second] => [.ofNat (first * 4 + second / 16)]
  | _ => []

def base64url (bytes : List UInt8) : CodeUnits := (sextets bytes).map sextetChar

def fromBase64url (text : CodeUnits) : List UInt8 :=
  octets ((text.takeWhile fun unit => unit ≠ 0x3D).filterMap charSextet)

theorem sextets_lt {bytes : List UInt8} {sextet : ℕ} (member : sextet ∈ sextets bytes) :
    sextet < 64 := by
  fun_induction sextets bytes with
  | case1 first second third rest ih =>
    have one := first.toNat_lt
    have two := second.toNat_lt
    have three := third.toNat_lt
    rcases List.mem_append.mp member with head | later
    · simp only [List.mem_cons, List.not_mem_nil, or_false] at head
      omega
    · exact ih later
  | case2 first second =>
    have one := first.toNat_lt
    have two := second.toNat_lt
    simp only [List.mem_cons, List.not_mem_nil, or_false] at member
    omega
  | case3 first =>
    have one := first.toNat_lt
    simp only [List.mem_cons, List.not_mem_nil, or_false] at member
    omega
  | case4 => simp at member

theorem octets_sextets (bytes : List UInt8) : octets (sextets bytes) = bytes := by
  have byte (b : UInt8) (n : ℕ) (value : n = b.toNat) : UInt8.ofNat n = b := by
    rw [value, UInt8.ofNat_toNat]
  fun_induction sextets bytes with
  | case1 first second third rest ih =>
    have two := second.toNat_lt
    have three := third.toNat_lt
    simp only [List.cons_append, List.nil_append, octets, ih]
    rw [byte first _ (by omega), byte second _ (by omega), byte third _ (by omega)]
  | case2 first second =>
    have two := second.toNat_lt
    simp only [octets]
    rw [byte first _ (by omega), byte second _ (by omega)]
  | case3 first =>
    simp only [octets]
    rw [byte first _ (by omega)]
  | case4 => rfl

/-! ## The characters -/

theorem charSextet_sextetChar {sextet : ℕ} (small : sextet < 64) :
    charSextet (sextetChar sextet) = some sextet := by
  revert sextet
  decide

theorem sextetChar_ascii {sextet : ℕ} (small : sextet < 64) :
    (sextetChar sextet).toNat < 0x80 ∧ sextetChar sextet ≠ 0x3D ∧ sextetChar sextet ≠ 0x2E := by
  revert sextet
  decide

theorem mem_base64url {bytes : List UInt8} {unit : UInt16} (member : unit ∈ base64url bytes) :
    unit.toNat < 0x80 ∧ unit ≠ 0x3D ∧ unit ≠ 0x2E := by
  obtain ⟨sextet, found, rfl⟩ := List.mem_map.mp member
  exact sextetChar_ascii (sextets_lt found)

theorem base64url_ascii (bytes : List UInt8) : IsAscii (base64url bytes) := by
  intro unit member
  exact (mem_base64url member).1

theorem base64url_ne_nil {bytes : List UInt8} (some_ : bytes ≠ []) : base64url bytes ≠ [] := by
  intro empty
  have none_ := List.map_eq_nil_iff.mp empty
  have back := octets_sextets bytes
  rw [none_] at back
  exact some_ back.symm

theorem fromBase64url_base64url (bytes : List UInt8) :
    fromBase64url (base64url bytes) = bytes := by
  have whole : (base64url bytes).takeWhile (fun unit => unit ≠ 0x3D) = base64url bytes := by
    rw [List.takeWhile_eq_self_iff]
    intro unit member
    simpa using (mem_base64url member).2.1
  have back : (base64url bytes).filterMap charSextet = sextets bytes := by
    rw [base64url, List.filterMap_map]
    refine (List.filterMap_congr ?_).trans (List.filterMap_some (l := sextets bytes))
    intro sextet member
    exact charSextet_sextetChar (sextets_lt member)
  rw [fromBase64url, whole, back, octets_sextets]

end Encodings
