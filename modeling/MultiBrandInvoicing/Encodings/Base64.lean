import MultiBrandInvoicing.Encodings.Base64Url

/-!
# Bytes in base64

The standard alphabet, with padding to groups of four characters.  The decoder of the other
alphabet knows these characters as well and inverts this encoder too.
-/

set_option autoImplicit false

namespace Encodings

def standardChar (sextet : ℕ) : UInt16 :=
  if sextet = 62 then 0x2B else if sextet = 63 then 0x2F else sextetChar sextet

def padding (length : ℕ) : CodeUnits := List.replicate ((3 - length % 3) % 3) 0x3D

def base64 (bytes : List UInt8) : CodeUnits :=
  (sextets bytes).map standardChar ++ padding bytes.length

example : base64 [0xFB, 0xFF] = [0x2B, 0x2F, 0x38, 0x3D] := by decide

theorem charSextet_standardChar {sextet : ℕ} (small : sextet < 64) :
    charSextet (standardChar sextet) = some sextet := by
  revert sextet
  decide

theorem standardChar_ascii {sextet : ℕ} (small : sextet < 64) :
    (standardChar sextet).toNat < 0x80 ∧ standardChar sextet ≠ 0x3D ∧
      standardChar sextet ≠ 0x3A := by
  revert sextet
  decide

theorem mem_base64 {bytes : List UInt8} {unit : UInt16} (member : unit ∈ base64 bytes) :
    unit.toNat < 0x80 ∧ unit ≠ 0x3A := by
  rcases List.mem_append.mp member with data | padded
  · obtain ⟨sextet, found, rfl⟩ := List.mem_map.mp data
    have char := standardChar_ascii (sextets_lt found)
    exact ⟨char.1, char.2.2⟩
  · rw [List.eq_of_mem_replicate padded]
    decide

theorem takeWhile_base64 (bytes : List UInt8) :
    (base64 bytes).takeWhile (fun unit => unit ≠ 0x3D) = (sextets bytes).map standardChar := by
  have data : ∀ unit ∈ (sextets bytes).map standardChar, decide (unit ≠ 0x3D) = true := by
    intro unit member
    obtain ⟨sextet, found, rfl⟩ := List.mem_map.mp member
    simpa using (standardChar_ascii (sextets_lt found)).2.1
  have stop : (padding bytes.length).takeWhile (fun unit => unit ≠ 0x3D) = [] := by
    unfold padding
    cases (3 - bytes.length % 3) % 3 with
    | zero => rfl
    | succ count => rfl
  rw [base64, List.takeWhile_append_of_pos data, stop, List.append_nil]

theorem fromBase64url_base64 (bytes : List UInt8) : fromBase64url (base64 bytes) = bytes := by
  have back : ((sextets bytes).map standardChar).filterMap charSextet = sextets bytes := by
    rw [List.filterMap_map]
    refine (List.filterMap_congr ?_).trans (List.filterMap_some (l := sextets bytes))
    intro sextet member
    exact charSextet_standardChar (sextets_lt member)
  rw [fromBase64url, takeWhile_base64, back, octets_sextets]

theorem base64_eq_nil {bytes : List UInt8} : base64 bytes = [] ↔ bytes = [] := by
  constructor
  · intro empty
    have back := fromBase64url_base64 bytes
    rw [empty] at back
    exact back.symm
  · intro empty
    rw [empty]
    rfl

end Encodings
