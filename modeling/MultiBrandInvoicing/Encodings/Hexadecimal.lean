import MultiBrandInvoicing.Encodings.Utf8

/-!
# Bytes in hexadecimal

Two digits for each byte, the letters in lower case.
-/

set_option autoImplicit false

namespace Encodings

def hexChar (digit : ℕ) : UInt16 :=
  if digit < 10 then .ofNat (0x30 + digit) else .ofNat (0x61 + (digit - 10))

def hex (bytes : List UInt8) : CodeUnits :=
  bytes.flatMap fun byte => [hexChar (byte.toNat / 16), hexChar (byte.toNat % 16)]

theorem length_hex (bytes : List UInt8) : (hex bytes).length = 2 * bytes.length := by
  induction bytes with
  | nil => rfl
  | cons byte rest ih =>
    rw [hex, List.flatMap_cons, List.length_append, ← hex, ih, List.length_cons]
    simp only [List.length_cons, List.length_nil]
    omega

end Encodings
