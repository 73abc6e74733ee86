import MultiBrandInvoicing.Encodings.Hexadecimal
import MultiBrandInvoicing.Integrations.OAuthState
import MultiBrandInvoicing.Json.StringNumbers

/-!
# Signed URLs

`storageKeys` of `packages/shared/src/ports/storage.port.ts`, the signatures of
`apps/api/src/adapters/storage/local-disk.adapter.ts` and the checks of
`apps/api/src/adapters/storage/storage.controller.ts`: a URL carries a key, the second it expires
at and the HMAC of the two.  Until that second it is admitted, whichever way its parameters were
put into the address.
-/

set_option autoImplicit false

namespace MultiBrandInvoicing.SignedUrls

open Encodings Json NumberText OAuthState

/-! ## Keys -/

inductive CheckSide where
  | front
  | back
deriving DecidableEq

def CheckSide.text : CheckSide → String
  | .front => "front"
  | .back => "back"

/-- `storageKeys`: what an object is kept as. -/
inductive StorageKey where
  | invoicePdf (brandId invoiceId contentVersion : CodeUnits)
  | receiptPdf (brandId paymentId : CodeUnits)
  | brandLogo (brandId filename : CodeUnits)
  | merchantLogo (merchantId filename : CodeUnits)
  | checkImage (brandId submissionId : CodeUnits) (side : CheckSide)
  | invoiceAttachment (brandId invoiceId filename : CodeUnits)
deriving DecidableEq

def StorageKey.text : StorageKey → CodeUnits
  | .invoicePdf brandId invoiceId contentVersion =>
    ofString "brands/" ++ (brandId ++ ofString "/invoices/" ++ invoiceId ++
      ofString "/invoice-" ++ contentVersion ++ ofString ".pdf")
  | .receiptPdf brandId paymentId =>
    ofString "brands/" ++ (brandId ++ ofString "/receipts/" ++ paymentId ++ ofString ".pdf")
  | .brandLogo brandId filename =>
    ofString "brands/" ++ (brandId ++ ofString "/logo/" ++ filename)
  | .merchantLogo merchantId filename =>
    ofString "merchants/" ++ (merchantId ++ ofString "/logo/" ++ filename)
  | .checkImage brandId submissionId side =>
    ofString "brands/" ++ (brandId ++ ofString "/checks/" ++ submissionId ++ ofString "-" ++
      ofString side.text)
  | .invoiceAttachment brandId invoiceId filename =>
    ofString "brands/" ++ (brandId ++ ofString "/invoices/" ++ invoiceId ++
      ofString "/attachments/" ++ filename)

theorem StorageKey.text_root (key : StorageKey) :
    ∃ rest, key.text = ofString "brands/" ++ rest ∨ key.text = ofString "merchants/" ++ rest := by
  cases key with
  | merchantLogo => exact ⟨_, .inr rfl⟩
  | _ => exact ⟨_, .inl rfl⟩

/-! ## Signatures -/

def floorSeconds (now : Clock) : ℤ := ⌊Doubles.nearest ((now.val : ℚ) / 1000)⌋

/-- The callers pass a constant number of seconds. -/
structure SignedUrlOptions where
  expiresInSeconds : ℕ
  downloadFilename : Option CodeUnits
  small : expiresInSeconds < 2 ^ 32

def expiresAt (options : SignedUrlOptions) (now : Clock) : ℤ :=
  floorSeconds now + options.expiresInSeconds

def colon : UInt16 := 0x3A

/-- What is signed of a key and a number of seconds. -/
def signedText (key : CodeUnits) (expiresAtSeconds : JsNumber) : CodeUnits :=
  key ++ colon :: ofString (numberToString expiresAtSeconds)

def before (expiresAtSeconds : JsNumber) (seconds : ℤ) : Bool :=
  match expiresAtSeconds with
  | .finite value => value < seconds
  | .infinite negative => negative

structure SignedUrl where
  key : CodeUnits
  expires : CodeUnits
  signature : CodeUnits
  filename : Option CodeUnits

/-- `URLSearchParams` takes the bytes of a parameter, and the route gets what they stand for. -/
def carried (parameter : CodeUnits) : CodeUnits := fromUtf8 (utf8 parameter)

section Hmac

variable (hmac : CodeUnits → List UInt8 → Vector UInt8 32)

def sign (secret key : CodeUnits) (expiresAtSeconds : JsNumber) : CodeUnits :=
  hex (hmac secret (utf8 (signedText key expiresAtSeconds))).toList

/-- `NaN`, which nothing stands for here, is refused first. -/
def verify (secret key : CodeUnits) (expiresAtSeconds : Option JsNumber) (signature : CodeUnits)
    (now : Clock) : Bool :=
  match expiresAtSeconds with
  | none => false
  | some seconds =>
    if before seconds (floorSeconds now) then false
    else
      let expected := utf8 (sign hmac secret key seconds)
      let provided := utf8 signature
      expected.length = provided.length && expected = provided

/-- An empty filename is not set. -/
def getSignedUrl (secret : CodeUnits) (key : StorageKey) (options : SignedUrlOptions)
    (now : Clock) : SignedUrl where
  key := carried key.text
  expires := ofString (numberToString (.finite (expiresAt options now)))
  signature := sign hmac secret key.text (.finite (expiresAt options now))
  filename := (options.downloadFilename.filter fun filename => filename ≠ []).map carried

inductive StorageDriver where
  | local_
  | s3
deriving DecidableEq

/-- The checks of `serve` before the object is looked up; a parameter that is not there is empty
here. -/
def admits (driver : StorageDriver) (secret : CodeUnits) (url : SignedUrl) (now : Clock) : Bool :=
  if driver ≠ .local_ then false
  else if url.key = [] ∨ url.expires = [] ∨ url.signature = [] then false
  else verify hmac secret url.key (numberOf url.expires) url.signature now

end Hmac

/-! ## The seconds of a URL -/

theorem abs_floorSeconds (now : Clock) : (floorSeconds now).natAbs ≤ 2 * 8640000000000 + 1 := by
  have bound := Doubles.abs_nearest_le ((now.val : ℚ) / 1000)
  have range := now.property
  have clock : |(now.val : ℚ)| ≤ 8640000000000000 := by
    rw [← Int.cast_abs, ← Int.natCast_natAbs]
    exact_mod_cast range
  have divided : |(now.val : ℚ) / 1000| ≤ 8640000000000 := by
    rw [abs_div]
    have thousand : |(1000 : ℚ)| = 1000 := abs_of_pos (by norm_num)
    rw [thousand]
    linarith
  obtain ⟨lower, upper⟩ := abs_le.mp bound
  have high : floorSeconds now < 2 * 8640000000000 + 1 := by
    rw [floorSeconds, Int.floor_lt]
    push_cast
    linarith
  have low : -(2 * 8640000000000) ≤ floorSeconds now := by
    rw [floorSeconds, Int.le_floor]
    push_cast
    linarith
  omega

theorem abs_expiresAt (options : SignedUrlOptions) (now : Clock) :
    (expiresAt options now).natAbs < 2 ^ 53 := by
  have seconds := abs_floorSeconds now
  have small := options.small
  unfold expiresAt
  omega

theorem numberToString_expiresAt (options : SignedUrlOptions) (now : Clock) :
    numberToString (.finite (expiresAt options now)) = numberText (expiresAt options now) := by
  have whole : ((expiresAt options now : ℤ) : ℚ).den = 1 := Rat.den_intCast _
  rw [numberToString, if_pos whole, Rat.num_intCast]

theorem numberOf_expiresAt (options : SignedUrlOptions) (now : Clock) :
    numberOf (ofString (numberToString (.finite (expiresAt options now)))) =
      some (.finite (expiresAt options now)) := by
  rw [numberToString_expiresAt, numberOf_numberText (abs_expiresAt options now)]

/-! ## URLs that were signed are admitted -/

theorem utf8_signedText (key : CodeUnits) (seconds : JsNumber) :
    utf8 (signedText key seconds) =
      utf8 key ++ utf8 (colon :: ofString (numberToString seconds)) :=
  utf8_append_cons (by decide) _ _

theorem last_mark {α : Type} {mark : α} {front other back rest : List α} (first : mark ∉ back)
    (second : mark ∉ rest) (same : front ++ mark :: back = other ++ mark :: rest) :
    front = other ∧ back = rest := by
  have none_further (more : List α) {tail last : List α} (free : mark ∉ tail)
      (equal : mark :: tail = more ++ mark :: last) : more = [] ∧ tail = last := by
    cases more with
    | nil => exact ⟨rfl, (List.cons.inj equal).2⟩
    | cons head more =>
      rw [List.cons_append, List.cons.injEq] at equal
      rw [equal.2] at free
      exact absurd (List.mem_append_right more List.mem_cons_self) free
  rcases List.append_eq_append_iff.mp same with ⟨more, longer, equal⟩ | ⟨more, longer, equal⟩
  · obtain ⟨rfl, tails⟩ := none_further more first equal
    exact ⟨by rw [longer, List.append_nil], tails⟩
  · obtain ⟨rfl, tails⟩ := none_further more second equal
    exact ⟨by rw [longer, List.append_nil], tails.symm⟩

/-- What is signed has the bytes of one key and one number only. -/
theorem signedText_inj {key other : CodeUnits} {seconds : JsNumber} {expires : ℤ}
    (small : expires.natAbs < 2 ^ 53)
    (same : utf8 (signedText key (.finite expires)) = utf8 (signedText other seconds)) :
    utf8 key = utf8 other ∧ seconds = .finite expires := by
  have ascii (number : JsNumber) : IsAscii (ofString (numberToString number)) := fun unit member =>
    (mem_numberToString member).1
  have bytes (number : JsNumber) : utf8 (colon :: ofString (numberToString number)) =
      0x3A :: (ofString (numberToString number)).map fun unit => .ofNat unit.toNat := by
    rw [utf8_ascii ((ascii number).cons (by decide))]
    rfl
  have noColon (number : JsNumber) : (0x3A : UInt8) ∉
      (ofString (numberToString number)).map fun unit => UInt8.ofNat unit.toNat := by
    intro member
    obtain ⟨unit, found, equal⟩ := List.mem_map.mp member
    have bounds := mem_numberToString found
    have value := congrArg UInt8.toNat equal
    rw [byte_toNat (by omega)] at value
    exact bounds.2 value
  rw [utf8_signedText, utf8_signedText, bytes, bytes] at same
  obtain ⟨keys, numbers⟩ := last_mark (noColon _) (noColon _) same
  have texts : ofString (numberToString seconds) =
      ofString (numberToString (.finite expires)) := by
    refine eq_of_utf8_ascii (ascii _) ?_
    rw [utf8_ascii (ascii _), utf8_ascii (ascii _), numbers]
  have whole : ((expires : ℤ) : ℚ).den = 1 := Rat.den_intCast _
  rw [ofString_inj, numberToString, if_pos whole, Rat.num_intCast] at texts
  exact ⟨keys, eq_of_numberToString small texts⟩

theorem sign_carried (hmac : CodeUnits → List UInt8 → Vector UInt8 32) (secret key : CodeUnits)
    (seconds : JsNumber) : sign hmac secret (carried key) seconds = sign hmac secret key seconds := by
  rw [sign, sign, utf8_signedText, utf8_signedText, carried, utf8_fromUtf8_utf8]

theorem signature_ne_nil (hmac : CodeUnits → List UInt8 → Vector UInt8 32)
    (secret key : CodeUnits) (seconds : JsNumber) : sign hmac secret key seconds ≠ [] := by
  intro empty
  have length := congrArg List.length empty
  rw [sign, length_hex, Vector.length_toList] at length
  simp at length

theorem carried_ne_nil (key : StorageKey) : carried key.text ≠ [] := by
  intro empty
  have bytes := utf8_fromUtf8_utf8 key.text
  rw [← carried, empty] at bytes
  have nothing : key.text = [] := eq_of_utf8_ascii isAscii_nil bytes.symm
  obtain ⟨rest, root | root⟩ := key.text_root
  · rw [root] at nothing
    exact absurd (List.append_eq_nil_iff.mp nothing).1 (by decide)
  · rw [root] at nothing
    exact absurd (List.append_eq_nil_iff.mp nothing).1 (by decide)

/-- A URL is admitted up to the second it expires at, and not after it. -/
theorem admits_getSignedUrl (hmac : CodeUnits → List UInt8 → Vector UInt8 32) (secret : CodeUnits)
    (key : StorageKey) (options : SignedUrlOptions) (iat now : Clock) :
    admits hmac .local_ secret (getSignedUrl hmac secret key options iat) now =
      decide (floorSeconds now ≤ expiresAt options iat) := by
  have seconds : ofString (numberToString (.finite (expiresAt options iat))) ≠ [] := by
    obtain ⟨digits, text, _, some_, _⟩ := ofString_numberText (abs_expiresAt options iat)
    rw [numberToString_expiresAt, text]
    simp [some_]
  have present : ¬((getSignedUrl hmac secret key options iat).key = [] ∨
      (getSignedUrl hmac secret key options iat).expires = [] ∨
      (getSignedUrl hmac secret key options iat).signature = []) := by
    rw [not_or, not_or]
    exact ⟨carried_ne_nil key, seconds, signature_ne_nil hmac _ _ _⟩
  have late : before (.finite (expiresAt options iat)) (floorSeconds now) =
      decide (expiresAt options iat < floorSeconds now) := by
    rw [before, decide_eq_decide, Int.cast_lt]
  rw [admits, if_neg (by decide), if_neg present]
  simp only [getSignedUrl, numberOf_expiresAt, verify, late, sign_carried, decide_true,
    Bool.and_self]
  by_cases expired : expiresAt options iat < floorSeconds now
  · rw [if_pos (decide_eq_true expired), decide_eq_false (by omega)]
  · rw [if_neg (by simpa using expired), decide_eq_true (by omega)]

theorem admits_elim {hmac : CodeUnits → List UInt8 → Vector UInt8 32} {driver : StorageDriver}
    {secret : CodeUnits} {url : SignedUrl} {now : Clock}
    (admitted : admits hmac driver secret url now = true) :
    ∃ seconds, numberOf url.expires = some seconds ∧
      before seconds (floorSeconds now) = false ∧
        utf8 url.signature = utf8 (sign hmac secret url.key seconds) := by
  unfold admits at admitted
  split at admitted
  case isTrue other => simp at admitted
  case isFalse local_ =>
    split at admitted
    case isTrue missing => simp at admitted
    case isFalse present =>
      unfold verify at admitted
      split at admitted
      case h_1 nan => simp at admitted
      case h_2 seconds read =>
        split at admitted
        case isTrue over_ => simp at admitted
        case isFalse fresh =>
          rw [Bool.and_eq_true, decide_eq_true_eq, decide_eq_true_eq] at admitted
          exact ⟨seconds, read, Bool.not_eq_true _ ▸ fresh, admitted.2.symm⟩

end MultiBrandInvoicing.SignedUrls
