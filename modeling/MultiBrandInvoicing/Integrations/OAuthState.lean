import MultiBrandInvoicing.Encodings.Base64Url
import MultiBrandInvoicing.Encodings.MessageTags
import MultiBrandInvoicing.Json.Numbers

/-!
# The state of an OAuth redirect

The `state` parameter carries its own brand id, provider and time of issue as JSON in base64url,
behind which the HMAC of that text stands.  The keyed hash is a parameter; a history in which no
tag is forged accepts a state only for the brand and the provider that it was signed for, and every
state that was signed is accepted within ten minutes.
-/

set_option autoImplicit false

namespace MultiBrandInvoicing.OAuthState

open Encodings Json NumberText

def maxAgeMs : ℤ := 10 * 60 * 1000

inductive OAuthProvider where
  | zoho
  | stripe
  | square
deriving DecidableEq

def OAuthProvider.text : OAuthProvider → String
  | .zoho => "zoho"
  | .stripe => "stripe"
  | .square => "square"

/-- What `Date.now` returns: a whole number of milliseconds in the range of dates. -/
abbrev Clock := { time : ℤ // time.natAbs ≤ 8640000000000000 }

def dot : UInt16 := 0x2E

/-! ## The source -/

def statePayload (brandId : CodeUnits) (provider : OAuthProvider) (iat : Clock) : Value Clock :=
  .object [(ofString "brandId", .string brandId),
    (ofString "provider", .string (ofString provider.text)), (ofString "iat", .number iat)]

def stringify (payload : Value Clock) : CodeUnits :=
  write (fun time : Clock => ofString (numberText time.val)) payload

def encodeState (brandId : CodeUnits) (provider : OAuthProvider) (now : Clock) : CodeUnits :=
  base64url (utf8 (stringify (statePayload brandId provider now)))

/-- The first two parts of a state; a part that is not there is empty here, which the check treats
alike. -/
def stateParts (state : CodeUnits) : CodeUnits × CodeUnits :=
  (((state.splitOn dot)[0]?).getD [], ((state.splitOn dot)[1]?).getD [])

def elapsed (now : Clock) : JsNumber → JsNumber
  | .finite iat => double (now.val - iat)
  | .infinite negative => .infinite (!negative)

def exceeds : JsNumber → ℤ → Bool
  | .finite value, bound => (bound : ℚ) < value
  | .infinite negative, _ => !negative

def isText (value : Option (Value JsNumber)) (text : CodeUnits) : Bool :=
  match value with
  | some (.string found) => found = text
  | _ => false

/-- The checks of a payload whose signature is right.  Reading a field of null throws. -/
def checkPayload (payload : Value JsNumber) (provider : OAuthProvider) (now : Clock) :
    Except String (Option CodeUnits) :=
  match payload with
  | .null => .error "Cannot read properties of null (reading 'brandId')"
  | _ =>
    match payload.get (ofString "brandId"), payload.get (ofString "iat") with
    | some (.string brandId), some (.number iat) =>
      if !isText (payload.get (ofString "provider")) (ofString provider.text) then .ok none
      else if exceeds (elapsed now iat) maxAgeMs then .ok none
      else .ok (some brandId)
    | _, _ => .ok none

section Hmac

variable (hmac : CodeUnits → List UInt8 → Vector UInt8 32)

def signature (secret encoded : CodeUnits) : CodeUnits :=
  base64url (hmac secret (utf8 encoded)).toList

def signOAuthState (brandId : CodeUnits) (provider : OAuthProvider) (secret : CodeUnits)
    (now : Clock) : CodeUnits :=
  let encoded := encodeState brandId provider now
  encoded ++ dot :: signature hmac secret encoded

def verifyOAuthState (state : CodeUnits) (provider : OAuthProvider) (secret : CodeUnits)
    (now : Clock) : Except String (Option CodeUnits) :=
  let encoded := (stateParts state).1
  let presented := (stateParts state).2
  if encoded = [] ∨ presented = [] then .ok none
  else
    let provided := utf8 presented
    let computed := utf8 (signature hmac secret encoded)
    if provided.length ≠ computed.length ∨ provided ≠ computed then .ok none
    else
      match parseJson (fromUtf8 (fromBase64url encoded)) with
      | none => .ok none
      | some payload => checkPayload payload provider now

end Hmac

/-! ## A payload is read back as it was written -/

theorem clockText_eq (time : Clock) :
    ofString (numberText time.val) = ofString (String.ofList (integerText time.val)) := by
  have small : time.val.natAbs < 2 ^ 53 := lt_of_le_of_lt time.property (by decide)
  rw [ofString_inj, ← String.toList_inj, String.toList_ofList, numberText_of_lt small]
  rfl

theorem plain_clock (time : Clock) :
    Plain (ofString (numberText time.val)) (.number (integerNumeral time.val)) := by
  rw [clockText_eq]
  exact plain_integer time.val

def parsedPayload (brandId : CodeUnits) (provider : OAuthProvider) (iat : Clock) : Value JsNumber :=
  .object [(ofString "brandId", .string brandId),
    (ofString "provider", .string (ofString provider.text)),
    (ofString "iat", .number (.finite iat.val))]

theorem parse_encodeState (brandId : CodeUnits) (provider : OAuthProvider) (iat : Clock) :
    parseJson (fromUtf8 (fromBase64url (encodeState brandId provider iat))) =
      some (parsedPayload brandId provider iat) := by
  have small : iat.val.natAbs < 2 ^ 53 := lt_of_le_of_lt iat.property (by decide)
  have wellFormed : WellFormed (stringify (statePayload brandId provider iat)) :=
    wellFormed_write (fun time => wellFormed_ofString _) _
  have reads : read (stringify (statePayload brandId provider iat)) =
      some ((statePayload brandId provider iat).map fun time => integerNumeral time.val) :=
    read_write plain_clock _
  rw [encodeState, fromBase64url_base64url, fromUtf8_utf8 wellFormed, parseJson, reads]
  simp only [statePayload, Value.map, mapMembers, Option.map_some, toNumber_integer,
    double_of_lt small, parsedPayload]

theorem exceeds_elapsed (now iat : Clock) :
    exceeds (elapsed now (.finite iat.val)) maxAgeMs =
      decide (maxAgeMs < now.val - iat.val) := by
  have first := now.property
  have second := iat.property
  have bound := Doubles.natAbs_round_le (now.val - iat.val)
  have log : Nat.log 2 (Doubles.round (now.val - iat.val)).natAbs < 60 :=
    Nat.log_lt_of_lt_pow' (by decide) (by omega)
  have age : double ((now.val : ℚ) - iat.val) = .finite (Doubles.round (now.val - iat.val)) := by
    rw [← Int.cast_sub, double_intCast, if_neg (by omega)]
  have kept := Doubles.lt_round_iff (n := now.val - iat.val) (m := maxAgeMs) (by decide) (by decide)
  rw [elapsed, age, exceeds, decide_eq_decide, Int.cast_lt, kept]

theorem text_injective {first second : OAuthProvider} (same : first.text = second.text) :
    first = second := by
  cases first <;> cases second <;> first | rfl | exact absurd same (by decide)

theorem checkPayload_parsed (brandId : CodeUnits) (issued provider : OAuthProvider)
    (iat now : Clock) : checkPayload (parsedPayload brandId issued iat) provider now =
      .ok (if issued = provider ∧ now.val - iat.val ≤ maxAgeMs then some brandId else none) := by
  have brand : (parsedPayload brandId issued iat).get (ofString "brandId") =
      some (.string brandId) := rfl
  have time : (parsedPayload brandId issued iat).get (ofString "iat") =
      some (.number (.finite iat.val)) := rfl
  have named : (parsedPayload brandId issued iat).get (ofString "provider") =
      some (.string (ofString issued.text)) := rfl
  have matches_ : isText (some (.string (ofString issued.text))) (ofString provider.text) =
      decide (issued = provider) := by
    rw [isText, decide_eq_decide, ofString_inj]
    exact ⟨text_injective, fun same => by rw [same]⟩
  have checked : checkPayload (parsedPayload brandId issued iat) provider now =
      if !isText (some (.string (ofString issued.text))) (ofString provider.text) then .ok none
      else if exceeds (elapsed now (.finite iat.val)) maxAgeMs then .ok none
      else .ok (some brandId) := by
    rw [parsedPayload] at brand time named ⊢
    simp only [checkPayload, brand, time, named]
  rw [checked, matches_, exceeds_elapsed]
  by_cases same : issued = provider
  · by_cases old : maxAgeMs < now.val - iat.val
    · have expired : ¬now.val - iat.val ≤ maxAgeMs := by omega
      simp [same, old, expired]
    · have fresh : now.val - iat.val ≤ maxAgeMs := by omega
      simp [same, old, fresh]
  · simp [same]

/-! ## States that were signed -/

section Hmac

variable (hmac : CodeUnits → List UInt8 → Vector UInt8 32)

theorem dot_notMem (bytes : List UInt8) : dot ∉ base64url bytes := by
  intro member
  exact (mem_base64url member).2.2 rfl

theorem signature_ne_nil (secret encoded : CodeUnits) : signature hmac secret encoded ≠ [] := by
  refine base64url_ne_nil ?_
  intro empty
  have length := congrArg List.length empty
  simp at length

theorem encodeState_ne_nil (brandId : CodeUnits) (provider : OAuthProvider) (now : Clock) :
    encodeState brandId provider now ≠ [] := by
  intro empty
  have parsed := parse_encodeState brandId provider now
  rw [empty] at parsed
  have nothing : parseJson (fromUtf8 (fromBase64url [])) = none := rfl
  rw [nothing] at parsed
  exact absurd parsed (by simp)

theorem stateParts_sign (brandId : CodeUnits) (provider : OAuthProvider) (secret : CodeUnits)
    (now : Clock) : stateParts (signOAuthState hmac brandId provider secret now) =
      (encodeState brandId provider now,
        signature hmac secret (encodeState brandId provider now)) := by
  have first : dot ∉ encodeState brandId provider now := dot_notMem _
  have second : dot ∉ signature hmac secret (encodeState brandId provider now) := dot_notMem _
  have split : (signOAuthState hmac brandId provider secret now).splitOn dot =
      [encodeState brandId provider now,
        signature hmac secret (encodeState brandId provider now)] := by
    rw [signOAuthState, List.splitOn_append_cons_self_of_not_mem first,
      List.splitOn_eq_singleton second]
  rw [stateParts, split]
  rfl

theorem verify_sign (brandId : CodeUnits) (issued provider : OAuthProvider) (secret : CodeUnits)
    (iat now : Clock) :
    verifyOAuthState hmac (signOAuthState hmac brandId issued secret iat) provider secret now =
      .ok (if issued = provider ∧ now.val - iat.val ≤ maxAgeMs then some brandId else none) := by
  rw [verifyOAuthState, stateParts_sign]
  simp only [encodeState_ne_nil, signature_ne_nil, or_self, if_false, ne_eq, not_true_eq_false,
    parse_encodeState, checkPayload_parsed]

theorem verify_sign_other {brandId : CodeUnits} {issued provider : OAuthProvider}
    (secret other : CodeUnits) (iat now : Clock) (apart : issued ≠ provider) :
    verifyOAuthState hmac (signOAuthState hmac brandId issued secret iat) provider other now =
      .ok none := by
  rw [verifyOAuthState, stateParts_sign]
  simp only [encodeState_ne_nil, signature_ne_nil, or_self, if_false, parse_encodeState,
    checkPayload_parsed, apart, false_and]
  split <;> rfl

/-! ## Histories of signing and verifying -/

inductive Step where
  | signed (brandId : CodeUnits) (provider : OAuthProvider) (secret : CodeUnits) (now : Clock)
  | verified (state : CodeUnits) (provider : OAuthProvider) (secret : CodeUnits) (now : Clock)

def stateTag (secret : CodeUnits) (message : List UInt8) : List UInt8 :=
  utf8 (base64url (hmac secret message).toList)

def Step.event : Step → MessageTags.Event CodeUnits (List UInt8) (List UInt8)
  | .signed brandId provider secret now => .tagged secret (utf8 (encodeState brandId provider now))
  | .verified state _ secret _ =>
    .presented secret (utf8 (stateParts state).1) (utf8 (stateParts state).2)

theorem encodeState_ascii (brandId : CodeUnits) (provider : OAuthProvider) (now : Clock) :
    IsAscii (encodeState brandId provider now) := base64url_ascii _

/-- A state is accepted only with the right tag, for what its payload says. -/
theorem verify_accepts {state : CodeUnits} {provider : OAuthProvider} {secret : CodeUnits}
    {now : Clock} {brandId : CodeUnits}
    (accepted : verifyOAuthState hmac state provider secret now = .ok (some brandId)) :
    utf8 (stateParts state).2 = stateTag hmac secret (utf8 (stateParts state).1) ∧
      ∃ payload, parseJson (fromUtf8 (fromBase64url (stateParts state).1)) = some payload ∧
        checkPayload payload provider now = .ok (some brandId) := by
  simp only [verifyOAuthState] at accepted
  split at accepted
  case isTrue missing => simp at accepted
  case isFalse present =>
    split at accepted
    case isTrue wrong => simp at accepted
    case isFalse right =>
      rw [not_or, not_not, not_not] at right
      refine ⟨right.2, ?_⟩
      cases parsed : parseJson (fromUtf8 (fromBase64url (stateParts state).1)) with
      | none =>
        rw [parsed] at accepted
        simp at accepted
      | some payload =>
        rw [parsed] at accepted
        exact ⟨payload, rfl, accepted⟩

/-- Where no tag is forged, what is accepted was signed for the same brand and provider before,
not longer than ten minutes ago. -/
theorem accepted_was_signed {history : List Step}
    (unforgeable : MessageTags.Unforgeable (stateTag hmac) (history.map Step.event))
    {past future : List Step} {state : CodeUnits} {provider : OAuthProvider} {secret : CodeUnits}
    {now : Clock} (split : history = past ++ .verified state provider secret now :: future)
    {brandId : CodeUnits}
    (accepted : verifyOAuthState hmac state provider secret now = .ok (some brandId)) :
    ∃ iat : Clock, .signed brandId provider secret iat ∈ past ∧ now.val - iat.val ≤ maxAgeMs := by
  obtain ⟨tag, payload, parsed, checked⟩ := verify_accepts hmac accepted
  have presents : (Step.verified state provider secret now).event =
      .presented secret (utf8 (stateParts state).1)
        (stateTag hmac secret (utf8 (stateParts state).1)) := by
    rw [Step.event, tag]
  obtain ⟨earlier, member, tagged⟩ := unforgeable.tagged split presents
  cases earlier with
  | verified => simp [Step.event] at tagged
  | signed issuedBrand issued issuer iat =>
    rw [Step.event, MessageTags.Event.tagged.injEq] at tagged
    have encoded := eq_of_utf8_ascii (encodeState_ascii issuedBrand issued iat) tagged.2.symm
    rw [encoded, parse_encodeState, Option.some.injEq] at parsed
    rw [← parsed, checkPayload_parsed, Except.ok.injEq] at checked
    split at checked
    case isTrue fits =>
      obtain ⟨rfl, fresh⟩ := fits
      obtain rfl := Option.some.inj checked
      rw [tagged.1] at member
      exact ⟨iat, member, fresh⟩
    case isFalse => simp at checked

/-- A history in which only states that were signed before are verified has no forged tag. -/
theorem unforgeable_of_signed {history : List Step}
    (honest : ∀ (past future : List Step) (state : CodeUnits) (provider : OAuthProvider)
      (secret : CodeUnits) (now : Clock),
      history = past ++ .verified state provider secret now :: future →
        ∃ (brandId : CodeUnits) (issued : OAuthProvider) (iat : Clock),
          .signed brandId issued secret iat ∈ past ∧
            state = signOAuthState hmac brandId issued secret iat) :
    MessageTags.Unforgeable (stateTag hmac) (history.map Step.event) := by
  refine MessageTags.unforgeable_of_tagged ?_
  intro past future step key message tag split presents
  cases step with
  | signed => simp [Step.event] at presents
  | verified state provider secret now =>
    obtain ⟨brandId, issued, iat, member, rfl⟩ :=
      honest past future state provider secret now split
    rw [Step.event, stateParts_sign, MessageTags.Event.presented.injEq] at presents
    obtain ⟨rfl, rfl, _⟩ := presents
    exact ⟨_, member, rfl⟩

theorem oauthState_authentic {history : List Step}
    (unforgeable : MessageTags.Unforgeable (stateTag hmac) (history.map Step.event)) :
    (∀ (past future : List Step) (state : CodeUnits) (provider : OAuthProvider) (secret : CodeUnits)
      (now : Clock) (brandId : CodeUnits),
      history = past ++ .verified state provider secret now :: future →
        verifyOAuthState hmac state provider secret now = .ok (some brandId) →
          ∃ iat : Clock, .signed brandId provider secret iat ∈ past ∧
            now.val - iat.val ≤ maxAgeMs) ∧
    ∀ (brandId : CodeUnits) (provider : OAuthProvider) (secret : CodeUnits) (iat now : Clock),
      (now.val - iat.val ≤ maxAgeMs →
        verifyOAuthState hmac (signOAuthState hmac brandId provider secret iat) provider secret
          now = .ok (some brandId)) ∧
      ∀ (other : OAuthProvider) (held : CodeUnits), other ≠ provider →
        verifyOAuthState hmac (signOAuthState hmac brandId provider secret iat) other held now =
          .ok none := by
  constructor
  · intro past future state provider secret now brandId split accepted
    exact accepted_was_signed hmac unforgeable split accepted
  · intro brandId provider secret iat now
    constructor
    · intro fresh
      rw [verify_sign, if_pos ⟨rfl, fresh⟩]
    · intro other held apart
      exact verify_sign_other hmac secret held iat now (Ne.symm apart)

end Hmac

def sampleHmac (secret : CodeUnits) (message : List UInt8) : Vector UInt8 32 :=
  Vector.replicate 32 (.ofNat (secret.length + message.length))

def sampleSigned : Step := .signed [0xD800] .zoho [0x73] ⟨1700000000000, by decide⟩

def sampleVerified : Step :=
  .verified (signOAuthState sampleHmac [0xD800] .zoho [0x73] ⟨1700000000000, by decide⟩) .zoho
    [0x73] ⟨1700000600000, by decide⟩

theorem sample_unforgeable :
    MessageTags.Unforgeable (stateTag sampleHmac)
      ([sampleSigned, sampleVerified].map Step.event) := by
  refine unforgeable_of_signed sampleHmac ?_
  intro past future state provider secret now split
  cases past with
  | nil => simp [sampleSigned] at split
  | cons first rest =>
    rw [List.cons_append, List.cons.injEq] at split
    obtain ⟨rfl, split⟩ := split
    cases rest with
    | nil =>
      rw [List.nil_append, List.cons.injEq] at split
      obtain ⟨same, _⟩ := split
      rw [sampleVerified, Step.verified.injEq] at same
      obtain ⟨rfl, _, rfl, _⟩ := same
      exact ⟨_, _, _, List.mem_cons_self, rfl⟩
    | cons second others => simp at split

theorem oauthState_authentic_sample :
    ∃ iat : Clock, .signed [0xD800] .zoho [0x73] iat ∈ [sampleSigned] ∧
      1700000600000 - iat.val ≤ maxAgeMs :=
  (oauthState_authentic sampleHmac sample_unforgeable).1 [sampleSigned] [] _ .zoho [0x73]
    ⟨1700000600000, by decide⟩ [0xD800] rfl
    (((oauthState_authentic sampleHmac sample_unforgeable).2 [0xD800] .zoho [0x73] _ _).1
      (by decide))

end MultiBrandInvoicing.OAuthState
