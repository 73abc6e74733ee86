import MultiBrandInvoicing.Storage.SignedUrls

/-!
# What is signed with the session secret

`apps/api/src/integrations/zoho-webhook-token.ts`, and the three protocols that tag messages under
one secret: states of OAuth redirects, URLs of stored objects and, where no secret of its own is
set, tokens of webhooks.  A tag of one of them is accepted by no other, so that each accepts only
what it signed itself.
-/

set_option autoImplicit false

namespace MultiBrandInvoicing.SecretUses

open Encodings Json OAuthState SignedUrls MessageTags

/-! ## Webhook tokens -/

/-- The secrets of a deployment; one that is not set is empty here. -/
structure Env where
  sessionSecret : CodeUnits
  zohoWebhookSecret : CodeUnits
deriving DecidableEq

/-- `env.ZOHO_WEBHOOK_SECRET || env.SESSION_SECRET`. -/
def Env.tokenKey (env : Env) : CodeUnits :=
  if env.zohoWebhookSecret = [] then env.sessionSecret else env.zohoWebhookSecret

def webhookText (organizationId : CodeUnits) : CodeUnits :=
  ofString "zoho-webhook:" ++ organizationId

def safeEqual (first second : CodeUnits) : Bool :=
  (utf8 first).length = (utf8 second).length && utf8 first = utf8 second

section Hmac

variable (hmac : CodeUnits → List UInt8 → Vector UInt8 32)

def zohoWebhookToken (env : Env) (organizationId : CodeUnits) : CodeUnits :=
  (hex (hmac env.tokenKey (utf8 (webhookText organizationId))).toList).take 40

/-- A token that is not there is empty here. -/
def isValidZohoWebhookToken (env : Env) (organizationId token : CodeUnits) : Bool :=
  if token = [] then false
  else if safeEqual token (zohoWebhookToken hmac env organizationId) then true
  else decide (env.zohoWebhookSecret ≠ []) && safeEqual token env.zohoWebhookSecret

end Hmac

theorem safeEqual_iff {first second : CodeUnits} :
    safeEqual first second = true ↔ utf8 first = utf8 second := by
  rw [safeEqual, Bool.and_eq_true, decide_eq_true_eq, decide_eq_true_eq]
  constructor
  · intro both
    exact both.2
  · intro same
    exact ⟨by rw [same], same⟩

/-! ## The forms of a tag -/

inductive TagForm where
  | base64url
  | hex
  | hex40
deriving DecidableEq

/-- The first forty digits do not give the others away. -/
def reveals (known form : TagForm) : Prop := known ≠ .hex40 ∨ form = .hex40

def TagForm.text (form : TagForm) (digest : List UInt8) : CodeUnits :=
  match form with
  | .base64url => Encodings.base64url digest
  | .hex => Encodings.hex digest
  | .hex40 => (Encodings.hex digest).take 40

def tagIn (hmac : CodeUnits → List UInt8 → Vector UInt8 32) (form : TagForm) (secret : CodeUnits)
    (message : List UInt8) : List UInt8 :=
  utf8 (form.text (hmac secret message).toList)

/-! ## Histories of all three -/

inductive Step where
  | stateSigned (brandId : CodeUnits) (provider : OAuthProvider) (secret : CodeUnits) (now : Clock)
  | stateVerified (state : CodeUnits) (provider : OAuthProvider) (secret : CodeUnits) (now : Clock)
  | urlSigned (key : StorageKey) (options : SignedUrlOptions) (secret : CodeUnits) (now : Clock)
  | urlOpened (url : SignedUrl) (driver : StorageDriver) (secret : CodeUnits) (now : Clock)
  | tokenShown (env : Env) (organizationId : CodeUnits)
  | tokenReceived (env : Env) (organizationId token : CodeUnits)

def urlText (url : SignedUrl) : CodeUnits :=
  match numberOf url.expires with
  | some seconds => signedText url.key seconds
  | none => url.key ++ colon :: ofString "NaN"

def Step.event : Step → FormEvent TagForm CodeUnits (List UInt8) (List UInt8)
  | .stateSigned brandId provider secret now =>
    .tagged .base64url secret (utf8 (encodeState brandId provider now))
  | .stateVerified state _ secret _ =>
    .presented .base64url secret (utf8 (stateParts state).1) (utf8 (stateParts state).2)
  | .urlSigned key options secret now =>
    .tagged .hex secret (utf8 (signedText key.text (.finite (expiresAt options now))))
  | .urlOpened url _ secret _ =>
    .presented .hex secret (utf8 (urlText url)) (utf8 url.signature)
  | .tokenShown env organizationId =>
    .tagged .hex40 env.tokenKey (utf8 (webhookText organizationId))
  | .tokenReceived env organizationId token =>
    .presented .hex40 env.tokenKey (utf8 (webhookText organizationId)) (utf8 token)

/-! ## The messages of different protocols differ -/

theorem colon_notMem_base64url (bytes : List UInt8) : colon ∉ base64url bytes := by
  intro member
  obtain ⟨sextet, found, same⟩ := List.mem_map.mp member
  have char : ∀ sextet < 64, sextetChar sextet ≠ colon := by decide
  exact char sextet (sextets_lt found) same

theorem state_ne_colon {brandId : CodeUnits} {provider : OAuthProvider} {now : Clock}
    {text : CodeUnits} (member : colon ∈ text) :
    utf8 text ≠ utf8 (encodeState brandId provider now) := by
  intro same
  rw [eq_of_utf8_ascii (encodeState_ascii brandId provider now) same] at member
  exact colon_notMem_base64url _ member

theorem isAscii_ofString {text : String}
    (ascii : (ofString text).all (fun unit => decide (unit.toNat < 0x80)) = true) :
    IsAscii (ofString text) := by
  intro unit member
  exact of_decide_eq_true (List.all_eq_true.mp ascii unit member)

theorem url_root {key : StorageKey} {seconds : JsNumber} {text : CodeUnits}
    (same : utf8 text = utf8 (signedText key.text seconds)) :
    ∃ rest, text = ofString "brands/" ++ rest ∨ text = ofString "merchants/" ++ rest := by
  obtain ⟨rest, root | root⟩ := key.text_root
  · rw [root, signedText, List.append_assoc] at same
    obtain ⟨later, split, _⟩ := append_of_utf8 (isAscii_ofString (by decide)) same
    exact ⟨later, .inl split⟩
  · rw [root, signedText, List.append_assoc] at same
    obtain ⟨later, split, _⟩ := append_of_utf8 (isAscii_ofString (by decide)) same
    exact ⟨later, .inr split⟩

theorem url_ne_webhook {key : StorageKey} {seconds : JsNumber} {organizationId : CodeUnits} :
    utf8 (webhookText organizationId) ≠ utf8 (signedText key.text seconds) := by
  intro same
  obtain ⟨rest, root | root⟩ := url_root same
  · have first : (some 0x7A : Option UInt16) = some 0x62 := congrArg List.head? root
    exact absurd first (by decide)
  · have first : (some 0x7A : Option UInt16) = some 0x6D := congrArg List.head? root
    exact absurd first (by decide)

/-! ## What is signed for a URL is no payload of a state -/

theorem readPlain_letter {first : UInt16} {rest : CodeUnits} (notDigit : isDigit first = false)
    (notMinus : first ≠ minus) (notNull : first :: rest ≠ ofString "null")
    (notTrue : first ≠ 0x74) (notFalse : first ≠ 0x66) : readPlain (first :: rest) = none := by
  have words (word : String) (letter : UInt16) (head : (ofString word).head? = some letter)
      (differs : first ≠ letter) : first :: rest ≠ ofString word := by
    intro same
    rw [← same, List.head?_cons, Option.some.injEq] at head
    exact differs head
  have numeral : readNumeral (first :: rest) = none := by
    simp [readNumeral, notMinus, notDigit]
  rw [readPlain, if_neg notNull, if_neg (words "true" 0x74 (by decide) notTrue),
    if_neg (words "false" 0x66 (by decide) notFalse), numeral, Option.map_none]

theorem lex_cons_none {mode : Mode} {unit : UInt16} {rest : CodeUnits} {step : Mode × List Lexeme}
    (next : lexStep mode unit = some step) (stuck : lex step.1 rest = none) :
    lex mode (unit :: rest) = none := by
  rw [lex, next, Option.bind_eq_bind, Option.bind_some, stuck]
  rfl

/-- A plain run that is no word and no number however it goes on. -/
theorem lex_plain_none {seen : CodeUnits}
    (stuck : ∀ tail, readPlain (seen.reverse ++ tail) = none) (rest : CodeUnits) :
    lex (.plain seen) rest = none := by
  induction rest generalizing seen with
  | nil =>
    have here := stuck []
    rw [List.append_nil] at here
    rw [lex, lexEnd, here, Option.map_none]
  | cons unit rest ih =>
    by_cases delimiter : delimits unit = true
    · have here := stuck []
      rw [List.append_nil] at here
      rw [lex, lexStep, if_pos delimiter, here, Option.map_none, Option.bind_eq_bind,
        Option.bind_none]
    · have next : lexStep (.plain seen) unit = some (.plain (unit :: seen), []) := by
        rw [lexStep, if_neg delimiter]
      refine lex_cons_none next (ih ?_)
      intro tail
      rw [List.reverse_cons, List.append_assoc]
      exact stuck _

theorem parseJson_of_lex {text : CodeUnits} (stuck : lex .between text = none) :
    parseJson text = none := by
  rw [parseJson, Json.read, stuck]
  rfl

theorem brands_no_payload (rest : CodeUnits) :
    parseJson (fromUtf8 (fromBase64url (ofString "brands/" ++ rest))) = none := by
  have letters : ofString "brands/" = [0x62, 0x72, 0x61, 0x6E, 0x64, 0x73, 0x2F] := by decide
  obtain ⟨bytes, decoded⟩ :
      ∃ bytes, fromBase64url (ofString "brands/" ++ rest) = 0x6E :: 0xB6 :: bytes := by
    rw [letters]
    exact ⟨_, rfl⟩
  obtain ⟨units, text⟩ : ∃ units, fromUtf8 (0x6E :: 0xB6 :: bytes) = 0x6E :: 0xFFFD :: units :=
    ⟨_, rfl⟩
  rw [decoded, text]
  refine parseJson_of_lex ?_
  have stuck : lex (.plain [0xFFFD, 0x6E]) units = none := by
    refine lex_plain_none ?_ units
    intro tail
    refine readPlain_letter (by decide) (by decide) ?_ (by decide) (by decide)
    intro same
    have second : (some 0xFFFD : Option UInt16) = some 0x75 := congrArg (fun text => text[1]?) same
    exact absurd second (by decide)
  have first : lexStep .between 0x6E = some (.plain [0x6E], []) := rfl
  have second : lexStep (.plain [0x6E]) 0xFFFD = some (.plain [0xFFFD, 0x6E], []) := rfl
  exact lex_cons_none first (lex_cons_none second stuck)

theorem merchants_no_payload (rest : CodeUnits) :
    parseJson (fromUtf8 (fromBase64url (ofString "merchants/" ++ rest))) = none := by
  have letters : ofString "merchants/" =
      [0x6D, 0x65, 0x72, 0x63, 0x68, 0x61, 0x6E, 0x74, 0x73, 0x2F] := by decide
  obtain ⟨bytes, decoded⟩ :
      ∃ bytes, fromBase64url (ofString "merchants/" ++ rest) = 0x99 :: bytes := by
    rw [letters]
    exact ⟨_, rfl⟩
  obtain ⟨units, text⟩ : ∃ units, fromUtf8 (0x99 :: bytes) = 0xFFFD :: units := ⟨_, rfl⟩
  rw [decoded, text]
  refine parseJson_of_lex ?_
  have stuck : lex (.plain [0xFFFD]) units = none := by
    refine lex_plain_none ?_ units
    intro tail
    refine readPlain_letter (by decide) (by decide) ?_ (by decide) (by decide)
    intro same
    have head : (some 0xFFFD : Option UInt16) = some 0x6E := congrArg List.head? same
    exact absurd head (by decide)
  have first : lexStep .between 0xFFFD = some (.plain [0xFFFD], []) := rfl
  exact lex_cons_none first stuck

theorem url_no_payload {key : StorageKey} {seconds : JsNumber} {text : CodeUnits}
    (same : utf8 text = utf8 (signedText key.text seconds)) :
    parseJson (fromUtf8 (fromBase64url text)) = none := by
  obtain ⟨rest, rfl | rfl⟩ := url_root same
  · exact brands_no_payload rest
  · exact merchants_no_payload rest

/-! ## Each protocol accepts what it signed -/

section Hmac

variable {hmac : CodeUnits → List UInt8 → Vector UInt8 32} {history past future : List Step}

/-- A state that is accepted was signed as one, whatever else was signed with the secret. -/
theorem state_was_signed
    (unforgeable : UnforgeableIn reveals (tagIn hmac) (history.map Step.event))
    {state : CodeUnits} {provider : OAuthProvider} {secret : CodeUnits} {now : Clock}
    (split : history = past ++ .stateVerified state provider secret now :: future)
    {brandId : CodeUnits}
    (accepted : verifyOAuthState hmac state provider secret now = .ok (some brandId)) :
    ∃ iat : Clock, .stateSigned brandId provider secret iat ∈ past ∧
      now.val - iat.val ≤ maxAgeMs := by
  obtain ⟨tag, payload, parsed, checked⟩ := verify_accepts hmac accepted
  have presents : (Step.stateVerified state provider secret now).event =
      .presented .base64url secret (utf8 (stateParts state).1)
        (tagIn hmac .base64url secret (utf8 (stateParts state).1)) := by
    rw [Step.event, tag]
    rfl
  obtain ⟨known, full, earlier, member, tagged⟩ := unforgeable.tagged split presents
  cases earlier with
  | stateSigned issuedBrand issued issuer iat =>
    rw [Step.event, FormEvent.tagged.injEq] at tagged
    obtain ⟨_, rfl, message⟩ := tagged
    have encoded := eq_of_utf8_ascii (encodeState_ascii issuedBrand issued iat) message.symm
    rw [encoded, parse_encodeState, Option.some.injEq] at parsed
    rw [← parsed, checkPayload_parsed, Except.ok.injEq] at checked
    split at checked
    case isTrue fits =>
      obtain ⟨rfl, fresh⟩ := fits
      obtain rfl := Option.some.inj checked
      exact ⟨iat, member, fresh⟩
    case isFalse => simp at checked
  | urlSigned key options issuer iat =>
    rw [Step.event, FormEvent.tagged.injEq] at tagged
    rw [url_no_payload tagged.2.2.symm] at parsed
    simp at parsed
  | tokenShown env organizationId =>
    rw [Step.event, FormEvent.tagged.injEq] at tagged
    rcases full with other | short
    · exact absurd tagged.1.symm other
    · simp at short
  | _ => simp [Step.event] at tagged

/-- A URL that is admitted was made for the bytes of its key, and has not expired. -/
theorem url_was_signed
    (unforgeable : UnforgeableIn reveals (tagIn hmac) (history.map Step.event))
    {url : SignedUrl} {driver : StorageDriver} {secret : CodeUnits} {now : Clock}
    (split : history = past ++ .urlOpened url driver secret now :: future)
    (admitted : admits hmac driver secret url now = true) :
    ∃ (key : StorageKey) (options : SignedUrlOptions) (iat : Clock),
      .urlSigned key options secret iat ∈ past ∧ utf8 url.key = utf8 key.text ∧
        floorSeconds now ≤ expiresAt options iat := by
  obtain ⟨seconds, read, fresh, tag⟩ := admits_elim admitted
  have text : urlText url = signedText url.key seconds := by rw [urlText, read]
  have presents : (Step.urlOpened url driver secret now).event =
      .presented .hex secret (utf8 (signedText url.key seconds))
        (tagIn hmac .hex secret (utf8 (signedText url.key seconds))) := by
    rw [Step.event, tag, text]
    rfl
  obtain ⟨known, full, earlier, member, tagged⟩ := unforgeable.tagged split presents
  cases earlier with
  | stateSigned issuedBrand issued issuer iat =>
    rw [Step.event, FormEvent.tagged.injEq] at tagged
    have colons : colon ∈ signedText url.key seconds := by simp [signedText]
    exact absurd tagged.2.2.symm (state_ne_colon colons)
  | urlSigned key options issuer iat =>
    rw [Step.event, FormEvent.tagged.injEq] at tagged
    obtain ⟨_, rfl, message⟩ := tagged
    obtain ⟨sameKey, rfl⟩ := signedText_inj (abs_expiresAt options iat) message
    rw [before, decide_eq_false_iff_not, Int.cast_lt, not_lt] at fresh
    exact ⟨key, options, iat, member, sameKey.symm, fresh⟩
  | tokenShown env organizationId =>
    rw [Step.event, FormEvent.tagged.injEq] at tagged
    rcases full with other | short
    · exact absurd tagged.1.symm other
    · simp at short
  | _ => simp [Step.event] at tagged

/-- A token that is valid for an organization is the shared one or was shown for it. -/
theorem token_was_shown
    (unforgeable : UnforgeableIn reveals (tagIn hmac) (history.map Step.event))
    {env : Env} {organizationId token : CodeUnits}
    (split : history = past ++ .tokenReceived env organizationId token :: future)
    (valid : isValidZohoWebhookToken hmac env organizationId token = true) :
    env.zohoWebhookSecret ≠ [] ∧ utf8 token = utf8 env.zohoWebhookSecret ∨
      ∃ (shownIn : Env) (shown : CodeUnits), .tokenShown shownIn shown ∈ past ∧
        shownIn.tokenKey = env.tokenKey ∧ utf8 shown = utf8 organizationId := by
  unfold isValidZohoWebhookToken at valid
  split_ifs at valid with missing own
  · right
    have presents : (Step.tokenReceived env organizationId token).event =
        .presented .hex40 env.tokenKey (utf8 (webhookText organizationId))
          (tagIn hmac .hex40 env.tokenKey (utf8 (webhookText organizationId))) := by
      rw [Step.event, safeEqual_iff.mp own]
      rfl
    obtain ⟨known, full, earlier, member, tagged⟩ := unforgeable.tagged split presents
    cases earlier with
    | stateSigned issuedBrand issued issuer iat =>
      rw [Step.event, FormEvent.tagged.injEq] at tagged
      have colons : colon ∈ webhookText organizationId :=
        List.mem_append_left _ (by decide)
      exact absurd tagged.2.2.symm (state_ne_colon colons)
    | urlSigned key options issuer iat =>
      rw [Step.event, FormEvent.tagged.injEq] at tagged
      exact absurd tagged.2.2.symm url_ne_webhook
    | tokenShown shownIn shown =>
      rw [Step.event, FormEvent.tagged.injEq] at tagged
      obtain ⟨_, sameKey, message⟩ := tagged
      refine ⟨shownIn, shown, member, sameKey, ?_⟩
      rw [webhookText, webhookText, utf8_ascii_append (isAscii_ofString (by decide)),
        utf8_ascii_append (isAscii_ofString (by decide)), List.append_cancel_left_eq] at message
      exact message
    | _ => simp [Step.event] at tagged
  · left
    rw [Bool.and_eq_true, decide_eq_true_eq, safeEqual_iff] at valid
    exact valid

theorem isValid_shown (env : Env) (organizationId : CodeUnits) :
    isValidZohoWebhookToken hmac env organizationId
      (zohoWebhookToken hmac env organizationId) = true := by
  have some_ : zohoWebhookToken hmac env organizationId ≠ [] := by
    intro empty
    have length := congrArg List.length empty
    rw [zohoWebhookToken, List.length_take, length_hex, Vector.length_toList] at length
    exact absurd length (by decide)
  rw [isValidZohoWebhookToken, if_neg some_, if_pos (safeEqual_iff.mpr rfl)]

/-- Where no tag is forged, each of the protocols accepts what it signed itself, as long as that is
fresh, and nothing that another one signed under the same secret. -/
theorem secretUses_separate
    (unforgeable : UnforgeableIn reveals (tagIn hmac) (history.map Step.event)) :
    (∀ (past future : List Step) (state : CodeUnits) (provider : OAuthProvider) (secret : CodeUnits)
      (now : Clock) (brandId : CodeUnits),
      history = past ++ .stateVerified state provider secret now :: future →
        verifyOAuthState hmac state provider secret now = .ok (some brandId) →
          ∃ iat : Clock, .stateSigned brandId provider secret iat ∈ past ∧
            now.val - iat.val ≤ maxAgeMs) ∧
    (∀ (past future : List Step) (url : SignedUrl) (driver : StorageDriver) (secret : CodeUnits)
      (now : Clock), history = past ++ .urlOpened url driver secret now :: future →
        admits hmac driver secret url now = true →
          ∃ (key : StorageKey) (options : SignedUrlOptions) (iat : Clock),
            .urlSigned key options secret iat ∈ past ∧ utf8 url.key = utf8 key.text ∧
              floorSeconds now ≤ expiresAt options iat) ∧
    (∀ (past future : List Step) (env : Env) (organizationId token : CodeUnits),
      history = past ++ .tokenReceived env organizationId token :: future →
        isValidZohoWebhookToken hmac env organizationId token = true →
          env.zohoWebhookSecret ≠ [] ∧ utf8 token = utf8 env.zohoWebhookSecret ∨
            ∃ (shownIn : Env) (shown : CodeUnits), .tokenShown shownIn shown ∈ past ∧
              shownIn.tokenKey = env.tokenKey ∧ utf8 shown = utf8 organizationId) ∧
    (∀ (brandId : CodeUnits) (issued provider : OAuthProvider) (secret : CodeUnits)
      (iat now : Clock),
      verifyOAuthState hmac (signOAuthState hmac brandId issued secret iat) provider secret now =
        .ok (if issued = provider ∧ now.val - iat.val ≤ maxAgeMs then some brandId else none)) ∧
    (∀ (secret : CodeUnits) (key : StorageKey) (options : SignedUrlOptions) (iat now : Clock),
      admits hmac .local_ secret (getSignedUrl hmac secret key options iat) now =
        decide (floorSeconds now ≤ expiresAt options iat)) ∧
    ∀ (env : Env) (organizationId : CodeUnits),
      isValidZohoWebhookToken hmac env organizationId
        (zohoWebhookToken hmac env organizationId) = true := by
  refine ⟨?_, ?_, ?_, ?_, ?_, isValid_shown⟩
  · intro past future state provider secret now brandId split accepted
    exact state_was_signed unforgeable split accepted
  · intro past future url driver secret now split admitted
    exact url_was_signed unforgeable split admitted
  · intro past future env organizationId token split valid
    exact token_was_shown unforgeable split valid
  · intro brandId issued provider secret iat now
    exact verify_sign hmac brandId issued provider secret iat now
  · intro secret key options iat now
    exact admits_getSignedUrl hmac secret key options iat now

end Hmac

/-! ## A URL and a token under one secret -/

def sampleKey : StorageKey := .checkImage [0x62] [0x73] .front

def sampleOptions : SignedUrlOptions := ⟨300, none, by decide⟩

def sampleTime : Clock := ⟨1700000060000, by decide⟩

def sampleUrl : SignedUrl := getSignedUrl sampleHmac [0x73] sampleKey sampleOptions sampleTime

def sampleHistory : List Step :=
  [.urlSigned sampleKey sampleOptions [0x73] sampleTime, .tokenShown ⟨[0x73], []⟩ [0x37],
    .urlOpened sampleUrl .local_ [0x73] sampleTime]

theorem sample_unforgeable_uses :
    UnforgeableIn reveals (tagIn sampleHmac) (sampleHistory.map Step.event) := by
  have text : urlText sampleUrl =
      signedText (carried sampleKey.text) (.finite (expiresAt sampleOptions sampleTime)) := by
    rw [urlText, sampleUrl, getSignedUrl, numberOf_expiresAt]
  have bytes : utf8 (urlText sampleUrl) =
      utf8 (signedText sampleKey.text (.finite (expiresAt sampleOptions sampleTime))) := by
    rw [text, utf8_signedText, utf8_signedText, carried, utf8_fromUtf8_utf8]
  refine unforgeableIn_of_tagged ?_
  intro past future step form key message tag split presents
  cases past with
  | nil =>
    obtain ⟨rfl, _⟩ := List.cons.inj split
    simp [Step.event] at presents
  | cons first rest =>
    obtain ⟨rfl, behind⟩ := List.cons.inj split
    cases rest with
    | nil =>
      obtain ⟨rfl, _⟩ := List.cons.inj behind
      simp [Step.event] at presents
    | cons second others =>
      obtain ⟨rfl, last⟩ := List.cons.inj behind
      cases others with
      | nil =>
        obtain ⟨rfl, _⟩ := List.cons.inj last
        rw [Step.event, bytes, FormEvent.presented.injEq] at presents
        obtain ⟨rfl, rfl, rfl, _⟩ := presents
        exact ⟨.hex, .inl (by decide), _, List.mem_cons_self, rfl⟩
      | cons third more => simp at last

theorem secretUses_separate_sample :
    ∃ (key : StorageKey) (options : SignedUrlOptions) (iat : Clock),
      .urlSigned key options [0x73] iat ∈ sampleHistory.take 2 ∧
        utf8 sampleUrl.key = utf8 key.text ∧
          floorSeconds sampleTime ≤ expiresAt options iat := by
  refine (secretUses_separate sample_unforgeable_uses).2.1 (sampleHistory.take 2) [] sampleUrl
    .local_ [0x73] sampleTime rfl ?_
  rw [sampleUrl, admits_getSignedUrl, decide_eq_true_eq]
  simp [expiresAt]

end MultiBrandInvoicing.SecretUses
