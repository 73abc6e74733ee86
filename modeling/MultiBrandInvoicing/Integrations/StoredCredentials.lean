import MultiBrandInvoicing.Encodings.Base64
import MultiBrandInvoicing.Encodings.Ciphers
import MultiBrandInvoicing.Json.Numbers

/-!
# Stored credentials

`apps/api/src/common/credential-encryption.ts` and its callers: the tokens of an integration are
written as JSON, encrypted and stored as one text of three base64 parts.  The cipher is a parameter.
Whatever the tokens are made of they are read back as they were, and in a history in which no
ciphertext is forged nothing else is ever read.
-/

set_option autoImplicit false

namespace MultiBrandInvoicing.StoredCredentials

open Encodings Ciphers Json

abbrev Bytes := List UInt8

/-- AES-256-GCM as `node:crypto` has it; a key of another length is an error. -/
structure AesGcm extends Cipher Bytes Bytes Bytes Bytes Bytes String where
  length_encipher : ∀ {key nonce plain sealed tag},
    encipher key nonce plain = .ok (sealed, tag) →
      sealed.length = plain.length ∧ tag.length = 16

def colon : UInt16 := 0x3A

inductive CredentialError where
  | malformed
  | crypto (message : String)
  | invalidJson
deriving DecidableEq

def CredentialError.message : CredentialError → String
  | .malformed => "malformed encrypted credential — expected iv:authTag:ciphertext"
  | .crypto message => message
  | .invalidJson => "SyntaxError"

/-! ## The source -/

/-- A part of a stored text; one that is not there is empty here, which the check treats alike. -/
def part (stored : CodeUnits) (index : ℕ) : CodeUnits := ((stored.splitOn colon)[index]?).getD []

section Cipher

variable (cipher : AesGcm)

/-- `randomBytes` gives the nonce. -/
def encryptCredential (plaintext keyBase64 : CodeUnits) (iv : Vector UInt8 12) :
    Except String CodeUnits :=
  (cipher.encipher (fromBase64url keyBase64) iv.toList (utf8 plaintext)).map fun output =>
    base64 iv.toList ++ colon :: (base64 output.2 ++ colon :: base64 output.1)

def decryptCredential (stored keyBase64 : CodeUnits) : Except CredentialError CodeUnits :=
  if part stored 0 = [] ∨ part stored 1 = [] ∨ part stored 2 = [] then .error .malformed
  else
    match cipher.decipher (fromBase64url keyBase64) (fromBase64url (part stored 0))
        (fromBase64url (part stored 1)) (fromBase64url (part stored 2)) with
    | .error message => .error (.crypto message)
    | .ok plaintext => .ok (fromUtf8 plaintext)

end Cipher

/-- An object whose properties are strings; the names of the properties differ. -/
structure Credentials where
  members : List (String × CodeUnits)
  nodup : (members.map Prod.fst).Nodup

def twoCredentials (names : String × String) (differ : names.1 ≠ names.2)
    (first second : CodeUnits) : Credentials :=
  ⟨[(names.1, first), (names.2, second)], by simpa using differ⟩

def zohoCredentials (refreshToken apiDomain : CodeUnits) : Credentials :=
  twoCredentials ("refreshToken", "apiDomain") (by decide) refreshToken apiDomain

def squareCredentials (accessToken refreshToken : CodeUnits) : Credentials :=
  twoCredentials ("accessToken", "refreshToken") (by decide) accessToken refreshToken

def authorizeNetCredentials (apiLoginId transactionKey : CodeUnits) : Credentials :=
  twoCredentials ("apiLoginId", "transactionKey") (by decide) apiLoginId transactionKey

/-- An object of strings has no numbers. -/
def Credentials.value (credentials : Credentials) : Value Empty :=
  .object (credentials.members.map fun member => (ofString member.1, .string member.2))

def Credentials.stringify (credentials : Credentials) : CodeUnits :=
  write Empty.elim credentials.value

section Cipher

variable (cipher : AesGcm)

def saveCredentials (credentials : Credentials) (keyBase64 : CodeUnits) (iv : Vector UInt8 12) :
    Except String CodeUnits :=
  encryptCredential cipher credentials.stringify keyBase64 iv

/-- `JSON.parse(decryptCredential(…))`. -/
def readCredentials (stored keyBase64 : CodeUnits) : Except CredentialError (Value JsNumber) :=
  match decryptCredential cipher stored keyBase64 with
  | .error error => .error error
  | .ok text => (parseJson text).elim (.error .invalidJson) .ok

end Cipher

/-! ## The three parts -/

theorem colon_notMem (bytes : Bytes) : colon ∉ base64 bytes := by
  intro member
  exact (mem_base64 member).2 rfl

theorem part_joined (first second third : Bytes) :
    part (base64 first ++ colon :: (base64 second ++ colon :: base64 third)) 0 = base64 first ∧
    part (base64 first ++ colon :: (base64 second ++ colon :: base64 third)) 1 = base64 second ∧
    part (base64 first ++ colon :: (base64 second ++ colon :: base64 third)) 2 = base64 third := by
  have split : (base64 first ++ colon :: (base64 second ++ colon :: base64 third)).splitOn colon =
      [base64 first, base64 second, base64 third] := by
    rw [List.splitOn_append_cons_self_of_not_mem (colon_notMem first),
      List.splitOn_append_cons_self_of_not_mem (colon_notMem second),
      List.splitOn_eq_singleton (colon_notMem third)]
  simp only [part, split]
  exact ⟨rfl, rfl, rfl⟩

theorem utf8_eq_nil {text : CodeUnits} : utf8 text = [] ↔ text = [] := by
  constructor
  · intro empty
    have same : utf8 text = utf8 [] := empty
    exact eq_of_utf8_ascii isAscii_nil same
  · intro empty
    rw [empty]
    rfl

section Cipher

variable {cipher : AesGcm}

/-- The parts of an encrypted text are what the cipher put out; only the data of the empty text are
empty. -/
theorem encrypted_parts {plaintext keyBase64 stored : CodeUnits} {iv : Vector UInt8 12}
    (encrypted : encryptCredential cipher plaintext keyBase64 iv = .ok stored) :
    ∃ ciphertext tag,
      cipher.encipher (fromBase64url keyBase64) iv.toList (utf8 plaintext) =
        .ok (ciphertext, tag) ∧
      (fromBase64url (part stored 0) = iv.toList ∧ fromBase64url (part stored 1) = tag ∧
        fromBase64url (part stored 2) = ciphertext) ∧
      part stored 0 ≠ [] ∧ part stored 1 ≠ [] ∧ (part stored 2 = [] ↔ plaintext = []) := by
  unfold encryptCredential at encrypted
  cases output : cipher.encipher (fromBase64url keyBase64) iv.toList (utf8 plaintext) with
  | error message =>
    rw [output] at encrypted
    simp [Except.map] at encrypted
  | ok sealed =>
    obtain ⟨ciphertext, tag⟩ := sealed
    rw [output, Except.map, Except.ok.injEq] at encrypted
    obtain ⟨dataLength, tagLength⟩ := cipher.length_encipher output
    obtain ⟨first, second, third⟩ := part_joined iv.toList tag ciphertext
    rw [encrypted] at first second third
    refine ⟨ciphertext, tag, rfl, ?_, ?_, ?_, ?_⟩
    · rw [first, second, third]
      simp only [fromBase64url_base64, and_self]
    · rw [first, ne_eq, base64_eq_nil]
      intro empty
      have length := congrArg List.length empty
      simp at length
    · rw [second, ne_eq, base64_eq_nil]
      intro empty
      simp [empty] at tagLength
    · rw [third, base64_eq_nil, ← List.length_eq_zero_iff, dataLength, List.length_eq_zero_iff,
        utf8_eq_nil]

/-- The empty text is encrypted but not decrypted; any other comes back as its bytes are read. -/
theorem decrypt_encrypt {plaintext keyBase64 stored : CodeUnits} {iv : Vector UInt8 12}
    (encrypted : encryptCredential cipher plaintext keyBase64 iv = .ok stored) :
    decryptCredential cipher stored keyBase64 =
      if plaintext = [] then .error .malformed else .ok (fromUtf8 (utf8 plaintext)) := by
  obtain ⟨ciphertext, tag, output, ⟨first, second, third⟩, someIv, someTag, noData⟩ :=
    encrypted_parts encrypted
  rw [decryptCredential, first, second, third, cipher.decipher_encipher output]
  simp only [someIv, someTag, noData, false_or]

/-! ## Credentials are read back -/

theorem wellFormed_stringify (credentials : Credentials) : WellFormed credentials.stringify :=
  wellFormed_write (fun number => number.elim) credentials.value

theorem parseJson_stringify (credentials : Credentials) :
    parseJson credentials.stringify = some (credentials.value.map Empty.elim) := by
  have reads : read credentials.stringify = some (credentials.value.map Empty.elim) :=
    read_write (fun number => number.elim) credentials.value
  have numbers : (credentials.value.map Empty.elim).map Json.toNumber =
      credentials.value.map Empty.elim := by
    simp only [Credentials.value, Value.map, mapMembers_eq, List.map_map, Function.comp_def]
  rw [parseJson, reads, Option.map_some, numbers]

theorem stringify_ne_nil (credentials : Credentials) : credentials.stringify ≠ [] := by
  intro empty
  have parsed := parseJson_stringify credentials
  rw [empty] at parsed
  have nothing : parseJson [] = none := rfl
  rw [nothing] at parsed
  exact absurd parsed (by simp)

theorem get_object {ν : Type} {members : List (CodeUnits × Value ν)}
    (nodup : (members.map Prod.fst).Nodup) {key : CodeUnits} {value : Value ν}
    (member : (key, value) ∈ members) : (Value.object members).get key = some value := by
  cases found : members.reverse.find? (fun candidate => candidate.1 = key) with
  | none =>
    have apart := List.find?_eq_none.mp found (key, value) (List.mem_reverse.mpr member)
    simp at apart
  | some candidate =>
    have named : candidate.1 = key := by simpa using List.find?_some found
    have listed := List.mem_reverse.mp (List.mem_of_find?_eq_some found)
    have same := List.inj_on_of_nodup_map nodup listed member named
    rw [Value.get, found, Option.map_some, same]

/-- A property of the object that is read is the string that was saved under its name. -/
theorem get_value {credentials : Credentials} {name : String} {text : CodeUnits}
    (member : (name, text) ∈ credentials.members) :
    (credentials.value.map Empty.elim : Value JsNumber).get (ofString name) =
      some (.string text) := by
  have names : ((credentials.members.map fun member =>
      (ofString member.1, (Value.string member.2 : Value Empty))).map Prod.fst).Nodup := by
    have distinct := credentials.nodup.map fun first second => ofString_inj.mp
    rw [List.map_map] at distinct ⊢
    exact distinct
  rw [Value.get_map, Credentials.value, get_object names (List.mem_map_of_mem member)]
  rfl

theorem read_save {credentials : Credentials} {keyBase64 stored : CodeUnits}
    {iv : Vector UInt8 12} (saved : saveCredentials cipher credentials keyBase64 iv = .ok stored) :
    readCredentials cipher stored keyBase64 = .ok (credentials.value.map Empty.elim) := by
  rw [readCredentials, decrypt_encrypt saved, if_neg (stringify_ne_nil credentials),
    fromUtf8_utf8 (wellFormed_stringify credentials)]
  simp only [parseJson_stringify, Option.elim_some]

end Cipher

/-! ## Histories of saving and reading -/

inductive Step where
  | saved (credentials : Credentials) (keyBase64 : CodeUnits) (iv : Vector UInt8 12)
  | read (stored keyBase64 : CodeUnits)

def Step.event : Step → Ciphers.Event Bytes Bytes Bytes Bytes Bytes
  | .saved credentials keyBase64 iv =>
    .sealed (fromBase64url keyBase64) iv.toList (utf8 credentials.stringify)
  | .read stored keyBase64 =>
    .opened (fromBase64url keyBase64) (fromBase64url (part stored 0))
      (fromBase64url (part stored 1)) (fromBase64url (part stored 2))

section Cipher

variable (cipher : AesGcm)

theorem decrypt_opens {stored keyBase64 text : CodeUnits}
    (decrypted : decryptCredential cipher stored keyBase64 = .ok text) :
    ∃ plain, cipher.decipher (fromBase64url keyBase64) (fromBase64url (part stored 0))
        (fromBase64url (part stored 1)) (fromBase64url (part stored 2)) = .ok plain ∧
      text = fromUtf8 plain := by
  unfold decryptCredential at decrypted
  split at decrypted
  case isTrue missing => simp at decrypted
  case isFalse whole =>
    split at decrypted
    case h_1 message failed => simp at decrypted
    case h_2 plain opened =>
      rw [Except.ok.injEq] at decrypted
      exact ⟨plain, opened, decrypted.symm⟩

theorem read_was_saved {history : List Step}
    (unforgeable : Unforgeable cipher.toCipher (history.map Step.event))
    {past future : List Step} {stored keyBase64 : CodeUnits}
    (split : history = past ++ .read stored keyBase64 :: future) {found : Value JsNumber}
    (accepted : readCredentials cipher stored keyBase64 = .ok found) :
    ∃ credentials other iv, .saved credentials other iv ∈ past ∧
      fromBase64url other = fromBase64url keyBase64 ∧
        found = credentials.value.map Empty.elim := by
  unfold readCredentials at accepted
  split at accepted
  case h_1 error failed => simp at accepted
  case h_2 text decrypted =>
    obtain ⟨plain, opened, rfl⟩ := decrypt_opens cipher decrypted
    obtain ⟨earlier, member, sealed⟩ := unforgeable.sealed split rfl opened
    cases earlier with
    | read => simp [Step.event] at sealed
    | saved credentials other iv =>
      rw [Step.event, Ciphers.Event.sealed.injEq] at sealed
      obtain ⟨sameKey, _, rfl⟩ := sealed
      rw [fromUtf8_utf8 (wellFormed_stringify credentials), parseJson_stringify,
        Option.elim_some, Except.ok.injEq] at accepted
      exact ⟨credentials, other, iv, member, sameKey, accepted.symm⟩

theorem unforgeable_of_saved {history : List Step}
    (honest : ∀ (past future : List Step) (stored keyBase64 : CodeUnits),
      history = past ++ .read stored keyBase64 :: future →
        ∃ credentials iv, .saved credentials keyBase64 iv ∈ past ∧
          saveCredentials cipher credentials keyBase64 iv = .ok stored) :
    Unforgeable cipher.toCipher (history.map Step.event) := by
  refine unforgeable_of_sealed ?_
  intro past future step key nonce tag ciphertext split opens
  cases step with
  | saved => simp [Step.event] at opens
  | read stored keyBase64 =>
    obtain ⟨credentials, iv, member, saved⟩ := honest past future stored keyBase64 split
    obtain ⟨output, full, enciphered, ⟨first, second, third⟩, _⟩ := encrypted_parts saved
    rw [Step.event, first, second, third, Ciphers.Event.opened.injEq] at opens
    obtain ⟨rfl, rfl, rfl, rfl⟩ := opens
    exact ⟨_, member, _, _, rfl, enciphered⟩

/-- Where no ciphertext is forged, what is read are the credentials of an earlier save under the
same key, and every save is read back with each of its tokens. -/
theorem credentials_authentic {history : List Step}
    (unforgeable : Unforgeable cipher.toCipher (history.map Step.event)) :
    (∀ (past future : List Step) (stored keyBase64 : CodeUnits) (found : Value JsNumber),
      history = past ++ .read stored keyBase64 :: future →
        readCredentials cipher stored keyBase64 = .ok found →
          ∃ credentials other iv, .saved credentials other iv ∈ past ∧
            fromBase64url other = fromBase64url keyBase64 ∧
              found = credentials.value.map Empty.elim) ∧
    ∀ (credentials : Credentials) (keyBase64 stored : CodeUnits) (iv : Vector UInt8 12),
      saveCredentials cipher credentials keyBase64 iv = .ok stored →
        ∃ found, readCredentials cipher stored keyBase64 = .ok found ∧
          ∀ member ∈ credentials.members,
            found.get (ofString member.1) = some (.string member.2) := by
  constructor
  · intro past future stored keyBase64 found split accepted
    exact read_was_saved cipher unforgeable split accepted
  · intro credentials keyBase64 stored iv saved
    refine ⟨_, read_save saved, ?_⟩
    intro member listed
    exact get_value listed

end Cipher

/-! ## A cipher that only authenticates -/

def sampleTag (nonce plain : Bytes) : Bytes :=
  List.replicate 16 (.ofNat (nonce.length + plain.length))

def sampleCipher : AesGcm where
  encipher key nonce plain :=
    if key.length = 32 then .ok (plain, sampleTag nonce plain) else .error "Invalid key length"
  decipher key nonce tag sealed :=
    if key.length ≠ 32 then .error "Invalid key length"
    else if tag = sampleTag nonce sealed then .ok sealed
    else .error "Unsupported state or unable to authenticate data"
  decipher_encipher := by
    intro key nonce plain sealed tag done
    split at done
    case isTrue long =>
      rw [Except.ok.injEq, Prod.mk.injEq] at done
      obtain ⟨rfl, rfl⟩ := done
      rw [if_neg (not_not.mpr long), if_pos rfl]
    case isFalse short => simp at done
  encipher_decipher := by
    intro key nonce tag sealed plain opened
    split_ifs at opened with short authentic
    rw [Except.ok.injEq] at opened
    rw [opened, if_pos (not_not.mp short)]
    exact ⟨_, rfl⟩
  encipher_injective := by
    intro key nonce plain other sealed tag full first second
    split_ifs at first with long
    rw [if_pos long] at second
    simp only [Except.ok.injEq, Prod.mk.injEq] at first second
    rw [first.1, second.1]
  length_encipher := by
    intro key nonce plain sealed tag done
    split_ifs at done with long
    rw [Except.ok.injEq, Prod.mk.injEq] at done
    obtain ⟨rfl, rfl⟩ := done
    exact ⟨rfl, List.length_replicate⟩

def sampleKey : CodeUnits := base64 (List.replicate 32 0)

def sampleIv : Vector UInt8 12 := Vector.replicate 12 7

def sampleSaved : Step := .saved (zohoCredentials [0xD800] [0x75]) sampleKey sampleIv

theorem sample_encrypts :
    ∃ stored, saveCredentials sampleCipher (zohoCredentials [0xD800] [0x75]) sampleKey sampleIv =
      .ok stored := by
  rw [saveCredentials, encryptCredential, sampleKey, fromBase64url_base64]
  exact ⟨_, rfl⟩

theorem credentials_authentic_sample :
    ∃ stored found, readCredentials sampleCipher stored sampleKey = .ok found ∧
      found.get (ofString "refreshToken") = some (.string [0xD800]) ∧
      ∃ credentials other iv, .saved credentials other iv ∈ [sampleSaved] ∧
        found = credentials.value.map Empty.elim := by
  obtain ⟨stored, saved⟩ := sample_encrypts
  have unforgeable : Unforgeable sampleCipher.toCipher
      ([sampleSaved, .read stored sampleKey].map Step.event) := by
    refine unforgeable_of_saved sampleCipher ?_
    intro past future other key split
    cases past with
    | nil => simp [sampleSaved] at split
    | cons first rest =>
      rw [List.cons_append, List.cons.injEq] at split
      obtain ⟨rfl, split⟩ := split
      cases rest with
      | nil =>
        rw [List.nil_append, List.cons.injEq, Step.read.injEq] at split
        obtain ⟨⟨rfl, rfl⟩, _⟩ := split
        exact ⟨_, _, List.mem_cons_self, saved⟩
      | cons second others => simp at split
  obtain ⟨origin, kept⟩ := credentials_authentic sampleCipher unforgeable
  obtain ⟨found, read, fields⟩ := kept _ _ _ _ saved
  obtain ⟨credentials, other, iv, earlier, _, same⟩ :=
    origin [sampleSaved] [] stored sampleKey found rfl read
  exact ⟨stored, found, read, fields ("refreshToken", [0xD800]) List.mem_cons_self,
    credentials, other, iv, earlier, same⟩

end MultiBrandInvoicing.StoredCredentials
