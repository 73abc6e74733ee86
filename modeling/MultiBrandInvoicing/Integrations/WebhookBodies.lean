import MultiBrandInvoicing.Json.Numbers

/-!
# The bodies of Zoho's webhooks

What a webhook takes from its body is the id of the contact or the invoice.  The body is an object
that was parsed already, JSON sent as text, or a form with the JSON in one of its fields, and the
record in it is bare or wrapped under its own name.  The id is the same whatever the shape is; one
that was sent as a JSON integer went through a double.
-/

set_option autoImplicit false

namespace MultiBrandInvoicing.WebhookBodies

open Encodings Json NumberText

/-! ## The controller -/

def tryParseJson (text : CodeUnits) : Option (Value JsNumber) := parseJson text

def nullish (first second : Option (Value JsNumber)) : Option (Value JsNumber) :=
  match first with
  | none => second
  | some .null => second
  | some value => some value

def normalizeBody : Option (Value JsNumber) → Option (Value JsNumber)
  | some (.string text) => nullish (tryParseJson text) (some (.string text))
  | some body =>
    match body.get (ofString "JSONString") with
    | some (.string encoded) => nullish (tryParseJson encoded) (some body)
    | _ => some body
  | none => none

def entity (body : Option (Value JsNumber)) (entityKey : String) : Option (Value JsNumber) :=
  match body.bind (Value.get (ofString entityKey)) with
  | some inner => some inner
  | none => body

def stringField (record : Option (Value JsNumber)) (key : String) : Option CodeUnits :=
  match record.bind (Value.get (ofString key)) with
  | some (.number value) => some (ofString (numberToString value))
  | some (.string text) => if text = [] then none else some text
  | _ => none

def extractId (body : Option (Value JsNumber)) (entityKey idKey : String) :
    Except String CodeUnits :=
  match stringField (entity body entityKey) idKey with
  | some id => if id = [] then .error ("webhook body carries no " ++ idKey) else .ok id
  | none => .error ("webhook body carries no " ++ idKey)

inductive Route where
  | contacts
  | invoices

def Route.entityKey : Route → String
  | .contacts => "contact"
  | .invoices => "invoice"

def Route.idKey : Route → String
  | .contacts => "contact_id"
  | .invoices => "invoice_id"

def receivedId (route : Route) (body : Option (Value JsNumber)) : Except String CodeUnits :=
  extractId (normalizeBody body) route.entityKey route.idKey

/-! ## What Zoho sends -/

inductive SentId where
  | text (digits : CodeUnits) (some_ : digits ≠ [])
  | integer (value : ℤ)

def SentId.value : SentId → Value Numeral
  | .text digits _ => .string digits
  | .integer value => .number (integerNumeral value)

def SentId.digits : SentId → CodeUnits
  | .text digits _ => digits
  | .integer value => ofString (String.ofList (integerText value))

/-- A text keeps its digits, an integer does where the double nearest to it is written so. -/
def SentId.Kept : SentId → Prop
  | .text _ _ => True
  | .integer value => Survives value

/-- What is sent for a record: the record itself or an envelope around it. -/
inductive Carries (route : Route) (record : Value Numeral) : Value Numeral → Prop where
  | bare (alone : record.get (ofString route.entityKey) = none) : Carries route record record
  | wrapped {sent : Value Numeral} (inside : sent.get (ofString route.entityKey) = some record) :
    Carries route record sent

inductive Delivers (route : Route) (record : Value Numeral) : Option (Value JsNumber) → Prop where
  | parsed {sent : Value Numeral} (carries : Carries route record sent)
    (noForm : ∀ text, sent.get (ofString "JSONString") ≠ some (.string text)) :
    Delivers route record (some (sent.map Json.toNumber))
  | text {sent : Value Numeral} {text : CodeUnits} (carries : Carries route record sent)
    (reads : read text = some sent) : Delivers route record (some (.string text))
  | form {sent : Value Numeral} {text : CodeUnits} {body : Value JsNumber}
    (carries : Carries route record sent) (reads : read text = some sent)
    (field : body.get (ofString "JSONString") = some (.string text)) :
    Delivers route record (some body)

/-! ## Every shape is decoded to what was sent -/

variable {route : Route} {record sent : Value Numeral} {body : Option (Value JsNumber)}

theorem members_of_get {ν : Type} {value inner : Value ν} {key : CodeUnits}
    (found : value.get key = some inner) : ∃ members, value = .object members := by
  cases value with
  | object members => exact ⟨members, rfl⟩
  | _ => simp [Value.get] at found

theorem Carries.members (carries : Carries route record sent) {key : CodeUnits}
    {inner : Value Numeral} (found : record.get key = some inner) :
    ∃ members, sent = .object members := by
  cases carries with
  | bare => exact members_of_get found
  | wrapped inside => exact members_of_get inside

theorem tryParseJson_of_read {text : CodeUnits} (reads : read text = some sent) :
    tryParseJson text = some (sent.map Json.toNumber) := by
  rw [tryParseJson, parseJson, reads, Option.map_some]

theorem normalizeBody_delivered (delivers : Delivers route record body) {key : CodeUnits}
    {inner : Value Numeral} (found : record.get key = some inner) :
    ∃ sent, Carries route record sent ∧ normalizeBody body = some (sent.map Json.toNumber) := by
  cases delivers with
  | @parsed sent carries noForm =>
    refine ⟨sent, carries, ?_⟩
    obtain ⟨members, rfl⟩ := carries.members found
    have field := Value.get_map Json.toNumber (ofString "JSONString") (.object members)
    rw [Value.map] at field ⊢
    simp only [normalizeBody]
    rw [field]
    cases encoded : (Value.object members).get (ofString "JSONString") with
    | none => rfl
    | some value =>
      cases value with
      | string text => exact absurd encoded (noForm text)
      | _ => rfl
  | @text sent text carries reads =>
    refine ⟨sent, carries, ?_⟩
    obtain ⟨members, rfl⟩ := carries.members found
    rw [normalizeBody, tryParseJson_of_read reads]
    rfl
  | @form sent text form carries reads field =>
    refine ⟨sent, carries, ?_⟩
    obtain ⟨members, rfl⟩ := carries.members found
    obtain ⟨fields, rfl⟩ := members_of_get field
    simp only [normalizeBody]
    rw [field]
    exact congrArg (fun parsed => nullish parsed (some (.object fields)))
      (tryParseJson_of_read reads)

theorem entity_carried (carries : Carries route record sent) :
    entity (some (sent.map Json.toNumber)) route.entityKey = some (record.map Json.toNumber) := by
  cases carries with
  | bare alone => rw [entity, Option.bind_some, Value.get_map, alone, Option.map_none]
  | wrapped inside => rw [entity, Option.bind_some, Value.get_map, inside, Option.map_some]

/-- The text that an id is handed on as. -/
def SentId.handedOn : SentId → CodeUnits
  | .text digits _ => digits
  | .integer value => ofString (numberToString (Json.toNumber (integerNumeral value)))

/-- The id does not depend on the shape of the body. -/
theorem receivedId_delivered {id : SentId}
    (sends : record.get (ofString route.idKey) = some id.value)
    (delivers : Delivers route record body) : receivedId route body = .ok id.handedOn := by
  obtain ⟨sent, carries, normalized⟩ := normalizeBody_delivered delivers sends
  rw [receivedId, normalized, extractId, entity_carried carries, stringField, Option.bind_some,
    Value.get_map, sends, Option.map_some]
  cases id with
  | text digits some_ => simp only [SentId.value, Value.map, SentId.handedOn, if_neg some_]
  | integer value =>
    simp only [SentId.value, Value.map, SentId.handedOn, if_neg (numberToString_integer_ne value)]

theorem webhookId_exact_iff {id : SentId}
    (sends : record.get (ofString route.idKey) = some id.value)
    (delivers : Delivers route record body) :
    receivedId route body = .ok id.digits ↔ id.Kept := by
  rw [receivedId_delivered sends delivers, Except.ok.injEq]
  cases id with
  | text digits some_ => simp [SentId.handedOn, SentId.digits, SentId.Kept]
  | integer value =>
    rw [SentId.handedOn, SentId.digits, SentId.Kept, ofString_inj, ← numberToString_integer,
      ← String.toList_inj, String.toList_ofList]

/-- Integers that a double holds are kept in every shape. -/
theorem receivedId_of_lt {value : ℤ} (small : value.natAbs < 2 ^ 53)
    (sends : record.get (ofString route.idKey) = some (.number (integerNumeral value)))
    (delivers : Delivers route record body) :
    receivedId route body = .ok (ofString (String.ofList (integerText value))) := by
  have kept := (numberToString_integer value).mpr (survives_of_lt small)
  have handed : receivedId route body = .ok (SentId.integer value).handedOn :=
    receivedId_delivered sends delivers
  rw [handed, SentId.handedOn, String.toList_inj.mp (kept.trans (String.toList_ofList).symm)]

def sentText : String :=
  "\x7b\x22contact\x22:\x7b\x22contact_id\x22:460000000000026049\x7d\x7d"

def sentRecord : Value Numeral :=
  .object [(ofString "contact_id", .number (integerNumeral 460000000000026049))]

theorem sentText_delivers : Delivers .contacts sentRecord (some (.string (ofString sentText))) := by
  have envelope : Carries .contacts sentRecord (.object [(ofString "contact", sentRecord)]) :=
    .wrapped rfl
  exact .text envelope rfl

theorem webhookId_exact_iff_sample :
    receivedId .contacts (some (.string (ofString sentText))) =
      .ok (SentId.integer 460000000000026049).digits ↔
        (SentId.integer 460000000000026049).Kept :=
  webhookId_exact_iff rfl sentText_delivers

/-- An id of eighteen digits that was sent as a JSON integer is handed on as another one. -/
theorem integer_id_altered :
    Delivers .contacts sentRecord (some (.string (ofString sentText))) ∧
      sentRecord.get (ofString Route.contacts.idKey) =
        some (SentId.integer 460000000000026049).value ∧
      receivedId .contacts (some (.string (ofString sentText))) =
        .ok (ofString "460000000000026050") ∧
      receivedId .contacts (some (.string (ofString sentText))) ≠
        .ok (SentId.integer 460000000000026049).digits := by
  refine ⟨sentText_delivers, rfl, ?_, ?_⟩
  · decide +kernel
  · decide +kernel

end MultiBrandInvoicing.WebhookBodies
