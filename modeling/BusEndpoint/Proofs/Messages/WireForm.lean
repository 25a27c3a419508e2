import BusEndpoint.Sqs.Event
import BusEndpoint.Proofs.Json.Codecs

/-! The JSON forms of messages and of batches of queue records. What is written is read
as it was. In an object every member has a say of its own: if it is left out, its field
has the default, and no other field changes. -/

namespace BusEndpoint

open Decode

namespace WireMessage

theorem optionalMember_eq (name : String) (value : Option Json) :
    optionalMember name value = value.toList.map fun value => (name, value) := by
  cases value <;> rfl

def bodyForm (bytes : Bytes) : Json := .array (bytes.map fun byte => .natural byte.toNat)

/-- The names of the members that are read. -/
def memberNames : List String :=
  ["messageId", "body", "applicationProperties", "deliveryCount", "replyTo", "correlationId"]

def parts : List (RecordPart WireMessage) :=
  [.optional "messageId" text .string (·.messageId) fun id m => { m with messageId := id },
    .optional "body" (sequence word8) bodyForm (·.body) fun body m => { m with body },
    .plain "applicationProperties" (dictionary any) .ofDictionary (·.applicationProperties)
      fun properties m => { m with applicationProperties := properties },
    .plain "deliveryCount" word32 (fun count => .natural count.toNat) (·.deliveryCount)
      fun count m => { m with deliveryCount := count },
    .optional "replyTo" text .string (·.replyTo) fun address m => { m with replyTo := address },
    .optional "correlationId" text .string (·.correlationId)
      fun id m => { m with correlationId := id }]

theorem names_parts : parts.map RecordPart.name = memberNames := rfl

theorem ofJson_eq : ofJson = record "WireMessage" (parts.map RecordPart.toField) {} := rfl

theorem toJson_eq (message : WireMessage) :
    message.toJson = .ofMembers (written parts message) := by
  simp [toJson, written, parts, RecordPart.member, RecordPart.plain, RecordPart.optional,
    optionalMember_eq]
  rfl

theorem independent_parts : Independent parts where
  names := by simp [names_parts, memberNames]
  get_set := by simp [parts, RecordPart.plain, RecordPart.optional]
  get_set_of_ne := by simp [parts, RecordPart.plain, RecordPart.optional]
  ext first second hSame := by
    cases first
    cases second
    simpa [parts, RecordPart.plain, RecordPart.optional] using hSame

/-- What is not written is none, as it is in the blank message. -/
theorem parts_restore : ∀ part ∈ parts, part.Restores {} := by
  have hText : Inverts text .string := inverts_text
  have hBody : Inverts (sequence word8) bodyForm := inverts_word8.sequence
  simp only [parts, List.forall_mem_cons]
  refine ⟨?messageId, ?body, ?properties, ?count, ?replyTo, ?correlation, nofun⟩
  case messageId | replyTo | correlation =>
    exact RecordPart.optional_restores hText (fun _ => nofun) rfl
  case body => exact RecordPart.optional_restores hBody (fun _ => nofun) rfl
  case properties => exact RecordPart.plain_restores inverts_dictionary_any
  case count => exact RecordPart.plain_restores inverts_word32

theorem inverts_toJson : Inverts ofJson toJson :=
  record_restores independent_parts parts_restore toJson_eq

/-- The message with the default in every field whose member is left out. -/
def without (omitted : String → Bool) (message : WireMessage) : WireMessage where
  messageId := if omitted "messageId" then none else message.messageId
  body := if omitted "body" then none else message.body
  applicationProperties :=
    if omitted "applicationProperties" then .empty else message.applicationProperties
  deliveryCount := if omitted "deliveryCount" then 1 else message.deliveryCount
  replyTo := if omitted "replyTo" then none else message.replyTo
  correlationId := if omitted "correlationId" then none else message.correlationId

theorem get_without (omitted : String → Bool) (message : WireMessage) :
    ∀ part ∈ parts, part.get (message.without omitted) =
      if omitted part.name then part.get {} else part.get message := by
  simp [parts, RecordPart.plain, RecordPart.optional, without]

theorem member?_body_toJson (message : WireMessage) :
    message.toJson.member? "body" = message.body.map bodyForm := by
  have hPart : RecordPart.optional "body" (sequence word8) bodyForm (·.body)
      (fun body (m : WireMessage) => { m with body }) ∈ parts := by simp [parts]
  rw [toJson_eq]
  exact get?_written independent_parts.names hPart

theorem ofJson_filter {object : Dictionary Json} {message : WireMessage}
    (hRead : ofJson (.ofDictionary object) = .ok message) (omitted : String → Bool) :
    ofJson (.ofDictionary (object.filter fun name _ => !omitted name)) =
      .ok (message.without omitted) := by
  rw [ofJson_eq] at hRead ⊢
  exact record_filter independent_parts hRead (get_without omitted message)

theorem ofJson_congr {first second : Dictionary Json}
    (hSame : ∀ name ∈ memberNames, first.get? name = second.get? name) :
    ofJson (.ofDictionary first) = ofJson (.ofDictionary second) := by
  have hParts : ∀ part ∈ parts, first.get? part.name = second.get? part.name := by
    intro part hPart
    apply hSame
    rw [← names_parts]
    exact List.mem_map_of_mem hPart
  rw [ofJson_eq]
  exact record_congr hParts

end WireMessage

namespace SqsAttribute

def parts : List (RecordPart SqsAttribute) :=
  [.optional "stringValue" text .string (·.stringValue)
      fun value a => { a with stringValue := value },
    .plain "dataType" text .string (·.dataType) fun kind a => { a with dataType := kind }]

theorem toJson_eq (given : SqsAttribute) : given.toJson = .ofMembers (written parts given) := by
  simp [toJson, written, parts, RecordPart.member, RecordPart.plain, RecordPart.optional,
    WireMessage.optionalMember_eq]

theorem independent_parts : Independent parts where
  names := by simp [parts, RecordPart.plain, RecordPart.optional]
  get_set := by simp [parts, RecordPart.plain, RecordPart.optional]
  get_set_of_ne := by simp [parts, RecordPart.plain, RecordPart.optional]
  ext first second hSame := by
    cases first
    cases second
    simpa [parts, RecordPart.plain, RecordPart.optional] using hSame

theorem parts_restore : ∀ part ∈ parts, part.Restores {} := by
  simp only [parts, List.forall_mem_cons]
  refine ⟨?stringValue, ?dataType, nofun⟩
  case stringValue => exact RecordPart.optional_restores inverts_text (fun _ => nofun) rfl
  case dataType => exact RecordPart.plain_restores inverts_text

theorem inverts_toJson : Inverts ofJson toJson :=
  record_restores independent_parts parts_restore toJson_eq

end SqsAttribute

namespace SqsRecord

def parts : List (RecordPart SqsRecord) :=
  [.plain "messageId" text .string (·.messageId) fun id r => { r with messageId := id },
    .plain "body" text .string (·.body) fun body r => { r with body },
    .plain "attributes" (dictionary text) (fun given => .ofDictionary (given.map .string))
      (·.attributes) fun attributes r => { r with attributes },
    .plain "messageAttributes" (dictionary SqsAttribute.ofJson)
      (fun given => .ofDictionary (given.map SqsAttribute.toJson)) (·.messageAttributes)
      fun attributes r => { r with messageAttributes := attributes },
    .plain "receiptHandle" text .string (·.receiptHandle)
      fun handle r => { r with receiptHandle := handle }]

theorem toJson_eq (given : SqsRecord) : given.toJson = .ofMembers (written parts given) := rfl

theorem independent_parts : Independent parts where
  names := by simp [parts, RecordPart.plain]
  get_set := by simp [parts, RecordPart.plain]
  get_set_of_ne := by simp [parts, RecordPart.plain]
  ext first second hSame := by
    cases first
    cases second
    simpa [parts, RecordPart.plain] using hSame

theorem parts_restore : ∀ part ∈ parts, part.Restores {} := by
  simp only [parts, List.forall_mem_cons]
  refine ⟨?messageId, ?body, ?attributes, ?messageAttributes, ?receiptHandle, nofun⟩
  case messageId | body | receiptHandle => exact RecordPart.plain_restores inverts_text
  case attributes => exact RecordPart.plain_restores inverts_text.dictionary
  case messageAttributes => exact RecordPart.plain_restores SqsAttribute.inverts_toJson.dictionary

theorem inverts_toJson : Inverts ofJson toJson :=
  record_restores independent_parts parts_restore toJson_eq

end SqsRecord

namespace SqsEvent

def parts : List (RecordPart SqsEvent) :=
  [.plain "Records" (sequence SqsRecord.ofJson)
    (fun records => .array (records.map SqsRecord.toJson)) (·.records)
    fun records _ => { records }]

theorem toJson_eq (event : SqsEvent) : event.toJson = .ofMembers (written parts event) := rfl

theorem independent_parts : Independent parts where
  names := by simp [parts, RecordPart.plain]
  get_set := by simp [parts, RecordPart.plain]
  get_set_of_ne := by simp [parts, RecordPart.plain]
  ext first second hSame := by
    cases first
    cases second
    simpa [parts, RecordPart.plain] using hSame

theorem parts_restore : ∀ part ∈ parts, part.Restores {} := by
  simp only [parts, List.forall_mem_cons]
  exact ⟨RecordPart.plain_restores SqsRecord.inverts_toJson.sequence, nofun⟩

theorem inverts_toJson : Inverts ofJson toJson :=
  record_restores independent_parts parts_restore toJson_eq

end SqsEvent

/-- Messages and batches are read as they were written, and a message is read of its own
members only, each for its own field. -/
structure ReadAsWritten : Prop where
  message : Inverts WireMessage.ofJson WireMessage.toJson
  event : Inverts SqsEvent.ofJson SqsEvent.toJson
  /-- For an absent body nothing is written, and for an empty one an empty array. -/
  body : ∀ message : WireMessage,
    message.toJson.member? "body" = message.body.map WireMessage.bodyForm
  omitted : ∀ object message, WireMessage.ofJson (.ofDictionary object) = .ok message →
    ∀ omitted : String → Bool,
      WireMessage.ofJson (.ofDictionary (object.filter fun name _ => !omitted name)) =
        .ok (message.without omitted)
  /-- Other members count neither for what is read nor for why nothing is. -/
  unknown : ∀ first second : Dictionary Json,
    (∀ name ∈ WireMessage.memberNames, first.get? name = second.get? name) →
    WireMessage.ofJson (.ofDictionary first) = WireMessage.ofJson (.ofDictionary second)

theorem readAsWritten : ReadAsWritten where
  message := WireMessage.inverts_toJson
  event := SqsEvent.inverts_toJson
  body := WireMessage.member?_body_toJson
  omitted _ _ hRead := WireMessage.ofJson_filter hRead
  unknown _ _ hSame := WireMessage.ofJson_congr hSame

/-- An empty body is no absent one, a count of zero is no default, and a member that has
no field is passed over. -/
example : WireMessage.ofJson (.ofMembers [("body", .array []), ("deliveryCount", .natural 0),
    ("traceId", .null)]) = .ok { body := some [], deliveryCount := 0 } := rfl

end BusEndpoint
