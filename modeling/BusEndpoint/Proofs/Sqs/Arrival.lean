import BusEndpoint.Proofs.Delivery.Retries
import BusEndpoint.Proofs.Dictionary
import BusEndpoint.Proofs.Messages.Headers
import BusEndpoint.Proofs.Text.Numerals
import BusEndpoint.Sqs.Event

/-! What an endpoint has of a record of a batch. A record goes through two translations
with defaults of their own, into a message on the wire and from there into one to work on.
Its sender has no native fields to fill, so that each of the attributes with a string value
becomes the header of its name, and in which order they are gone through is of no account. -/

namespace BusEndpoint

/-- The property that an attribute becomes, if it has a string value. -/
def SqsAttribute.property? (given : SqsAttribute) : Option Json := given.stringValue.map .string

namespace WireMessage

/-- Take an attribute into a message, if it has a string value. -/
def takeAttribute (wire : WireMessage) (entry : String × SqsAttribute) : WireMessage :=
  match entry.2.stringValue with
  | some text => wire.setProperty entry.1 text
  | none => wire

/-- The properties that attributes become. -/
def textProperties (entries : List (String × SqsAttribute)) : List (String × Json) :=
  entries.filterMap fun entry => entry.2.property?.map fun value => (entry.1, value)

theorem foldl_takeAttribute (entries : List (String × SqsAttribute)) (wire : WireMessage) :
    entries.foldl takeAttribute wire =
      { wire with
        applicationProperties :=
          wire.applicationProperties.insertAll (textProperties entries) } := by
  induction entries generalizing wire with
  | nil => rfl
  | cons entry rest ih =>
      rw [List.foldl_cons, ih, takeAttribute, textProperties]
      cases hText : entry.2.stringValue with
      | none => simp [textProperties, SqsAttribute.property?, hText]
      | some text =>
          simp [textProperties, SqsAttribute.property?, hText, setProperty,
            Dictionary.insertAll_cons]

theorem nodup_textProperties (d : Dictionary SqsAttribute) :
    ((textProperties d.entries).map Prod.fst).Nodup :=
  d.ordered.nodup.sublist (map_fst_filterMap_sublist SqsAttribute.property? d.entries)

theorem findEntry_textProperties (d : Dictionary SqsAttribute) (name : String) :
    findEntry name (textProperties d.entries) =
      ((d.get? name).bind (·.stringValue)).map .string := by
  rw [textProperties, findEntry_filterMap d.ordered.nodup, Option.map_bind]
  rfl

end WireMessage

namespace SqsRecord

variable {record other : SqsRecord}

/-- The string value of an attribute, if the attribute is there and has one. -/
def text? (record : SqsRecord) (name : String) : Option String :=
  (record.messageAttributes.get? name).bind (·.stringValue)

/-- The record as a message, made by a loop over the attributes as they are listed. -/
def wireAsListed (record : SqsRecord) (attributes : List (String × String))
    (messageAttributes : List (String × SqsAttribute)) : WireMessage :=
  messageAttributes.foldl WireMessage.takeAttribute
    { messageId := if record.messageId = "" then none else some record.messageId
      body := some (Text.utf8 record.body)
      deliveryCount := ((findEntry receiveCountAttribute attributes).bind Text.counter?).getD 1 }

theorem properties_eq (record : SqsRecord) :
    record.properties = .ofList (WireMessage.textProperties record.messageAttributes.entries) := by
  simp only [properties, WireMessage.textProperties, SqsAttribute.property?, Option.map_map,
    Function.comp_def]

theorem wireAsListed_entries (record : SqsRecord) :
    record.wireAsListed record.attributes.entries record.messageAttributes.entries =
      record.toWire := by
  rw [wireAsListed, WireMessage.foldl_takeAttribute, toWire, properties_eq]
  rfl

/-- The two maps have no order. -/
theorem wireAsListed_perm {attributes : List (String × String)}
    {messageAttributes : List (String × SqsAttribute)}
    (hSystem : attributes.Perm record.attributes.entries)
    (hSender : messageAttributes.Perm record.messageAttributes.entries) :
    record.wireAsListed attributes messageAttributes = record.toWire := by
  have hProperties := Dictionary.insertAll_perm .empty
    (WireMessage.nodup_textProperties record.messageAttributes) (hSender.filterMap _)
  rw [← wireAsListed_entries, wireAsListed, wireAsListed, WireMessage.foldl_takeAttribute,
    WireMessage.foldl_takeAttribute, findEntry_perm record.attributes.ordered.nodup hSystem]
  exact congrArg (fun properties => { record.toWire with applicationProperties := properties })
    hProperties

theorem get?_properties (record : SqsRecord) (name : String) :
    record.properties.get? name = (record.text? name).map .string := by
  rw [properties_eq, Dictionary.ofList,
    Dictionary.get?_insertAll_of_nodup _ (WireMessage.nodup_textProperties _),
    Dictionary.get?_empty, Option.or_none, WireMessage.findEntry_textProperties]
  rfl

/-- The sender's attributes are the headers, but for the marker of the transport. -/
theorem get?_headers (fresh : String) (record : SqsRecord) (name : String) :
    (InboundMessage.ofWire fresh record.toWire).headers.get? name =
      if name = Header.transportEncoding then none else record.text? name := by
  have hText : (record.properties.get? name).map Header.ofProperty = record.text? name := by
    rw [get?_properties, Option.map_map]
    exact Option.map_id_apply
  rw [InboundMessage.ofWire, Header.get?_translate]
  simp only [toWire, Option.bind_none, Option.none_or, hText, ite_self]

/-- Records that agree in what is read of them arrive as the same message. -/
theorem toWire_congr (hId : other.messageId = record.messageId)
    (hBody : other.body = record.body)
    (hCount : other.attributes.get? receiveCountAttribute =
      record.attributes.get? receiveCountAttribute)
    (hTexts : ∀ name, other.text? name = record.text? name) :
    other.toWire = record.toWire := by
  have hProperties : other.properties = record.properties := by
    apply Dictionary.ext_get?
    intro name
    rw [get?_properties, get?_properties, hTexts]
  rw [toWire, toWire, deliveryCount, deliveryCount, hId, hBody, hCount, hProperties]

theorem id_ofWire_toWire (fresh : String) (hId : record.messageId ≠ "") :
    (InboundMessage.ofWire fresh record.toWire).id = record.messageId := by
  simp [InboundMessage.ofWire, toWire, resolveMessageId, hId]

theorem id_ofWire_toWire_of_empty (fresh : String) (hId : record.messageId = "") :
    (InboundMessage.ofWire fresh record.toWire).id = fresh := by
  simp [InboundMessage.ofWire, toWire, resolveMessageId, hId]

/-- The counter of a record, or a single delivery. -/
theorem counts_deliveryCount (record : SqsRecord) :
    Text.Counts (record.attributes.get? receiveCountAttribute) 1 record.deliveryCount.toNat := by
  change Text.Counts _ (1 : UInt32).toNat _
  exact Text.counts_iff.mpr rfl

theorem toNat_deliveryCount_ofWire (fresh : String) (record : SqsRecord) :
    (InboundMessage.ofWire fresh record.toWire).deliveryCount.toNat =
      max record.deliveryCount.toNat 1 :=
  record.toWire.toNat_delivery

/-- What an endpoint has of a record for which an identifier is at hand. -/
structure Arrives (record : SqsRecord) (fresh : String) (message : InboundMessage) : Prop where
  ownId : record.messageId ≠ "" → message.id = record.messageId
  freshId : record.messageId = "" → message.id = fresh
  named : message.id ≠ ""
  body : message.body = Text.utf8 record.body
  counted : ∀ text n, record.attributes.get? receiveCountAttribute = some text →
    Text.IsNumeral text n → 0 < n → n < UInt32.size → message.deliveryCount.toNat = n
  uncounted : (∀ text n, record.attributes.get? receiveCountAttribute = some text →
    Text.IsNumeral text n → n = 0 ∨ UInt32.size ≤ n) → message.deliveryCount = 1
  headers : ∀ name value, message.headers.get? name = some value ↔
    name ≠ Header.transportEncoding ∧ ∃ given,
      record.messageAttributes.get? name = some given ∧ given.stringValue = some value
  inAnyOrder : ∀ attributes messageAttributes, attributes.Perm record.attributes.entries →
    messageAttributes.Perm record.messageAttributes.entries →
    InboundMessage.ofWire fresh (record.wireAsListed attributes messageAttributes) = message
  /-- Nothing else of a record is read. -/
  unread : ∀ other : SqsRecord, other.messageId = record.messageId → other.body = record.body →
    other.attributes.get? receiveCountAttribute =
      record.attributes.get? receiveCountAttribute →
    (∀ name, other.text? name = record.text? name) →
    InboundMessage.ofWire fresh other.toWire = message

theorem arrives_ofWire_toWire (supply : IdentifierSupply) (record : SqsRecord) :
    record.Arrives supply.take.1 (InboundMessage.ofWire supply.take.1 record.toWire) where
  ownId hId := id_ofWire_toWire _ hId
  freshId hId := id_ofWire_toWire_of_empty _ hId
  named := by
    by_cases hId : record.messageId = ""
    · rw [id_ofWire_toWire_of_empty _ hId]
      exact identifier_ne_empty supply.next
    · rw [id_ofWire_toWire _ hId]
      exact hId
  body := rfl
  counted text n hText numeral hPos hFits := by
    have hCount : record.deliveryCount.toNat = n :=
      Text.counts_iff.mp (.inl ⟨text, hText, numeral, hFits⟩)
    rw [toNat_deliveryCount_ofWire, hCount, Nat.max_eq_left hPos]
  uncounted hUncounted := by
    have hCount : record.deliveryCount.toNat ≤ 1 := by
      rcases record.counts_deliveryCount with ⟨text, hText, numeral, hFits⟩ | ⟨hSingle, -⟩
      · rcases hUncounted text _ hText numeral with hZero | hTooLarge
        · exact hZero ▸ Nat.zero_le 1
        · exact absurd hFits (Nat.not_lt.mpr hTooLarge)
      · exact Nat.le_of_eq hSingle
    apply UInt32.toNat_inj.mp
    rw [toNat_deliveryCount_ofWire, Nat.max_eq_right hCount]
    rfl
  headers name value := by
    rw [get?_headers]
    by_cases hMarker : name = Header.transportEncoding
    · simp [hMarker]
    · simp [hMarker, text?, Option.bind_eq_some_iff]
  inAnyOrder _ _ hSystem hSender := by rw [wireAsListed_perm hSystem hSender]
  unread _ hId hBody hCount hTexts := by rw [toWire_congr hId hBody hCount hTexts]

/-- A blank address stays a header, since it comes in no native field. -/
example : (InboundMessage.ofWire "fresh" (toWire
    { messageAttributes := .ofList [(Header.replyToAddress, { stringValue := some " " }),
        (Header.correlationId, { dataType := "Binary" }),
        (Header.transportEncoding, { stringValue := some "text" })] })).headers =
    .ofList [(Header.replyToAddress, " ")] := by decide

end SqsRecord

end BusEndpoint
