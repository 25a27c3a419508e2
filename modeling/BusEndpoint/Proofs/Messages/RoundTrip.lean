import BusEndpoint.Proofs.Messages.Headers

/-! A message there and back. The sender moves two headers into native fields
and marks the encoding; the receiver moves the fields back and drops the
marker. The two sides know nothing of each other, so what cancels and what does
not is compared header by header, and the comparison is lifted to the whole
dictionaries at the end. -/

namespace BusEndpoint

namespace Header

/-- Remove a header if its value is blank. -/
def dropBlank (name : String) (headers : Headers) : Headers :=
  headers.filter fun other value => !(decide (other = name) && Text.isBlank value)

/-- The headers that are left of these when their message has arrived. -/
def arriving (headers : Headers) : Headers :=
  dropBlank correlationId (dropBlank replyToAddress (headers.erase transportEncoding))

/-- The header is absent, or there is something in it. -/
def NotBlank (headers : Headers) (name : String) : Prop :=
  ∀ value, headers.get? name = some value → Text.isBlank value = false

/-- Headers that arrive as they were sent. -/
structure Portable (headers : Headers) : Prop where
  unmarked : headers.contains transportEncoding = false
  replyTo : NotBlank headers replyToAddress
  correlation : NotBlank headers correlationId

variable {headers : Headers}

theorem get?_dropBlank (headers : Headers) (name query : String) :
    (dropBlank name headers).get? query =
      if query = name then (headers.get? query).bind Text.nonBlank else headers.get? query := by
  rw [dropBlank, Dictionary.get?_filter]
  cases headers.get? query with
  | none => simp
  | some value =>
    by_cases hName : query = name
    · cases hBlank : Text.isBlank value <;> simp [Option.filter, Text.nonBlank, hName, hBlank]
    · simp [Option.filter, hName]

/-- One header at a time, those that arrive are those that a receiver finds. -/
theorem get?_arriving (headers : Headers) (name : String) :
    (arriving headers).get? name = carried headers name := by
  simp only [arriving, get?_dropBlank, Dictionary.get?_erase, carried,
    @eq_comm _ transportEncoding]
  by_cases hEncoding : name = transportEncoding
  · subst hEncoding
    simp
  · by_cases hReply : name = replyToAddress
    · subst hReply
      simp [hEncoding, replyToAddress_ne_correlationId, OutgoingMessage.isNative]
    · simp [hEncoding, hReply, OutgoingMessage.isNative]

theorem bind_nonBlank_eq_self_iff {value : Option String} :
    value.bind Text.nonBlank = value ↔
      ∀ text, value = some text → Text.isBlank text = false := by
  cases value with
  | none => simp
  | some text => simp [Text.nonBlank_eq_some]

theorem notBlank_of_carried {name : String} (hNative : OutgoingMessage.isNative name = true)
    (hEncoding : name ≠ transportEncoding)
    (h : carried headers name = headers.get? name) : NotBlank headers name := by
  rw [carried, if_neg hEncoding, if_pos hNative] at h
  exact bind_nonBlank_eq_self_iff.mp h

/-- Headers arrive unchanged exactly if they are portable. -/
theorem arriving_eq_self_iff : arriving headers = headers ↔ Portable headers := by
  constructor
  · intro h
    have hCarried (name : String) : carried headers name = headers.get? name := by
      rw [← get?_arriving, h]
    refine ⟨?_, ?_, ?_⟩
    · rw [Dictionary.contains, ← hCarried, carried, if_pos rfl, Option.isSome_none]
    · exact notBlank_of_carried rfl replyToAddress_ne_transportEncoding (hCarried _)
    · exact notBlank_of_carried rfl correlationId_ne_transportEncoding (hCarried _)
  · rintro ⟨hUnmarked, hReply, hCorrelation⟩
    refine Dictionary.ext_get? fun name => ?_
    rw [get?_arriving, carried]
    split
    next hEncoding =>
      subst hEncoding
      exact (Option.isNone_iff_eq_none.mp (by simpa [Dictionary.contains] using hUnmarked)).symm
    next =>
      split
      next hNative =>
        obtain rfl | rfl : name = replyToAddress ∨ name = correlationId := by
          simpa [OutgoingMessage.isNative] using hNative
        · exact bind_nonBlank_eq_self_iff.mpr hReply
        · exact bind_nonBlank_eq_self_iff.mpr hCorrelation
      next => rfl

end Header

namespace OutgoingMessage

variable {message : OutgoingMessage}

theorem headers_ofWire_toWire (fresh : String) (message : OutgoingMessage) :
    (InboundMessage.ofWire fresh message.toWire).headers = Header.arriving message.headers :=
  Dictionary.ext_get? fun name => by rw [get?_ofWire_toWire, Header.get?_arriving]

/-- The native headers are in their fields only. -/
theorem contains_properties_toWire {name : String} (hNative : isNative name = true)
    (hEncoding : name ≠ Header.transportEncoding) :
    message.toWire.applicationProperties.contains name = false := by
  rw [Dictionary.contains, get?_properties_toWire, if_neg hEncoding, if_pos hNative,
    Option.isSome_none]

/-- What a receiver has of a message that was sent, and what the wire had of
it. -/
structure RoundTrips (message : OutgoingMessage) (received : InboundMessage) : Prop where
  id : received.id = message.messageId
  body : received.body = message.body
  first : received.deliveryCount = 1
  headers : received.headers = Header.arriving message.headers
  unchanged : received.headers = message.headers ↔ Header.Portable message.headers
  replyToMoved :
    message.toWire.applicationProperties.contains Header.replyToAddress = false
  correlationMoved :
    message.toWire.applicationProperties.contains Header.correlationId = false

/-- A message that has an identifier arrives with it, with its body, and with
its headers but for the marker of the transport and blank addresses. -/
theorem roundTrips_ofWire_toWire (fresh : String) (message : OutgoingMessage)
    (hId : message.messageId ≠ "") :
    message.RoundTrips (InboundMessage.ofWire fresh message.toWire) where
  id := id_ofWire_toWire fresh hId
  body := body_ofWire_toWire fresh message
  first := deliveryCount_ofWire_toWire fresh message
  headers := headers_ofWire_toWire fresh message
  unchanged := by rw [headers_ofWire_toWire, Header.arriving_eq_self_iff]
  replyToMoved := contains_properties_toWire rfl Header.replyToAddress_ne_transportEncoding
  correlationMoved := contains_properties_toWire rfl Header.correlationId_ne_transportEncoding

/-- An answer that went through another transport, which left its marker. It
belongs to no conversation. -/
def relayed : OutgoingMessage where
  messageId := "answer-7"
  messageType := "Answer"
  body := Text.utf8 "yes"
  headers := .ofList
    [(Header.replyToAddress, "desk"), (Header.correlationId, " "),
      (Header.transportEncoding, "text/plain"), ("Urgent", "")]

theorem relayed_roundTrips :
    relayed.RoundTrips (InboundMessage.ofWire "fresh" relayed.toWire) ∧
      Header.arriving relayed.headers =
        .ofList [(Header.replyToAddress, "desk"), ("Urgent", "")] :=
  ⟨roundTrips_ofWire_toWire "fresh" relayed (by decide), by decide⟩

end OutgoingMessage

end BusEndpoint
