import BusEndpoint.InMemory.Session
import BusEndpoint.Message.Inbound

/-! Headers on their way. What becomes of a header that an application or an
endpoint sets is followed by looking it up: in the message that is prepared for
sending, and in the message that a receiver makes of the one on the wire. -/

namespace BusEndpoint

namespace Header

theorem replyToAddress_ne_correlationId : replyToAddress ≠ correlationId := by decide

theorem replyToAddress_ne_transportEncoding : replyToAddress ≠ transportEncoding := by decide

theorem correlationId_ne_transportEncoding : correlationId ≠ transportEncoding := by decide

theorem originatingEndpoint_ne_replyToAddress : originatingEndpoint ≠ replyToAddress := by decide

/-- A native field that is not blank goes before the property of its name. -/
theorem get?_translate (properties : Dictionary Json) (replyTo correlation : Option String)
    (name : String) :
    (translate properties replyTo correlation).get? name =
      if name = transportEncoding then none
      else if name = replyToAddress then
        (replyTo.bind Text.nonBlank).or ((properties.get? name).map ofProperty)
      else if name = correlationId then
        (correlation.bind Text.nonBlank).or ((properties.get? name).map ofProperty)
      else (properties.get? name).map ofProperty := by
  have hKept : ((properties.filter fun name _ => !decide (name = transportEncoding)).map
      ofProperty).get? name =
        if name = transportEncoding then none else (properties.get? name).map ofProperty := by
    rw [Dictionary.get?_map, Dictionary.get?_filter]
    cases properties.get? name <;> by_cases h : name = transportEncoding <;> simp [h]
  rw [translate, get?_setNative, get?_setNative, hKept]
  by_cases hEncoding : name = transportEncoding
  · subst hEncoding
    rw [if_neg correlationId_ne_transportEncoding, if_neg replyToAddress_ne_transportEncoding]
    rfl
  · by_cases hReply : name = replyToAddress
    · subst hReply
      simp [replyToAddress_ne_correlationId.symm, hEncoding]
    · simp only [hEncoding, hReply, Ne.symm hReply, eq_comm, if_false]

/-- Headers that are properties are translated into themselves, but for what the native
fields set. -/
theorem translate_texts {headers : Headers} (unmarked : headers.get? transportEncoding = none)
    (replyTo correlation : Option String) :
    translate (headers.map .string) replyTo correlation =
      setNative correlationId correlation (setNative replyToAddress replyTo headers) := by
  have hKept : ((headers.map Json.string).filter fun name _ =>
      !decide (name = transportEncoding)).map ofProperty = headers := by
    apply Dictionary.ext_get?
    intro name
    rw [Dictionary.get?_map, Dictionary.get?_filter, Dictionary.get?_map]
    by_cases hEncoding : name = transportEncoding
    · subst hEncoding
      simp [unmarked]
    · cases headers.get? name <;> simp [hEncoding, ofProperty]
  rw [translate, hKept]

/-- What a receiver finds of the headers of a message that was sent: not the
marker of the transport, and the native ones only if they are not blank. -/
def carried (headers : Headers) (name : String) : Option String :=
  if name = transportEncoding then none
  else if OutgoingMessage.isNative name then (headers.get? name).bind Text.nonBlank
  else headers.get? name

end Header

open Header

namespace OutgoingMessage

variable {message : OutgoingMessage}

theorem get?_properties_toWire (message : OutgoingMessage) (name : String) :
    message.toWire.applicationProperties.get? name =
      if name = transportEncoding then some (.string octetStream)
      else if isNative name then none
      else (message.headers.get? name).map .string := by
  simp only [toWire, Dictionary.get?_insert, Dictionary.get?_map, Dictionary.get?_filter,
    @eq_comm _ transportEncoding]
  cases message.headers.get? name <;> cases isNative name <;> simp [Option.filter]

/-- A receiver finds the headers of the sender. -/
theorem get?_ofWire_toWire (fresh : String) (message : OutgoingMessage) (name : String) :
    (InboundMessage.ofWire fresh message.toWire).headers.get? name =
      carried message.headers name := by
  rw [InboundMessage.ofWire, get?_translate, get?_properties_toWire, carried]
  by_cases hEncoding : name = transportEncoding
  · rw [if_pos hEncoding, if_pos hEncoding]
  · by_cases hReply : name = replyToAddress
    · subst hReply
      simp [hEncoding, isNative, toWire]
    · by_cases hCorrelation : name = correlationId
      · subst hCorrelation
        simp [hEncoding, hReply, isNative, toWire]
      · cases message.headers.get? name <;>
          simp [hEncoding, hReply, hCorrelation, isNative, ofProperty]

theorem id_ofWire_toWire (fresh : String) (hId : message.messageId ≠ "") :
    (InboundMessage.ofWire fresh message.toWire).id = message.messageId :=
  if_neg hId

theorem body_ofWire_toWire (fresh : String) (message : OutgoingMessage) :
    (InboundMessage.ofWire fresh message.toWire).body = message.body := rfl

theorem deliveryCount_ofWire_toWire (fresh : String) (message : OutgoingMessage) :
    (InboundMessage.ofWire fresh message.toWire).deliveryCount = 1 := rfl

theorem get?_setHeader (message : OutgoingMessage) (name value query : String) :
    (message.setHeader name value).headers.get? query =
      if name = query then some value else message.headers.get? query :=
  Dictionary.get?_insert ..

theorem get?_extendHeaders (message : OutgoingMessage) (headers : Headers) (query : String) :
    (message.extendHeaders headers).headers.get? query =
      (headers.get? query).or (message.headers.get? query) :=
  Dictionary.get?_extend ..

theorem get?_setOption (message : OutgoingMessage) (name : String) (value : Option String)
    (query : String) :
    (message.setOption name value).headers.get? query =
      if name = query then value.or (message.headers.get? query)
      else message.headers.get? query := by
  cases value with
  | none => simp [setOption]
  | some text => exact get?_setHeader ..

/-- A message is marked with its sender, who also takes the replies unless
somebody else does. -/
theorem get?_stamp (message : OutgoingMessage) (endpoint query : String) :
    (message.stamp endpoint).headers.get? query =
      if originatingEndpoint = query then some endpoint
      else if replyToAddress = query then some ((message.headers.get? query).getD endpoint)
      else message.headers.get? query := by
  have hMarked (name : String) :
      (message.setHeader originatingEndpoint endpoint).headers.get? name =
        if originatingEndpoint = name then some endpoint else message.headers.get? name :=
    get?_setHeader ..
  have hReply : (message.setHeader originatingEndpoint endpoint).headers.get? replyToAddress =
      message.headers.get? replyToAddress := by
    rw [hMarked, if_neg originatingEndpoint_ne_replyToAddress]
  rw [stamp, Dictionary.contains, hReply]
  by_cases hQuery : replyToAddress = query
  · subst hQuery
    rw [if_neg originatingEndpoint_ne_replyToAddress, if_pos rfl]
    cases hAddress : message.headers.get? replyToAddress with
    | some address => exact hReply.trans hAddress
    | none => exact Dictionary.get?_insert_self ..
  · rw [if_neg hQuery, ← hMarked query]
    cases message.headers.get? replyToAddress with
    | some address => rfl
    | none => exact (get?_setHeader ..).trans (if_neg hQuery)

/-- Every header of a prepared message has one source that goes before the
others. -/
theorem get?_prepare (message : OutgoingMessage) (options : SendOptions)
    (endpoint query : String) :
    (message.prepare options endpoint).headers.get? query =
      let given := (options.headers.get? query).or (message.headers.get? query)
      if originatingEndpoint = query then some endpoint
      else if replyToAddress = query then some ((options.replyTo.or given).getD endpoint)
      else if correlationId = query then options.correlationId.or given
      else given := by
  simp only [prepare, get?_stamp, get?_setOption, get?_extendHeaders]
  by_cases hReply : replyToAddress = query
  · subst hReply
    simp [replyToAddress_ne_correlationId.symm]
  · simp only [hReply, if_false]

theorem setOption_eq (message : OutgoingMessage) (name : String) (value : Option String) :
    message.setOption name value =
      { message with headers := (message.setOption name value).headers } := by
  cases value <;> rfl

theorem stamp_eq (message : OutgoingMessage) (endpoint : String) :
    message.stamp endpoint = { message with headers := (message.stamp endpoint).headers } := by
  simp only [stamp]
  split <;> rfl

/-- Nothing but the headers is changed. -/
theorem prepare_eq (message : OutgoingMessage) (options : SendOptions) (endpoint : String) :
    message.prepare options endpoint =
      { message with headers := (message.prepare options endpoint).headers } := by
  rw [prepare, stamp_eq, setOption_eq _ replyToAddress, setOption_eq _ correlationId]
  rfl

/-- A message keeps its identifier, unless that is empty. -/
theorem id_ofWire_prepare {options : SendOptions} {endpoint : String} (fresh : String)
    (hId : message.messageId ≠ "") :
    (InboundMessage.ofWire fresh (message.prepare options endpoint).toWire).id =
      message.messageId := by
  rw [prepare_eq]
  exact id_ofWire_toWire fresh hId

end OutgoingMessage

end BusEndpoint
