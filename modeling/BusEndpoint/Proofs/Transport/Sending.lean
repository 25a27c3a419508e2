import BusEndpoint.InMemory.HostState
import BusEndpoint.Proofs.Messages.Headers

/-! Sending on the queues in memory. A message that is sent is put at the back of
one queue, and its receiver finds there the headers that the options, the
message and the sender have set, each from the first of these that has one. -/

namespace BusEndpoint

/-- Reports to the host leave this part of its state alone. -/
def Slot.Unreported {σ α : Type} [Host σ] (slot : Slot σ α) : Prop :=
  ∀ diagnostic s, slot.get (Host.report diagnostic s) = slot.get s

namespace Transport

/-- A message is put at the back of some queues, once in each, and nothing else
is changed. -/
structure Gains (before after : Transport) (message : WireMessage) (gains : String → Prop) :
    Prop where
  gained : ∀ queue, gains queue → after.contents queue = before.contents queue ++ [message]
  others : ∀ queue, ¬gains queue → after.contents queue = before.contents queue
  deferred : after.deferred = before.deferred
  subscriptions : after.subscriptions = before.subscriptions

theorem gains_enqueue (transport : Transport) (queue : String) (message : WireMessage) :
    transport.Gains (transport.enqueue queue message) message (· = queue) where
  gained other hOther := by rw [contents_enqueue, if_pos hOther.symm]
  others other hOther := by rw [contents_enqueue, if_neg (Ne.symm hOther)]
  deferred := rfl
  subscriptions := rfl

end Transport

/-- What a receiver finds in a message that an endpoint has sent, beside its
identifier. -/
structure OutgoingMessage.Arrives (message : OutgoingMessage) (options : SendOptions)
    (endpoint : String) (inbound : InboundMessage) : Prop where
  body : inbound.body = message.body
  deliveryCount : inbound.deliveryCount = 1
  originatingEndpoint : inbound.header? Header.originatingEndpoint = some endpoint
  correlationId : inbound.header? Header.correlationId =
    (options.correlationId.or ((options.headers.get? Header.correlationId).or
      (message.headers.get? Header.correlationId))).bind Text.nonBlank
  replyToAddress : inbound.header? Header.replyToAddress =
    Text.nonBlank ((options.replyTo.or ((options.headers.get? Header.replyToAddress).or
      (message.headers.get? Header.replyToAddress))).getD endpoint)
  transportEncoding : inbound.header? Header.transportEncoding = none
  others : ∀ name, name ≠ Header.originatingEndpoint → name ≠ Header.correlationId →
    name ≠ Header.replyToAddress → name ≠ Header.transportEncoding →
      inbound.header? name = (options.headers.get? name).or (message.headers.get? name)

open OutgoingMessage in
theorem OutgoingMessage.arrives (message : OutgoingMessage) (options : SendOptions)
    (endpoint fresh : String) :
    message.Arrives options endpoint
      (InboundMessage.ofWire fresh (message.prepare options endpoint).toWire) := by
  have hHeader (name : String) :
      (InboundMessage.ofWire fresh (message.prepare options endpoint).toWire).header? name =
        Header.carried (message.prepare options endpoint).headers name :=
    get?_ofWire_toWire ..
  constructor
  · rw [body_ofWire_toWire, prepare_eq]
  · exact deliveryCount_ofWire_toWire ..
  · rw [hHeader, Header.carried, get?_prepare]
    rfl
  · rw [hHeader, Header.carried, get?_prepare]
    rfl
  · rw [hHeader, Header.carried, get?_prepare]
    rfl
  · rw [hHeader]
    rfl
  · intro name hOrigin hCorrelation hReply hEncoding
    rw [hHeader, Header.carried, get?_prepare]
    simp [isNative, hOrigin.symm, hCorrelation, hCorrelation.symm, hReply, hReply.symm, hEncoding]

namespace InMemory.SessionState

variable {σ : Type} {cancel : CancellationToken σ} {s : σ}

section Guarded

variable {work : StateM σ (Except BusError Unit)}

theorem poll_guarded_of_cancelled (hCancel : cancel s = true) :
    (guarded cancel work).poll s = (.finished (.error .cancelled), s) := by
  change (if cancel s then (Task.done (.error .cancelled) : Task σ (Except BusError Unit))
    else _).poll s = _
  rw [if_pos hCancel]
  rfl

theorem poll_guarded_of_going (hCancel : cancel s = false) :
    (guarded cancel work).poll s = (.finished (work s).1, (work s).2) := by
  change (if cancel s then _ else Task.perform work : Task σ _).poll s = _
  rw [if_neg (by simp [hCancel])]
  rfl

end Guarded

/-- An event is put into the queues of all its subscribers. -/
theorem get_publish (session : SessionState σ) (message : OutgoingMessage)
    (options : PublishOptions) (s : σ) :
    session.transport.get (session.publish message options s).2 =
      (session.transport.get s).enqueueAll
        ((session.transport.get s).subscribers message.messageType)
        (message.prepare { headers := options.headers } session.endpoint).toWire :=
  session.transport.get_set _ _

variable [Host σ]

/-- A message with a destination is put into the queue there. -/
theorem send_of_resolve (session : SessionState σ) (hUnreported : session.transport.Unreported)
    {message : OutgoingMessage} {options : SendOptions} {queue : String}
    (hQueue : options.resolve session.routes message.messageType = some queue) (s : σ) :
    (session.send message options s).1 = .ok () ∧
      session.transport.get (session.send message options s).2 =
        (session.transport.get s).enqueue queue
          (message.prepare options session.endpoint).toWire := by
  rw [send, hQueue]
  refine ⟨rfl, (session.transport.get_set _ _).trans ?_⟩
  exact congrArg (Transport.enqueue queue _) (hUnreported _ s)

/-- A message that is sent arrives in one queue, the one of the options or else the
one of the routes, and there is found to be as it was sent. -/
theorem send_delivers (session : SessionState σ) (hUnreported : session.transport.Unreported)
    (message : OutgoingMessage) (hId : message.messageId ≠ "") (options : SendOptions)
    (cancel : CancellationToken σ) (s : σ) (hCancel : cancel s = false) (queue : String)
    (hQueue : options.destination = some queue ∨
      options.destination = none ∧ session.routes.get? message.messageType = some queue) :
    ∃ wire t, (session.toSession.send message options cancel).poll s = (.finished (.ok ()), t) ∧
      (session.transport.get s).Gains (session.transport.get t) wire (· = queue) ∧
      ∀ fresh, (InboundMessage.ofWire fresh wire).id = message.messageId ∧
        message.Arrives options session.endpoint (InboundMessage.ofWire fresh wire) := by
  have hResolved : options.resolve session.routes message.messageType = some queue := by
    rcases hQueue with hGiven | ⟨hAbsent, hRoute⟩
    · rw [SendOptions.resolve, hGiven, Option.some_or]
    · rw [SendOptions.resolve, hAbsent, Option.none_or, hRoute]
  obtain ⟨hAnswer, hTransport⟩ := session.send_of_resolve hUnreported hResolved s
  refine ⟨(message.prepare options session.endpoint).toWire, (session.send message options s).2,
    ?_, ?_, ?_⟩
  · rw [← hAnswer]
    exact poll_guarded_of_going hCancel
  · rw [hTransport]
    exact Transport.gains_enqueue ..
  · intro fresh
    exact ⟨OutgoingMessage.id_ofWire_prepare fresh hId, message.arrives options _ fresh⟩

open HostState in
/-- A destination goes before a route, and a sender before what the application
says of it. -/
theorem send_delivers_destination :
    let session : SessionState HostState := ⟨queues, "sales", .ofList [("Order", "orders")]⟩
    let message : OutgoingMessage :=
      ⟨"1", "Order", [], .ofList [(Header.originatingEndpoint, "a"), (Header.replyToAddress, " ")]⟩
    let options : SendOptions := { destination := some "billing", correlationId := some "c" }
    ∃ wire t, (session.toSession.send message options (isCancelled "call")).poll {} =
        (.finished (.ok ()), t) ∧
      Transport.Gains {} t.transport wire (· = "billing") ∧
      ∀ fresh, (InboundMessage.ofWire fresh wire).id = "1" ∧
        message.Arrives options "sales" (InboundMessage.ofWire fresh wire) := by
  intro session message options
  exact send_delivers session (fun _ _ => rfl) message (by decide) options _ {} rfl "billing"
    (.inl rfl)

end InMemory.SessionState

end BusEndpoint
