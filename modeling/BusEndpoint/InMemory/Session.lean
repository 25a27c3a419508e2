import BusEndpoint.Engine
import BusEndpoint.InMemory.Transport
/-!
Outbound work of an endpoint on the queues in memory. A message is stamped
with the name of the sending endpoint, and goes to the destination of the
options or to the one routed for its type. Work that fails leaves the
transport as it was.
-/

namespace BusEndpoint

/-- Destinations by message type. -/
abbrev Routes := Dictionary String

namespace OutgoingMessage

def setHeader (message : OutgoingMessage) (name value : String) : OutgoingMessage :=
  { message with headers := message.headers.insert name value }

def extendHeaders (message : OutgoingMessage) (headers : Headers) : OutgoingMessage :=
  { message with headers := message.headers.extend headers }

/-- Mark a message as sent by an endpoint. A reply address that is set
stays. -/
def stamp (message : OutgoingMessage) (endpoint : String) : OutgoingMessage :=
  let marked := message.setHeader Header.originatingEndpoint endpoint
  if marked.headers.contains Header.replyToAddress then marked
  else marked.setHeader Header.replyToAddress endpoint

/-- Set a header from an option, if the option is given. -/
def setOption (message : OutgoingMessage) (name : String) (value : Option String) :
    OutgoingMessage :=
  match value with
  | some text => message.setHeader name text
  | none => message

/-- The message as it is sent by an endpoint under these options. -/
def prepare (message : OutgoingMessage) (options : SendOptions) (endpoint : String) :
    OutgoingMessage :=
  (((message.extendHeaders options.headers).setOption Header.correlationId
    options.correlationId).setOption Header.replyToAddress options.replyTo).stamp endpoint

end OutgoingMessage

/-- Where a message of this type goes, if that is known. -/
def SendOptions.resolve (options : SendOptions) (routes : Routes) (messageType : String) :
    Option String :=
  options.destination.or (routes.get? messageType)

namespace InMemory

variable {σ : Type} [Host σ]

/-- The session of an endpoint. -/
structure SessionState (σ : Type) where
  transport : Slot σ Transport
  endpoint : String
  routes : Routes

namespace SessionState

def send (session : SessionState σ) (message : OutgoingMessage) (options : SendOptions) :
    StateM σ (Except BusError Unit) := do
  match options.resolve session.routes message.messageType with
  | none =>
    return .error (.routing ("no destination configured for message type " ++
      message.messageType))
  | some destination =>
    Host.event .debug
      [("endpoint", .text session.endpoint), ("destination", .text destination),
        ("message_type", .text message.messageType)]
      "sending message"
    modify (session.transport.modify
      (·.enqueue destination (message.prepare options session.endpoint).toWire))
    return .ok ()

def publish (session : SessionState σ) (message : OutgoingMessage) (options : PublishOptions) :
    StateM σ (Except BusError Unit) := do
  let wire := ((message.extendHeaders options.headers).stamp session.endpoint).toWire
  modify (session.transport.modify fun t =>
    t.enqueueAll (t.subscribers message.messageType) wire)
  return .ok ()

def subscribe (session : SessionState σ) (event : String) : StateM σ (Except BusError Unit) := do
  modify (session.transport.modify (·.subscribe event session.endpoint))
  return .ok ()

def unsubscribe (session : SessionState σ) (event : String) :
    StateM σ (Except BusError Unit) := do
  modify (session.transport.modify (·.unsubscribe event session.endpoint))
  return .ok ()

/-- Do the work unless the call has been cancelled. -/
def guarded (cancel : CancellationToken σ) (work : StateM σ (Except BusError Unit)) :
    Task σ (Except BusError Unit) := do
  if ← Task.observe cancel then return .error .cancelled
  work

def toSession (session : SessionState σ) : Session σ where
  send message options cancel := guarded cancel (session.send message options)
  publish message options cancel := guarded cancel (session.publish message options)
  subscribe event _ cancel := guarded cancel (session.subscribe event)
  unsubscribe event _ cancel := guarded cancel (session.unsubscribe event)

end SessionState

end InMemory

end BusEndpoint
