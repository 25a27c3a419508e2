import BusEndpoint.MessageType
import BusEndpoint.Start.Lazy
import BusEndpoint.Text.Utf8
/-!
The endpoint as a function host uses it. Every call first hands over the
logger of the invocation if no logging is attached yet, then has the engine
started, and then passes the work on.
-/

namespace BusEndpoint

/-- One invocation of a function by the host. -/
structure FunctionContext (κ : Type) where
  invocationId : String
  functionName : String
  logger : Option κ := none

namespace FunctionContext

variable {κ : Type}

/-- An invocation that the host has not given an identifier. -/
def begin {σ : Type} [Host σ] (functionName : String) (logger : Option κ) :
    StateM σ (FunctionContext κ) := do
  let invocationId ← Host.freshIdentifier
  return { invocationId, functionName, logger }

def line (context : FunctionContext κ) : String :=
  Text.recordLine "FunctionContext"
    [("invocation_id", Text.quoted context.invocationId),
      ("function_name", Text.quoted context.functionName),
      ("logger", Text.truth context.logger.isSome)]

end FunctionContext

/-- What an application sends: the name of its type, and its JSON form unless
it has none. -/
structure Payload where
  messageType : String
  body : Except String Json

/-- What is sent of a type with this full name. -/
def Payload.ofType (fullName : String) (body : Except String Json) : Payload :=
  ⟨MessageType.ofFullName fullName, body⟩

/-- A payload as a message that is ready to be sent. -/
def Payload.toMessage {σ : Type} [Host σ] (payload : Payload) :
    StateM σ (Except BusError OutgoingMessage) := do
  let id ← Host.freshIdentifier
  match payload.body with
  | .error reason => return .error (.serialization reason)
  | .ok body => return .ok (.ofJson id (Host.clock (← get)) payload.messageType body)

structure FunctionEndpoint (σ κ ς ι : Type) extends LazyStart σ κ ς ι

namespace FunctionEndpoint

variable {σ κ ς ι : Type}

/-- An endpoint needs a configuration and an engine. -/
def build (configuration : Option Configuration) (engine : Option (Engine σ κ ς ι))
    (services : ς) (logBook : LogBook σ κ) (gate : Slot σ (StartGate ι)) :
    Except BusError (FunctionEndpoint σ κ ς ι) :=
  match configuration, engine with
  | none, _ => .error (.configuration "endpoint configuration is required")
  | some _, none => .error (.configuration "bus engine is required")
  | some configuration, some engine => .ok { engine, configuration, services, logBook, gate }

def line (endpoint : FunctionEndpoint σ κ ς ι) (s : σ) : String :=
  Text.recordLine "FunctionEndpoint" [("lazy", endpoint.toLazyStart.line s)]

variable [Host σ] [LogSink κ]

/-- Make the logger of an invocation the destination of all logging, unless
there is one. -/
def attachLogger (endpoint : FunctionEndpoint σ κ ς ι) (context : FunctionContext κ) :
    StateM σ Unit := do
  match context.logger with
  | some sink => if !(endpoint.logBook.context.get (← get)).isAttached then
      let _ ← endpoint.logBook.tryAttachSink sink
  | none => return ()

/-- Process a message under a strategy. An endpoint that only sends refuses it
before anything else is looked at. -/
def processWith (endpoint : FunctionEndpoint σ κ ς ι) (message : WireMessage)
    (strategy : TransactionStrategy σ) (context : FunctionContext κ)
    (cancel : CancellationToken σ) : Task σ (Except BusError Unit) := do
  endpoint.attachLogger context
  if endpoint.configuration.sendOnly then return .error .sendOnly
  let fresh ← (Host.freshIdentifier : StateM σ String)
  let inbound := InboundMessage.ofWire fresh message
  Task.span "process"
    [("endpoint", .text endpoint.configuration.endpointName),
      ("function", .text context.functionName),
      ("invocation_id", .text context.invocationId), ("message_id", .text inbound.id)]
  match ← endpoint.ensureStarted cancel with
  | .error error => return .error error
  | .ok started => (endpoint.binding started).process inbound strategy cancel

/-- Process a message without transactions. -/
def process (endpoint : FunctionEndpoint σ κ ς ι) (message : WireMessage)
    (context : FunctionContext κ) (cancel : CancellationToken σ) :
    Task σ (Except BusError Unit) :=
  endpoint.processWith message .none context cancel

/-- Do outbound work in the session of the started engine. -/
def inSession (endpoint : FunctionEndpoint σ κ ς ι) (context : FunctionContext κ)
    (cancel : CancellationToken σ) (work : Session σ → Task σ (Except BusError Unit)) :
    Task σ (Except BusError Unit) := do
  endpoint.attachLogger context
  match ← endpoint.ensureStarted cancel with
  | .error error => return .error error
  | .ok started => work (endpoint.engine.session started)

/-- Do outbound work with a payload. -/
def withPayload (payload : Payload) (work : OutgoingMessage → Task σ (Except BusError Unit)) :
    Task σ (Except BusError Unit) := do
  match ← (payload.toMessage : StateM σ (Except BusError OutgoingMessage)) with
  | .error error => return .error error
  | .ok message => work message

def send (endpoint : FunctionEndpoint σ κ ς ι) (payload : Payload) (options : SendOptions)
    (context : FunctionContext κ) (cancel : CancellationToken σ) :
    Task σ (Except BusError Unit) :=
  endpoint.inSession context cancel fun session =>
    withPayload payload fun message => session.send message options cancel

def publish (endpoint : FunctionEndpoint σ κ ς ι) (payload : Payload) (options : PublishOptions)
    (context : FunctionContext κ) (cancel : CancellationToken σ) :
    Task σ (Except BusError Unit) :=
  endpoint.inSession context cancel fun session =>
    withPayload payload fun message => session.publish message options cancel

def subscribe (endpoint : FunctionEndpoint σ κ ς ι) (event : String)
    (options : SubscribeOptions) (context : FunctionContext κ) (cancel : CancellationToken σ) :
    Task σ (Except BusError Unit) :=
  endpoint.inSession context cancel fun session => session.subscribe event options cancel

def unsubscribe (endpoint : FunctionEndpoint σ κ ς ι) (event : String)
    (options : SubscribeOptions) (context : FunctionContext κ) (cancel : CancellationToken σ) :
    Task σ (Except BusError Unit) :=
  endpoint.inSession context cancel fun session => session.unsubscribe event options cancel

end FunctionEndpoint

end BusEndpoint
