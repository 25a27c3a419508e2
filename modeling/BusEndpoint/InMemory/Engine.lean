import BusEndpoint.InMemory.Session
import BusEndpoint.Json.Reader
import BusEndpoint.MessageType
/-!
A bus engine in memory. A message goes to the handler that is registered for
its type; a message whose processing failed is treated by the recoverability
settings: it is delivered again, deferred, or put into the error queue.
-/

namespace BusEndpoint.InMemory

variable {σ κ ς : Type}

/-- What a handler is given beside the message. -/
structure HandlerContext (σ : Type) where
  messageId : String
  headers : Headers
  session : Session σ

/-- A handler decodes the body of a message, and works on what it decoded. -/
abbrev Handler (σ : Type) :=
  Json → Except DecodeError (HandlerContext σ → Task σ (Except Failure Unit))

/-- The handler of the messages of one type. -/
def Handler.ofType {μ : Type} (decode : Decoder μ)
    (handle : μ → HandlerContext σ → Task σ (Except Failure Unit)) : Handler σ :=
  fun body => (decode body).map handle

/-- An engine and where it keeps its state. -/
structure EngineState (σ : Type) where
  transport : Slot σ Transport
  /-- How often the engine was started. -/
  starts : Slot σ Nat
  handlers : Dictionary (Handler σ) := .empty
  routes : Routes := .empty

namespace EngineState

/-- Register the handler of the messages of a type. One that was registered for the type before
is replaced. -/
def handle (engine : EngineState σ) (fullName : String) (handler : Handler σ) : EngineState σ :=
  { engine with handlers := engine.handlers.insert (MessageType.ofFullName fullName) handler }

/-- Route the messages of a type to an endpoint. -/
def route (engine : EngineState σ) (fullName endpoint : String) : EngineState σ :=
  { engine with routes := engine.routes.insert (MessageType.ofFullName fullName) endpoint }

end EngineState

/-- The pipeline of a started engine. -/
structure Receiver (σ κ : Type) where
  endpoint : String
  handlers : Dictionary (Handler σ)
  session : Session σ
  transport : Slot σ Transport
  recoverability : RecoverabilitySettings
  logBook : LogBook σ κ

/-- The name of the logger on which recoverability is logged. -/
def recoverabilityLogger : String := "hostbus.recoverability"

namespace Receiver

/-- Find the handler for a message and what it is to work on. -/
def select (receiver : Receiver σ κ) (context : MessageContext σ) :
    Except Failure (HandlerContext σ → Task σ (Except Failure Unit)) :=
  let messageType := (context.headers.get? Header.enclosedMessageTypes).getD ""
  match receiver.handlers.get? messageType with
  | none => .error (.bus (.noHandler messageType))
  | some handler =>
    match Json.read context.body with
    | .error error => .error (.malformed error.message)
    | .ok body => (handler body).mapError fun error => .malformed error.message

def onMessage (receiver : Receiver σ κ) (context : MessageContext σ) :
    Task σ (Except Failure Unit) :=
  match receiver.select context with
  | .error failure => return .error failure
  | .ok handle => handle ⟨context.messageId, context.headers, receiver.session⟩

/-- The message once more, with all headers as properties and some more. -/
def failedCopy (context : ErrorContext σ) (extra : List (String × String)) : WireMessage :=
  let headers := context.headers.insertAll extra
  { messageId := some context.messageId
    body := some context.body
    applicationProperties := headers.map Json.string }

/-- The log entry that tells of a decision. -/
def decisionEntry (context : ErrorContext σ) (reason : String) : RecoverabilityAction → LogEntry
  | .immediateRetry =>
    { level := .warn
      message := "Immediate retry for message \x7b\x7d (delivery \x7b\x7d)"
      args := some [context.messageId, Text.decimal context.deliveryCount.toNat] }
  | .delayedRetry attempt delay =>
    { level := .warn
      message := "Delayed retry " ++ Text.decimal attempt.toNat ++ " for message " ++
        context.messageId ++ " in " ++ delay.text
      error := some reason }
  | .moveToErrorQueue queue =>
    { level := .error
      message := "Moving message " ++ context.messageId ++ " to the error queue " ++ queue
      error := some reason }
  | .fail =>
    { level := .error
      message := "Message " ++ context.messageId ++
        " exhausted its retries and error queue routing is disabled"
      error := some reason }

/-- What a decision does to the transport, and its verdict. -/
def applyDecision (endpoint : String) (context : ErrorContext σ) (reason : String) :
    RecoverabilityAction → Transport → ErrorVerdict × Transport
  | .immediateRetry, transport | .fail, transport => (.retryRequired, transport)
  | .delayedRetry attempt delay, transport =>
    let copy := failedCopy context [(Header.delayedRetries, Text.decimal attempt.toNat)]
    (.handled, transport.schedule endpoint copy delay)
  | .moveToErrorQueue queue, transport =>
    let copy := failedCopy context
      [(Header.failedQueue, endpoint), (Header.exceptionMessage, reason)]
    (.handled, transport.enqueue queue copy)

variable [LogSink κ]

def onError (receiver : Receiver σ κ) (context : ErrorContext σ) : StateM σ ErrorVerdict := do
  let reason := context.error.message
  let action := receiver.recoverability.action context.deliveryCount context.headers
  receiver.logBook.log recoverabilityLogger (decisionEntry context reason action)
  receiver.transport.update (applyDecision receiver.endpoint context reason action)

def toPipeline (receiver : Receiver σ κ) : Pipeline σ where
  onMessage context _ := receiver.onMessage context
  onError context _ := do
    let verdict ← (receiver.onError context : StateM σ ErrorVerdict)
    return .ok verdict

end Receiver

/-- A started engine: which start it came from, and for what. -/
structure Instance where
  number : Nat
  configuration : Configuration
deriving DecidableEq

namespace EngineState

variable [Host σ] [LogSink κ]

def session (engine : EngineState σ) (endpoint : String) : Session σ :=
  (SessionState.mk engine.transport endpoint engine.routes).toSession

def receiver (engine : EngineState σ) (logBook : LogBook σ κ) (configuration : Configuration) :
    Receiver σ κ where
  endpoint := configuration.endpointName
  handlers := engine.handlers
  session := engine.session configuration.endpointName
  transport := engine.transport
  recoverability := configuration.recoverability
  logBook := logBook

/-- Count the start, and have the logger for recoverability at hand. -/
def start (engine : EngineState σ) (configuration : Configuration) (logBook : LogBook σ κ) :
    StateM σ Instance := do
  let number ← engine.starts.update fun n => (n + 1, n + 1)
  if !configuration.sendOnly then
    let _ ← logBook.perform (LoggerContext.getLogger recoverabilityLogger)
  return ⟨number, configuration⟩

def toEngine (engine : EngineState σ) : Engine σ κ ς Instance where
  start configuration _ logBook := do
    let started ← (engine.start configuration logBook : StateM σ Instance)
    return .ok started
  pipeline logBook started :=
    if started.configuration.sendOnly then none
    else some (engine.receiver logBook started.configuration).toPipeline
  session started := engine.session started.configuration.endpointName

end EngineState

end BusEndpoint.InMemory
