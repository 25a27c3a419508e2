import BusEndpoint.Message.Inbound
import BusEndpoint.Transaction.Basic
/-!
The two entry points of an engine: one for a message, and one for a message
whose first processing failed.
-/

namespace BusEndpoint

structure MessageContext (σ : Type) where
  messageId : String
  headers : Headers
  body : Bytes
  token : TransportToken σ

/-- A message with the failure of its first processing. -/
structure ErrorContext (σ : Type) where
  error : Failure
  messageId : String
  headers : Headers
  body : Bytes
  token : TransportToken σ
  deliveryCount : UInt32

/-- What becomes of a message after its failure was looked at. -/
inductive ErrorVerdict where
  /-- Nothing is left to be done. -/
  | handled
  /-- The host is to deliver the message again. -/
  | retryRequired
deriving DecidableEq

structure Pipeline (σ : Type) where
  onMessage : MessageContext σ → CancellationToken σ → Task σ (Except Failure Unit)
  onError : ErrorContext σ → CancellationToken σ → Task σ (Except Failure ErrorVerdict)

namespace InboundMessage

variable {σ : Type}

def context (message : InboundMessage) (token : TransportToken σ) : MessageContext σ where
  messageId := message.id
  headers := message.headers
  body := message.body
  token := token

def errorContext (message : InboundMessage) (error : Failure) (token : TransportToken σ) :
    ErrorContext σ where
  error := error
  messageId := message.id
  headers := message.headers
  body := message.body
  token := token
  deliveryCount := message.deliveryCount

end InboundMessage

end BusEndpoint
