import BusEndpoint.Pipeline
/-!
What the scripted parts of an endpoint see when they are called. The
observations of a run, in order, tell how the rest of the endpoint behaved.
-/

namespace BusEndpoint.InMemory

/-- A message as a pipeline is given it. -/
structure Sighting where
  messageId : String
  headers : Headers
  body : Bytes
  tokenId : String
  /-- The pipeline takes part in a native transaction. -/
  isEnlisted : Bool
deriving DecidableEq

inductive Observation where
  | message (seen : Sighting)
  | failedMessage (seen : Sighting) (deliveryCount : UInt32) (error : Failure)
  /-- A handler is called with what it decoded. -/
  | handling (messageType : String) (message : Json) (messageId : String) (headers : Headers)
  | transactionBegun (number : Nat)
  | transactionCommitting (number : Nat)
  | transactionRolledBack (number : Nat)
  /-- The completion step is called for a transaction. -/
  | transactionCompleting (call : Nat) (transactionId : String)
  /-- An engine is called to start; it may see how far the start has come. -/
  | engineStarting (number : Nat) (endpoint : String) (services : Nat) (state : Option String)
  | engineStarted (number : Nat) (line : String)

def Sighting.ofMessage {σ : Type} (context : MessageContext σ) : Sighting where
  messageId := context.messageId
  headers := context.headers
  body := context.body
  tokenId := context.token.id
  isEnlisted := context.token.native.isSome

def Sighting.ofFailedMessage {σ : Type} (context : ErrorContext σ) : Sighting where
  messageId := context.messageId
  headers := context.headers
  body := context.body
  tokenId := context.token.id
  isEnlisted := context.token.native.isSome

end BusEndpoint.InMemory
