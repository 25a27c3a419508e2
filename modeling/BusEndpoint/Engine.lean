import BusEndpoint.Configuration
import BusEndpoint.Logging.Sink
import BusEndpoint.Message.Outgoing
import BusEndpoint.Attempt
/-!
The boundary to the bus engine. Starting an engine yields an instance, for
which the engine has a session for outbound work and, if it receives, a
pipeline.
-/

namespace BusEndpoint

structure SendOptions where
  destination : Option String := none
  headers : Headers := .empty
  correlationId : Option String := none
  replyTo : Option String := none
deriving DecidableEq

structure PublishOptions where
  headers : Headers := .empty
deriving DecidableEq

structure SubscribeOptions where
  publisher : Option String := none
deriving DecidableEq

/-- Outbound work of an endpoint. -/
structure Session (σ : Type) where
  send : OutgoingMessage → SendOptions → CancellationToken σ → Task σ (Except BusError Unit)
  publish : OutgoingMessage → PublishOptions → CancellationToken σ → Task σ (Except BusError Unit)
  subscribe : String → SubscribeOptions → CancellationToken σ → Task σ (Except BusError Unit)
  unsubscribe : String → SubscribeOptions → CancellationToken σ → Task σ (Except BusError Unit)

/-- An engine on hosts with states `σ` and sinks `κ`, which is given services
`ς` at its start and whose instances are described by `ι`. -/
structure Engine (σ κ ς ι : Type) where
  start : Configuration → ς → LogBook σ κ → Task σ (Except BusError ι)
  pipeline : LogBook σ κ → ι → Option (Pipeline σ)
  session : ι → Session σ

namespace Engine

variable {σ κ ς ι : Type}

/-- What messages are handed to once an instance is there. -/
def binding (engine : Engine σ κ ς ι) (configuration : Configuration) (logBook : LogBook σ κ)
    (started : ι) : Binding σ :=
  match configuration.sendOnly, engine.pipeline logBook started with
  | false, some pipeline => .receiving pipeline
  | _, _ => .sendOnly

/-- An instance in a diagnostic line. -/
def instanceLine (engine : Engine σ κ ς ι) (logBook : LogBook σ κ) (started : ι) : String :=
  Text.recordLine "StartedEndpoint"
    [("receives", Text.truth (engine.pipeline logBook started).isSome)]

end Engine

end BusEndpoint
