import BusEndpoint.Endpoint
import BusEndpoint.InMemory.Engine
import BusEndpoint.Proofs.Task.LastPoll

/-! The traffic of an endpoint on an engine in memory: what is in the queues and
deferred, and what its message pipeline has answered so far. The answers are
noted in a slot of the host, each at the moment at which the pipeline comes to
its end. -/

namespace BusEndpoint.InMemory

open BusEndpoint.Task

variable {σ κ ς : Type}

/-- What the message pipeline has answered to a message, and the transport at
that moment. -/
structure Answer where
  messageId : String
  result : Except Failure Unit
  transport : Transport

structure Traffic where
  transport : Transport
  answers : List Answer

/-- An answer is noted. -/
def Traffic.noted (traffic : Traffic) (messageId : String) (result : Except Failure Unit) :
    Traffic :=
  { traffic with answers := traffic.answers ++ [⟨messageId, result, traffic.transport⟩] }

@[simp] theorem Traffic.transport_noted (traffic : Traffic) (messageId : String)
    (result : Except Failure Unit) : (traffic.noted messageId result).transport = traffic.transport :=
  rfl

/-- An endpoint on an engine in memory, and where its answers are noted. -/
structure Installation (σ κ ς : Type) where
  engine : EngineState σ
  configuration : Configuration
  services : ς
  logBook : LogBook σ κ
  gate : Slot σ (StartGate Instance)
  record : Slot σ (List Answer)

end BusEndpoint.InMemory

namespace BusEndpoint

open InMemory (Answer)

variable {σ κ ς ι : Type}

/-- The pipeline with its answers noted. -/
def Pipeline.noting (pipeline : Pipeline σ) (transport : Slot σ Transport)
    (record : Slot σ (List Answer)) : Pipeline σ :=
  { pipeline with
    onMessage := fun context cancel => do
      let result ← pipeline.onMessage context cancel
      Task.perform (modify fun s =>
        record.modify (· ++ [⟨context.messageId, result, transport.get s⟩]) s)
      return result }

/-- The engine with the answers of its pipelines noted. -/
def Engine.noting (engine : Engine σ κ ς ι) (transport : Slot σ Transport)
    (record : Slot σ (List Answer)) : Engine σ κ ς ι :=
  { engine with
    pipeline := fun logBook started =>
      (engine.pipeline logBook started).map fun pipeline => pipeline.noting transport record }

end BusEndpoint

namespace BusEndpoint.InMemory

variable {σ κ ς : Type}

namespace Installation

/-- What is seen of the traffic in the state of the host. -/
def traffic (installation : Installation σ κ ς) (s : σ) : Traffic :=
  ⟨installation.engine.transport.get s, installation.record.get s⟩

/-- What the surroundings of the endpoint leave alone. -/
def frame (installation : Installation σ κ ς) (s : σ) : StartGate Instance × Traffic :=
  (installation.gate.get s, installation.traffic s)

/-- An instance that has been started was started for this endpoint. -/
def IsSound (installation : Installation σ κ ς) (s : σ) : Prop :=
  ∀ started, (installation.gate.get s).state = .started started →
    started.configuration = installation.configuration

section Frames

variable {installation : Installation σ κ ς} {s t : σ}

theorem traffic_of_frame (hFrame : installation.frame t = installation.frame s) :
    installation.traffic t = installation.traffic s :=
  congrArg Prod.snd hFrame

theorem IsSound.of_gate (sound : installation.IsSound s)
    (hGate : (installation.gate.get t).state = (installation.gate.get s).state) :
    installation.IsSound t :=
  fun started hStarted => sound started (hGate.symm.trans hStarted)

theorem IsSound.of_frame (sound : installation.IsSound s)
    (hFrame : installation.frame t = installation.frame s) : installation.IsSound t :=
  sound.of_gate (congrArg (fun seen => seen.1.state) hFrame)

end Frames

/-- A task that is not seen in the traffic. -/
abbrev Unseen (installation : Installation σ κ ς) {α β : Type} (see : Traffic → β)
    (answers : α → Prop) (task : Task σ α) : Prop :=
  task.Rests installation.IsSound (fun s => see (installation.traffic s)) answers

/-- What the handlers do to the messages of their types is not seen. -/
def HandlersUnseen (installation : Installation σ κ ς) {β : Type} (see : Traffic → β) : Prop :=
  ∀ messageType handler body work context,
    installation.engine.handlers.get? messageType = some handler → handler body = .ok work →
      installation.Unseen see (fun _ => True) (work context)

/-- What becomes of a message, in the way of the endpoint, when its processing
has failed. -/
def recovery (installation : Installation σ κ ς) (message : InboundMessage) (failure : Failure)
    (token : TransportToken σ) : Transport → ErrorVerdict × Transport :=
  Receiver.applyDecision installation.configuration.endpointName
    (message.errorContext failure token) failure.message
    (installation.configuration.recoverability.action message.deliveryCount message.headers)

variable [LogSink κ]

/-- The pipeline of the endpoint once it is started. -/
def pipeline [Host σ] (installation : Installation σ κ ς) : Pipeline σ :=
  (installation.engine.receiver installation.logBook installation.configuration).toPipeline.noting
    installation.engine.transport installation.record

/-- The endpoint, with its answers noted. -/
def endpoint [Host σ] (installation : Installation σ κ ς) : FunctionEndpoint σ κ ς Instance where
  engine := installation.engine.toEngine.noting installation.engine.transport installation.record
  configuration := installation.configuration
  services := installation.services
  logBook := installation.logBook
  gate := installation.gate

/-- The transport, the record and the gate are kept in slots of their own. The
host, the logging and the count of the starts do not reach them. -/
structure Secludes [Host σ] (installation : Installation σ κ ς) : Prop where
  gate : ∀ gate s, installation.traffic (installation.gate.set gate s) = installation.traffic s
  transport_gate : ∀ transport s,
    installation.gate.get (installation.engine.transport.set transport s) =
      installation.gate.get s
  transport_record : ∀ transport s,
    installation.record.get (installation.engine.transport.set transport s) =
      installation.record.get s
  record_gate : ∀ answers s,
    installation.gate.get (installation.record.set answers s) = installation.gate.get s
  record_transport : ∀ answers s,
    installation.engine.transport.get (installation.record.set answers s) =
      installation.engine.transport.get s
  identifiers : ∀ supply s,
    installation.frame ((Host.identifiers (σ := σ)).set supply s) = installation.frame s
  report : ∀ diagnostic s, installation.frame (Host.report diagnostic s) = installation.frame s
  starts : ∀ number s,
    installation.frame (installation.engine.starts.set number s) = installation.frame s
  loggers : ∀ context s,
    installation.frame (installation.logBook.context.set context s) = installation.frame s
  deliveries : ∀ delivery s,
    installation.frame (installation.logBook.deliver delivery s) = installation.frame s

end Installation

/-- The answer to a call with a message that has failed. -/
def answerTo (failure : Failure) : ErrorVerdict → Except BusError Unit
  | .handled => .ok ()
  | .retryRequired => .error (.pipeline failure)

/-- A failure of the message pipeline is noted, and becomes the concern of the
error pipeline. -/
def Recovers (installation : Installation σ κ ς) (message : InboundMessage) (failure : Failure)
    (before : Traffic) (answer : Except BusError Unit) (after : Traffic) : Prop :=
  ∃ token, answer = answerTo failure
      (installation.recovery message failure token before.transport).1 ∧
    after = { before.noted message.id (.error failure) with
      transport := (installation.recovery message failure token before.transport).2 }

/-- What a call with a message answers, and what it does to the traffic. -/
inductive Effect (installation : Installation σ κ ς) (message : InboundMessage) (before : Traffic) :
    Except BusError Unit → Traffic → Prop where
  /-- The message pipeline was not called, or it was given up. -/
  | refused {error : BusError} : Effect installation message before (.error error) before
  | succeeded :
      Effect installation message before (.ok ()) (before.noted message.id (.ok ()))
  | cancelled {failure : Failure} (cancellation : failure.isCancellation = true) :
      Effect installation message before (.error .cancelled)
        (before.noted message.id (.error failure))
  | failed {failure : Failure} {answer : Except BusError Unit} {after : Traffic}
      (genuine : failure.isCancellation = false)
      (recovers : Recovers installation message failure before answer after) :
      Effect installation message before answer after

end BusEndpoint.InMemory
