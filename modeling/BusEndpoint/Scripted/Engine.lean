import BusEndpoint.ServiceRegistry
import BusEndpoint.Scripted.Pipeline
/-!
An engine that follows a script before it starts the one in memory, and that
may put another pipeline in the place of the one it started.
-/

namespace BusEndpoint.Scripted

open InMemory (HostState Instance EngineState)

inductive StartAction where
  | suspend
  | cancel (token : String)
  | log (logger : String) (entry : LogEntry)
  | fail (error : BusError)

/-- Act up to the first action that fails. -/
def StartAction.follow (logBook : LogBook HostState Sink) :
    List StartAction → Task HostState (Except BusError Unit)
  | [] => return .ok ()
  | .suspend :: rest => do
    Task.yieldOnce
    follow logBook rest
  | .cancel token :: rest => do
    HostState.cancel token
    follow logBook rest
  | .log logger entry :: rest => do
    logBook.log logger entry
    follow logBook rest
  | .fail error :: _ => return .error error

/-- What becomes of the pipeline of a started engine. -/
inductive PipelineChoice where
  | kept
  | dropped
  /-- Every endpoint receives, and every message succeeds. -/
  | replaced

def PipelineChoice.apply (own : Option (Pipeline HostState)) :
    PipelineChoice → Option (Pipeline HostState)
  | kept => own
  | dropped => none
  | replaced => some ({} : PipelineScript).toPipeline

structure EngineScript where
  starts : List (List StartAction)
  pipeline : PipelineChoice
  /-- The name of the gate whose state a start sees, if it sees one. -/
  watchedGate : Option String

/-- The starts of an engine are counted under its name. -/
def startCounter (name : String) : Slot HostState Nat := HostState.counter ("starts " ++ name)

namespace EngineScript

variable {κ : Type} {service : κ → Type}

/-- The engine of a script around another one. -/
def toEngine (script : EngineScript) (name : String)
    (inner : Engine HostState Sink (ServiceRegistry κ service) Instance) :
    Engine HostState Sink (ServiceRegistry κ service) Instance :=
  let outer := { inner with
    pipeline := fun logBook started => script.pipeline.apply (inner.pipeline logBook started) }
  { outer with
    start := fun configuration services logBook => do
      let number ← (startCounter name).update fun n => (n + 1, n + 1)
      let state ← Task.observe fun h =>
        script.watchedGate.map fun gate => ((HostState.gate gate).get h).state.name
      HostState.record
        (.engineStarting number configuration.endpointName services.size state)
      match ← StartAction.follow logBook (callEntry script.starts number) with
      | .error error => return .error error
      | .ok () =>
        match ← inner.start configuration services logBook with
        | .error error => return .error error
        | .ok started =>
          HostState.record (.engineStarted number (outer.instanceLine logBook started))
          return .ok started }

end EngineScript

end BusEndpoint.Scripted
