import BusEndpoint.Engine
import BusEndpoint.Start.Gate
/-!
Starting an engine when it is first needed. Whoever needs it asks for the
started instance; the first through the gate performs the start, and a start
that failed is tried again by the next. Cancellation reaches a caller that
waits at the gate, and never a start that is under way.
-/

namespace BusEndpoint

structure LazyStart (σ κ ς ι : Type) where
  engine : Engine σ κ ς ι
  configuration : Configuration
  services : ς
  logBook : LogBook σ κ
  gate : Slot σ (StartGate ι)

/-- A failed start as the error of the caller that made it. -/
def BusError.ofFailedStart : BusError → BusError
  | .startup cause => .startup cause
  | .cancelled => .cancelled
  | error => .startup (.bus error)

namespace LazyStart

variable {σ κ ς ι : Type}

def state (lazy : LazyStart σ κ ς ι) (s : σ) : StartState ι := (lazy.gate.get s).state

def change (lazy : LazyStart σ κ ς ι) (f : StartGate ι → StartGate ι) : Task σ Unit :=
  .perform (modify (lazy.gate.modify f))

variable [Host σ]

/-- Start the engine; the caller holds the gate. -/
def start (lazy : LazyStart σ κ ς ι) : Task σ (Except BusError ι) := do
  let endpoint := ("endpoint", FieldValue.text lazy.configuration.endpointName)
  lazy.change (StartGate.setState .starting)
  Task.event .info [endpoint, ("send_only", .flag lazy.configuration.sendOnly)] "starting endpoint"
  match ← lazy.engine.start lazy.configuration lazy.services lazy.logBook with
  | .error error =>
    lazy.change (StartGate.setState .notStarted)
    Task.event .error [endpoint, ("error", .text error.message)] "endpoint start failed"
    return .error error.ofFailedStart
  | .ok started =>
    lazy.change (StartGate.setState (.started started))
    Task.event .info [endpoint] "endpoint started"
    return .ok started

/-- Start the engine unless somebody else has done so; the caller holds the
gate. -/
def startUnlessStarted (lazy : LazyStart σ κ ς ι) : Task σ (Except BusError ι) := do
  match ← Task.observe fun s => (lazy.state s).started? with
  | some started => return .ok started
  | none => lazy.start

/-- Whatever the start comes to, the gate is passed on. -/
def startBehindGate (lazy : LazyStart σ κ ς ι) : Task σ (Except BusError ι) := do
  let result ← lazy.startUnlessStarted
  lazy.change StartGate.release
  return result

/-- The started instance. -/
def ensureStarted (lazy : LazyStart σ κ ς ι) (cancel : CancellationToken σ) :
    Task σ (Except BusError ι) := do
  match ← Task.observe fun s => (lazy.state s).started? with
  | some started => return .ok started
  | none =>
    if ← Task.observe cancel then return .error .cancelled
    let ticket ← (lazy.gate.update StartGate.enter : StateM σ Nat)
    Task.wait (fun s => cancel s || (lazy.gate.get s).isTurnOf ticket) (.done ())
    if ← Task.observe cancel then
      lazy.change (StartGate.leave ticket)
      return .error .cancelled
    lazy.startBehindGate

/-- What messages are handed to once the instance is there. -/
def binding (lazy : LazyStart σ κ ς ι) (started : ι) : Binding σ :=
  lazy.engine.binding lazy.configuration lazy.logBook started

def line (lazy : LazyStart σ κ ς ι) (s : σ) : String :=
  Text.recordLine "LazyEndpoint"
    [("endpoint", Text.quoted lazy.configuration.endpointName), ("state", (lazy.state s).name)]

/-- A started instance in a diagnostic line. -/
def handleLine (lazy : LazyStart σ κ ς ι) (started : ι) : String :=
  Text.recordLine "EndpointHandle" [("processor", (lazy.binding started).line)]

end LazyStart

end BusEndpoint
