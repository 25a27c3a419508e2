import BusEndpoint.InMemory.Engine
import BusEndpoint.InMemory.Observation
import BusEndpoint.Start.Gate
import BusEndpoint.Transaction.Recording
/-!
A function host in memory. It counts out identifiers, its time of day stands
still, and it keeps whatever is reported to it. Beside that it has room for
all that an endpoint keeps: cancelled tokens, logging, start gates, queues and
the records of transactions, each under a name of its own.
-/

namespace BusEndpoint.InMemory

structure HostState where
  identifiers : IdentifierSupply := {}
  time : String := ""
  /-- What was reported, the latest first. -/
  reports : List Diagnostic := []
  /-- What scripted parts have seen, the latest first. -/
  observations : List Observation := []
  /-- The tokens that have been cancelled. -/
  cancelled : List String := []
  /-- The token of the call that is running. -/
  running : String := ""
  counters : Dictionary Nat := .empty
  transport : Transport := {}
  /-- What recording sinks have kept. -/
  recorded : Sink.Recorded := []
  logging : Dictionary (LoggerContext Sink) := .empty
  gates : Dictionary (StartGate Instance) := .empty
  transactions : Dictionary TransactionRecord := .empty

namespace HostState

instance : Inhabited HostState := ⟨{}⟩

instance : Host HostState where
  identifiers := ⟨(·.identifiers), fun identifiers h => { h with identifiers }, fun _ _ => rfl⟩
  clock h := h.time
  report diagnostic h := { h with reports := diagnostic :: h.reports }

/-- The slot of a name in one of the dictionaries; it is blank at first. -/
def named {α : Type} (get : HostState → Dictionary α) (set : Dictionary α → HostState → HostState)
    (get_set : ∀ d h, get (set d h) = d) (blank : α) (name : String) : Slot HostState α where
  get h := ((get h).get? name).getD blank
  set value h := set ((get h).insert name value) h
  get_set value h := by simp [get_set]

def counter : String → Slot HostState Nat :=
  named (·.counters) (fun counters h => { h with counters }) (fun _ _ => rfl) 0

def loggerContext : String → Slot HostState (LoggerContext Sink) :=
  named (·.logging) (fun logging h => { h with logging }) (fun _ _ => rfl) {}

def gate : String → Slot HostState (StartGate Instance) :=
  named (·.gates) (fun gates h => { h with gates }) (fun _ _ => rfl) {}

def transactionRecord : String → Slot HostState TransactionRecord :=
  named (·.transactions) (fun transactions h => { h with transactions }) (fun _ _ => rfl) []

def queues : Slot HostState Transport :=
  ⟨(·.transport), fun transport h => { h with transport }, fun _ _ => rfl⟩

def deliveries : Slot HostState Sink.Recorded :=
  ⟨(·.recorded), fun recorded h => { h with recorded }, fun _ _ => rfl⟩

/-- The logging of a name. -/
def logBook (name : String) : LogBook HostState Sink :=
  ⟨loggerContext name, Sink.deliver deliveries⟩

/-- Count a call, and give its number, the first being 1. -/
def count (name : String) : StateM HostState Nat := (counter name).update fun n => (n + 1, n + 1)

/-- Keep what a scripted part has seen. -/
def record (observation : Observation) : StateM HostState Unit :=
  modify fun h => { h with observations := observation :: h.observations }

def cancel (token : String) : StateM HostState Unit :=
  modify fun h => { h with cancelled := token :: h.cancelled }

/-- Work under a token, which is the running one whenever the work goes on. -/
def underToken {α : Type} (token : String) (work : Task HostState α) : Task HostState α :=
  let enter (h : HostState) : HostState := { h with running := token }
  .act enter fun _ => work.onResumption enter

/-- Cancel the call that is running. -/
def cancelRunning : StateM HostState Unit := do cancel (← get).running

def isCancelled (token : String) : CancellationToken HostState :=
  fun h => h.cancelled.contains token

end HostState

end BusEndpoint.InMemory
