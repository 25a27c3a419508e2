import BusEndpoint.Dictionary
import BusEndpoint.Logging.Logger
import BusEndpoint.Text.Quoted
import BusEndpoint.Text.Unsigned
/-!
The loggers of an endpoint, by name. A destination for all of them is set
once; it gives every logger its sink, those that exist and those that come
later. A destination that comes too late is refused.
-/

namespace BusEndpoint

structure LoggerContext (κ : Type) where
  loggers : Dictionary (Logger κ) := .empty
  /-- The sink for the logger of a name, once a destination is set. -/
  factory : Option (String → κ) := none

/-- The answer of an operation on a context, and what it delivered. -/
structure Logged (κ α : Type) where
  answer : α
  context : LoggerContext κ
  deliveries : List (Delivery κ)

namespace LoggerContext

variable {κ α β : Type}

instance : Inhabited (LoggerContext κ) := ⟨{}⟩

/-- The logger under which the library itself logs. -/
def ownName : String := "hostbus"

def lateWarning : String := "logging is already attached; ignoring new log destination"

def isAttached (context : LoggerContext κ) : Bool := context.factory.isSome

variable [LogSink κ]

/-- The logger of this name, which is made and attached as needed. -/
def getLogger (name : String) (context : LoggerContext κ) : Logged κ (Logger κ) :=
  let logger := (context.loggers.get? name).getD {}
  match context.factory, logger.sink with
  | some factory, none =>
    let (_, attached, deliveries) := logger.attach name (factory name)
    ⟨attached, { context with loggers := context.loggers.insert name attached }, deliveries⟩
  | _, _ => ⟨logger, { context with loggers := context.loggers.insert name logger }, []⟩

/-- Log an entry on the logger of this name. -/
def log (name : String) (entry : LogEntry) (context : LoggerContext κ) : Logged κ Unit :=
  let found := context.getLogger name
  let (logger, deliveries) := found.answer.write name entry
  { answer := ()
    context := { found.context with loggers := found.context.loggers.insert name logger }
    deliveries := found.deliveries ++ deliveries }

/-- Attach a sink to the logger of this name alone. -/
def attachLogger (name : String) (sink : κ) (context : LoggerContext κ) : Logged κ Bool :=
  let found := context.getLogger name
  let (answer, logger, deliveries) := found.answer.attach name sink
  { answer
    context := { found.context with loggers := found.context.loggers.insert name logger }
    deliveries := found.deliveries ++ deliveries }

/-- Set the destination of all loggers unless one is set. Entries that wait
are delivered, logger after logger in the order of the names. -/
def install (factory : String → κ) (context : LoggerContext κ) : Logged κ Bool :=
  match context.factory with
  | some _ => ⟨false, context, []⟩
  | none =>
    let attached := context.loggers.entries.map fun e => (e.1, e.2.attach e.1 (factory e.1))
    { answer := true
      context :=
        { loggers := context.loggers.insertAll (attached.map fun e => (e.1, e.2.2.1))
          factory := some factory }
      deliveries := attached.flatMap fun e => e.2.2.2 }

/-- Set one sink as the destination of all loggers, or do nothing if a
destination is set. -/
def tryAttachSink (sink : κ) (context : LoggerContext κ) : Logged κ Bool :=
  context.install fun _ => sink

/-- Set the destination of all loggers. If one is set already, a warning goes
there. -/
def attachFactory (factory : String → κ) (context : LoggerContext κ) : Logged κ Bool :=
  let installed := context.install factory
  if installed.answer then installed
  else
    let warned := context.log ownName { level := .warn, message := lateWarning }
    ⟨false, warned.context, warned.deliveries⟩

def attachSink (sink : κ) (context : LoggerContext κ) : Logged κ Bool :=
  context.attachFactory fun _ => sink

/-- The context in a diagnostic line. -/
def line (context : LoggerContext κ) : String :=
  Text.recordLine "LoggerContext"
    [("loggers", Text.decimal context.loggers.size), ("attached", Text.truth context.isAttached)]

/-- The logger of a name in a diagnostic line. -/
def loggerLine (name : String) (logger : Logger κ) : String :=
  Text.recordLine "DeferredLogger"
    [("name", Text.quoted name), ("attached", Text.truth logger.isAttached)]

end LoggerContext

end BusEndpoint
