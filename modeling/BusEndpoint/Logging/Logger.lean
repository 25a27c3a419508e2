import BusEndpoint.Logging.Entry
/-!
A logger that may be used before its destination is known. Entries are kept
in three waiting lines by their shape until a sink is attached; then the
lines are emptied into the sink, one after the other, and later entries go
there directly. The first sink stays.
-/

namespace BusEndpoint

/-- Destinations of log entries. -/
class LogSink (κ : Type) where
  isEnabled : κ → LogLevel → Bool

/-- An entry on its way from a logger into a sink. -/
structure Delivery (κ : Type) where
  sink : κ
  logger : String
  entry : LogEntry
deriving DecidableEq

/-- Entries that wait for a sink, in the order of logging: plain ones, ones
with an error, and ones with arguments. -/
structure PendingEntries where
  plain : List LogEntry := []
  withError : List LogEntry := []
  formatted : List LogEntry := []
deriving DecidableEq

namespace PendingEntries

def push (pending : PendingEntries) (entry : LogEntry) : PendingEntries :=
  if entry.args.isSome then { pending with formatted := pending.formatted ++ [entry] }
  else if entry.error.isSome then { pending with withError := pending.withError ++ [entry] }
  else { pending with plain := pending.plain ++ [entry] }

/-- All entries in the order in which they leave. -/
def toList (pending : PendingEntries) : List LogEntry :=
  pending.plain ++ pending.withError ++ pending.formatted

def size (pending : PendingEntries) : Nat := pending.toList.length

end PendingEntries

structure Logger (κ : Type) where
  sink : Option κ := none
  pending : PendingEntries := {}
deriving DecidableEq

namespace Logger

variable {κ : Type} [LogSink κ]

def isAttached (logger : Logger κ) : Bool := logger.sink.isSome

/-- Before a sink is attached every level is enabled. -/
def isEnabled (logger : Logger κ) (level : LogLevel) : Bool :=
  match logger.sink with
  | some sink => LogSink.isEnabled sink level
  | none => true

/-- The deliveries of those entries that the sink enables. -/
def deliveries (name : String) (sink : κ) (entries : List LogEntry) : List (Delivery κ) :=
  (entries.filter fun entry => LogSink.isEnabled sink entry.level).map fun entry =>
    ⟨sink, name, entry⟩

/-- Log an entry on the logger of this name. -/
def write (name : String) (entry : LogEntry) (logger : Logger κ) :
    Logger κ × List (Delivery κ) :=
  match logger.sink with
  | some sink => (logger, deliveries name sink [entry])
  | none => ({ logger with pending := logger.pending.push entry }, [])

/-- Attach a sink unless one is attached, and say whether that was done. -/
def attach (name : String) (sink : κ) (logger : Logger κ) :
    Bool × Logger κ × List (Delivery κ) :=
  match logger.sink with
  | some _ => (false, logger, [])
  | none =>
    (true, { sink := some sink, pending := {} }, deliveries name sink logger.pending.toList)

end Logger

end BusEndpoint
