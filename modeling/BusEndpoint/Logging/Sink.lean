import BusEndpoint.Host
import BusEndpoint.Logging.Context
/-!
Where log entries go. A recording sink keeps them, and the diagnostics sink
turns them into reports to the host. Logging takes place on a context that the
host's state holds in a slot.
-/

namespace BusEndpoint

/-- The logging of one endpoint: where its context is kept, and what a
delivery does. -/
structure LogBook (σ κ : Type) where
  context : Slot σ (LoggerContext κ)
  deliver : Delivery κ → σ → σ

namespace LogBook

variable {σ κ α : Type}

/-- Carry out an operation on the context together with its deliveries. -/
def perform (book : LogBook σ κ) (operation : LoggerContext κ → Logged κ α) : StateM σ α :=
  fun s =>
    let logged := operation (book.context.get s)
    let s := book.context.set logged.context s
    (logged.answer, logged.deliveries.foldl (fun s delivery => book.deliver delivery s) s)

/-- An operation changes nothing of what neither the loggers nor the sinks reach. -/
theorem view_perform {β : Type} {view : σ → β} {book : LogBook σ κ}
    (hContext : ∀ context s, view (book.context.set context s) = view s)
    (hDeliver : ∀ delivery s, view (book.deliver delivery s) = view s)
    (operation : LoggerContext κ → Logged κ α) (s : σ) :
    view (book.perform operation s).2 = view s := by
  have hDeliveries (deliveries : List (Delivery κ)) (t : σ) :
      view (deliveries.foldl (fun s delivery => book.deliver delivery s) t) = view t := by
    induction deliveries generalizing t with
    | nil => rfl
    | cons delivery rest ih => exact (ih _).trans (hDeliver delivery t)
  exact (hDeliveries _ _).trans (hContext _ s)

variable [LogSink κ]

def log (book : LogBook σ κ) (logger : String) (entry : LogEntry) : StateM σ Unit :=
  book.perform (LoggerContext.log logger entry)

/-- Set the destination of all loggers. A refusal is reported to the host and
logged. -/
def attachFactory [Host σ] (book : LogBook σ κ) (factory : String → κ) : StateM σ Bool := do
  if (book.context.get (← get)).isAttached then
    Host.event .warn [] LoggerContext.lateWarning
  book.perform (LoggerContext.attachFactory factory)

def attachSink [Host σ] (book : LogBook σ κ) (sink : κ) : StateM σ Bool :=
  book.attachFactory fun _ => sink

def tryAttachSink (book : LogBook σ κ) (sink : κ) : StateM σ Bool :=
  book.perform (LoggerContext.tryAttachSink sink)

end LogBook

/-- The kinds of sinks. -/
inductive Sink where
  /-- Keeps the entries from a level on, or all of them. -/
  | recording (name : String) (minimum : Option LogLevel)
  /-- Reports to a host that looks at nothing less severe than the threshold,
  if it looks at all. -/
  | diagnostics (threshold : Option Severity)
deriving DecidableEq

namespace Sink

/-- How severe an entry is as a report. -/
def severity : LogLevel → Severity
  | .debug => .debug
  | .info => .info
  | .warn => .warn
  | .error => .error
  | .fatal => .error

instance : LogSink Sink where
  isEnabled
    | .recording _ none, _ => true
    | .recording _ (some minimum), level => level.isAtLeast minimum
    | .diagnostics none, _ => false
    | .diagnostics (some threshold), level => (severity level).passes threshold

/-- An entry as a report. Fatal entries are errors with a mark. -/
def report (logger : String) (entry : LogEntry) : Diagnostic :=
  let fields := [("logger", FieldValue.text logger), ("error", .text (entry.error.getD ""))]
  let mark := if entry.level = .fatal then [("fatal", FieldValue.flag true)] else []
  .event (severity entry.level) (fields ++ mark) entry.render

/-- What the recording sinks have kept, in order. -/
abbrev Recorded := List (Delivery Sink)

def deliver {σ : Type} [Host σ] (recorded : Slot σ Recorded) (delivery : Delivery Sink) :
    σ → σ :=
  match delivery.sink with
  | .recording _ _ => recorded.modify (· ++ [delivery])
  | .diagnostics _ => Host.report (report delivery.logger delivery.entry)

/-- What each recording sink has kept, logger by logger. -/
def Recorded.bySink (recorded : Recorded) : Dictionary (Dictionary (List LogEntry)) :=
  recorded.foldl (fun sinks delivery =>
    match delivery.sink with
    | .recording name _ =>
      let loggers := (sinks.get? name).getD .empty
      let kept := (loggers.get? delivery.logger).getD []
      sinks.insert name (loggers.insert delivery.logger (kept ++ [delivery.entry]))
    | .diagnostics _ => sinks) .empty

/-- The text occurs somewhere in the other one. -/
def occursIn (text : List Char) : List Char → Bool
  | [] => text.isEmpty
  | c :: rest => text.isPrefixOf (c :: rest) || occursIn text rest

/-- A recording sink has kept an entry of this level whose text contains the
given one. -/
def Recorded.contains (recorded : Recorded) (name : String) (level : LogLevel) (text : String) :
    Bool :=
  recorded.any fun delivery =>
    match delivery.sink with
    | .recording other _ =>
      decide (other = name) && decide (delivery.entry.level = level) &&
        occursIn text.toList delivery.entry.render.toList
    | .diagnostics _ => false

end Sink

end BusEndpoint
