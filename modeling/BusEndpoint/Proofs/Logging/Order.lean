import BusEndpoint.Logging.Sink
import BusEndpoint.Proofs.Logging.Sinks
import Mathlib.Data.List.Induction

/-! In what order the entries of a logger arrive. A logger without a sink keeps
three waiting lines, by the shape of the entries; the sink that it is given
first is given these lines, one after the other, and from then on each entry as
it is logged. Which operation gives it a sink is told from those before. -/

namespace BusEndpoint

variable {κ : Type}

namespace LogEntry

def isFormatted (entry : LogEntry) : Bool := entry.args.isSome

def isWithError (entry : LogEntry) : Bool := !entry.isFormatted && entry.error.isSome

def isPlain (entry : LogEntry) : Bool := !entry.isFormatted && entry.error.isNone

/-- The plain entries, then those with an error, then the formatted ones, each of
them in the given order. -/
def byShape (entries : List LogEntry) : List LogEntry :=
  entries.filter isPlain ++ entries.filter isWithError ++ entries.filter isFormatted

end LogEntry

namespace PendingEntries

theorem pushAll_eq (pending : PendingEntries) (entries : List LogEntry) :
    pending.pushAll entries =
      ⟨pending.plain ++ entries.filter LogEntry.isPlain,
        pending.withError ++ entries.filter LogEntry.isWithError,
        pending.formatted ++ entries.filter LogEntry.isFormatted⟩ := by
  induction entries generalizing pending with
  | nil => simp [pushAll]
  | cons entry rest ih =>
      have hStep : pending.pushAll (entry :: rest) = (pending.push entry).pushAll rest := rfl
      rw [hStep, ih, push]
      cases hArgs : entry.args <;> cases hError : entry.error <;>
        simp [LogEntry.isPlain, LogEntry.isWithError, LogEntry.isFormatted, hArgs, hError]

theorem toList_pushAll_blank (entries : List LogEntry) :
    (({} : PendingEntries).pushAll entries).toList = LogEntry.byShape entries := by
  rw [pushAll_eq]
  rfl

theorem size_pushAll (pending : PendingEntries) (entries : List LogEntry) :
    (pending.pushAll entries).size = pending.size + entries.length := by
  induction entries generalizing pending with
  | nil => rfl
  | cons entry rest ih =>
      have hPush : (pending.push entry).size = pending.size + 1 := by
        cases hArgs : entry.args <;> cases hError : entry.error <;>
          simp [push, size, toList, hArgs, hError] <;> omega
      have hStep : pending.pushAll (entry :: rest) = (pending.push entry).pushAll rest := rfl
      rw [hStep, ih, hPush, List.length_cons]
      omega

end PendingEntries

namespace LogOperation

variable [LogSink κ]

/-- What has been delivered by the logger of this name. -/
def delivered (name : String) (operations : List (LogOperation κ)) : List (Delivery κ) :=
  Delivery.fromLogger name (run {} operations).deliveries

/-- The sink of the logger of this name, if it has been given one. -/
def sinkOf (name : String) (operations : List (LogOperation κ)) : Option κ :=
  ((after operations).loggerOf name).sink

/-- The number of entries that wait in the logger of this name. -/
def pendingOf (name : String) (operations : List (LogOperation κ)) : Nat :=
  ((after operations).loggerOf name).pending.size

/-- How the entries of one logger arrive. -/
structure DeliversInOrder (name : String) (operations : List (LogOperation κ)) : Prop where
  /-- Without a sink every entry waits. -/
  waiting : sinkOf name operations = none →
    delivered name operations = [] ∧
      pendingOf name operations = (logged name false operations).length
  /-- Which operation gives a logger its sink: the one that attaches it to this
  logger, the one that sets the first destination if the logger has been fetched by
  then, or the first one since that fetches the logger. -/
  gives : sinkOf name operations = none → ∀ operation,
    sinkOf name (operations ++ [operation]) = operation.gives name operations
  stays : ∀ sink, sinkOf name operations = some sink →
    ∀ later, sinkOf name (operations ++ later) = some sink
  /-- An operation that gives the logger a sink divides what is logged into what
  had to wait and what did not. The sink is given all of it that it enables, and
  nobody else is given anything. -/
  attached : ∀ early operation late sink, operations = early ++ operation :: late →
    sinkOf name early = none → sinkOf name (early ++ [operation]) = some sink →
      delivered name operations =
        ((LogEntry.byShape (logged name false early) ++
            logged name (early.any setsDestination) (operation :: late)).filter fun entry =>
              LogSink.isEnabled sink entry.level).map (fun entry => ⟨sink, name, entry⟩) ∧
        pendingOf name operations = 0
  /-- A logger that has a sink was given it by some operation, and had none
  before. -/
  given : ∀ sink, sinkOf name operations = some sink →
    ∃ early operation late, operations = early ++ operation :: late ∧
      sinkOf name early = none ∧ sinkOf name (early ++ [operation]) = some sink
  /-- A logger that was fetched before is fetched again without any effect, so
  that operations on it by its name are operations on that logger. -/
  fetchedAgain : ∀ logger, (after operations).loggers.get? name = some logger →
    (after operations).getLogger name = ⟨logger, after operations, []⟩

theorem sinkOf_append {name : String} {sink : κ} {first : List (LogOperation κ)}
    (hSink : sinkOf name first = some sink) (second : List (LogOperation κ)) :
    sinkOf name (first ++ second) = some sink := by
  rw [sinkOf, after_append, (run_attached hSink second).1]
  exact hSink

/-- Some operation is the first after which the logger has its sink. -/
theorem exists_given {name : String} {sink : κ} {operations : List (LogOperation κ)}
    (hSink : sinkOf name operations = some sink) :
    ∃ early operation late, operations = early ++ operation :: late ∧
      sinkOf name early = none ∧ sinkOf name (early ++ [operation]) = some sink := by
  induction operations using List.reverseRecOn with
  | nil => cases hSink
  | append_singleton early operation ih =>
      cases hEarly : sinkOf name early with
      | none => exact ⟨early, operation, [], rfl, hEarly, hSink⟩
      | some other =>
          obtain rfl : other = sink :=
            Option.some.inj ((sinkOf_append hEarly [operation]).symm.trans hSink)
          obtain ⟨first, given, late, rfl, hNone, hGiven⟩ := ih hEarly
          exact ⟨first, given, late ++ [operation], by simp, hNone, hGiven⟩

/-- What waited without a sink. -/
theorem loggerOf_after_unattached {name : String} {operations : List (LogOperation κ)}
    (hNone : sinkOf name operations = none) :
    (after operations).loggerOf name =
        ⟨none, ({} : PendingEntries).pushAll (logged name false operations)⟩ ∧
      delivered name operations = [] :=
  run_unattached operations hNone

/-- What the sink was given when it was attached, and since. -/
theorem delivered_of_given {name : String} {sink : κ} {early : List (LogOperation κ)}
    {operation : LogOperation κ} (hNone : sinkOf name early = none)
    (hGiven : sinkOf name (early ++ [operation]) = some sink) (late : List (LogOperation κ)) :
    delivered name (early ++ operation :: late) =
        Logger.deliveries name sink (LogEntry.byShape (logged name false early) ++
          logged name (early.any setsDestination) (operation :: late)) ∧
      (after (early ++ operation :: late)).loggerOf name = ⟨some sink, {}⟩ := by
  obtain ⟨hEarly, hNothing⟩ := loggerOf_after_unattached hNone
  have hSink : ((operation.perform (after early)).context.loggerOf name).sink = some sink := by
    rw [sinkOf, after_append] at hGiven
    exact hGiven
  obtain ⟨hAttached, hFlushed⟩ :=
    (perform_takes (after early) operation name).of_attaching hNone hSink
  obtain ⟨hKept, hLate⟩ := run_attached hSink late
  rw [hEarly, PendingEntries.toList_pushAll_blank, isAttached_after] at hFlushed
  rw [isAttached_perform, isAttached_after] at hLate
  constructor
  · have hNothing : Delivery.fromLogger name (run {} early).deliveries = [] := hNothing
    rw [delivered, run_append, Delivery.fromLogger_append, hNothing, List.nil_append]
    change Delivery.fromLogger name ((operation.perform (after early)).deliveries ++
      (run (operation.perform (after early)).context late).deliveries) = _
    rw [Delivery.fromLogger_append, hFlushed, hLate, ← Logger.deliveries_append, logged,
      List.append_assoc]
  · rw [after_append]
    exact hKept.trans hAttached

/-- Every logger delivers in order, whatever is done with its context. -/
theorem deliversInOrder (name : String) (operations : List (LogOperation κ)) :
    DeliversInOrder name operations := by
  constructor
  · intro hNone
    obtain ⟨hLogger, hNothing⟩ := loggerOf_after_unattached hNone
    refine ⟨hNothing, ?_⟩
    rw [pendingOf, hLogger, PendingEntries.size_pushAll]
    exact Nat.zero_add _
  · intro hNone operation
    rw [sinkOf, after_append]
    exact sink_perform_after hNone operation
  · intro sink hSink later
    exact sinkOf_append hSink later
  · rintro early operation late sink rfl hNone hGiven
    obtain ⟨hDelivered, hLogger⟩ := delivered_of_given hNone hGiven late
    refine ⟨hDelivered, ?_⟩
    rw [pendingOf, hLogger]
    rfl
  · intro sink hSink
    exact exists_given hSink
  · intro logger hGet
    exact LoggerContext.getLogger_of_get? (allAttached_after operations) hGet

/-- Entries of all three shapes wait for a destination, which is not told of the one
that is below its level. -/
theorem deliversInOrder_flushed :
    let formatted : LogEntry := ⟨.info, "order \x7b\x7d", none, some ["1"]⟩
    let failed : LogEntry := ⟨.warn, "retrying", some "timeout", none⟩
    let quiet : LogEntry := ⟨.debug, "trace", none, none⟩
    let plain : LogEntry := ⟨.info, "started", none, none⟩
    let closing : LogEntry := ⟨.error, "stopped", none, none⟩
    let main : Sink := .recording "main" (some .info)
    let early : List (LogOperation Sink) := [.log "orders" formatted, .log "orders" failed,
      .log "orders" quiet, .log "billing" plain, .log "orders" plain]
    let late : List (LogOperation Sink) :=
      [.attachLogger "orders" (.recording "other" none), .log "orders" closing]
    let operations := early ++ .attachSink main :: late
    delivered "orders" early = [] ∧ pendingOf "orders" early = 4 ∧
      delivered "orders" operations =
        [⟨main, "orders", plain⟩, ⟨main, "orders", failed⟩, ⟨main, "orders", formatted⟩,
          ⟨main, "orders", closing⟩] ∧
      pendingOf "orders" operations = 0 := by
  intro formatted failed quiet plain closing main early late operations
  have hUnattached : sinkOf "orders" early = none := by decide +revert
  have before := deliversInOrder "orders" early
  obtain ⟨hNothing, hPending⟩ := before.waiting hUnattached
  have hGiven : sinkOf "orders" (early ++ [.attachSink main]) = some main :=
    before.gives hUnattached (.attachSink main)
  obtain ⟨hDelivered, hNone⟩ := (deliversInOrder "orders" operations).attached early
    (.attachSink main) late main rfl hUnattached hGiven
  exact ⟨hNothing, hPending, hDelivered, hNone⟩

end LogOperation

end BusEndpoint
