import BusEndpoint.Proofs.Logging.Order

/-! The destination of all loggers is set once. Whatever is asked of a context,
the first destination stays, it reaches every logger of the context, and a later
one is refused without being used. -/

namespace BusEndpoint

variable {κ : Type}

namespace LoggerContext

/-- Where the warning about a destination that comes too late goes: to the sink
of the logger that gives it, or to the one that this logger is given when it is
made. -/
def OwnSink (context : LoggerContext κ) (sink : κ) : Prop :=
  (∀ logger, context.loggers.get? ownName = some logger → logger.sink = some sink) ∧
    (context.loggers.get? ownName = none →
      ∃ factory, context.factory = some factory ∧ factory ownName = sink)

/-- The context with its own logger at this sink, and nothing waiting there. -/
def withOwnLogger (context : LoggerContext κ) (sink : κ) : LoggerContext κ :=
  { context with loggers := context.loggers.insert ownName ⟨some sink, {}⟩ }

variable [LogSink κ] {context : LoggerContext κ} {sink : κ}

/-- A warning on a logger that has its sink and keeps nothing back. -/
theorem log_of_answer (hAnswer : (context.getLogger ownName).answer = ⟨some sink, {}⟩)
    (hNothing : (context.getLogger ownName).deliveries = []) (entry : LogEntry) :
    context.log ownName entry =
      ⟨(), context.withOwnLogger sink, Logger.deliveries ownName sink [entry]⟩ := by
  rw [log, hAnswer, hNothing, context_getLogger, hAnswer]
  simp only [Logger.write, Dictionary.insert_insert, List.nil_append]
  rfl

/-- The own logger that is made once a destination is set. -/
theorem getLogger_of_get?_none {factory : String → κ} {name : String}
    (hFactory : context.factory = some factory) (hAbsent : context.loggers.get? name = none) :
    (context.getLogger name).answer = ⟨some (factory name), {}⟩ ∧
      (context.getLogger name).deliveries = [] := by
  simp only [getLogger, hAbsent, hFactory, Option.getD_none]
  exact ⟨rfl, rfl⟩

end LoggerContext

namespace LogOperation

open LoggerContext (ownName lateEntry)

variable [LogSink κ]

/-- What holds of a context after any operations, and of all that may be done with
it then. -/
structure SingleDestination (operations : List (LogOperation κ)) : Prop where
  /-- The first destination is accepted, and all others are refused. -/
  accepted : ∀ (sink : κ) (factory : String → κ),
    ((after operations).attachSink sink).answer = !operations.any setsDestination ∧
      ((after operations).attachFactory factory).answer = !operations.any setsDestination ∧
      ((after operations).tryAttachSink sink).answer = !operations.any setsDestination
  isAttached_eq : (after operations).isAttached = operations.any setsDestination
  staysAttached : (after operations).isAttached = true →
    ∀ later, (after (operations ++ later)).isAttached = true
  allAttached : (after operations).isAttached = true → ∀ name logger,
    (after operations).loggers.get? name = some logger →
      logger.isAttached = true ∧ logger.pending.size = 0
  sinkStays : ∀ name logger sink, (after operations).loggers.get? name = some logger →
    logger.sink = some sink → ∀ later, ∃ same,
      (after (operations ++ later)).loggers.get? name = some same ∧ same.sink = some sink
  enabled : ∀ name logger level, (after operations).loggers.get? name = some logger →
    (∀ sink, logger.sink = some sink → logger.isEnabled level = LogSink.isEnabled sink level) ∧
      (logger.sink = none → logger.isEnabled level = true)
  /-- A destination that comes too late is not looked at. Nothing is changed,
  unless the logger that gives the warning has to be made first. -/
  refused : (after operations).isAttached = true → ∃ sink, (after operations).OwnSink sink ∧
    (((after operations).loggers.get? ownName).isSome = true →
      (after operations).withOwnLogger sink = after operations) ∧
    ∀ factory : String → κ, (after operations).attachFactory factory =
      ⟨false, (after operations).withOwnLogger sink,
        if LogSink.isEnabled sink .warn then [⟨sink, ownName, lateEntry⟩] else []⟩
  attachSink_eq : ∀ sink,
    (after operations).attachSink sink = (after operations).attachFactory fun _ => sink
  refusedSilently : (after operations).isAttached = true →
    ∀ sink, (after operations).tryAttachSink sink = ⟨false, after operations, []⟩
  /-- A logger that is fetched is there from then on. -/
  fetched : ∀ name, ((after operations).getLogger name).context.loggers.get? name =
    some ((after operations).getLogger name).answer
  stays : ∀ name, ((after operations).loggers.get? name).isSome = true →
    ∀ later, ((after (operations ++ later)).loggers.get? name).isSome = true
  /-- Whoever fetches it again gets the same one, without any effect. -/
  fetchedAgain : ∀ name logger, (after operations).loggers.get? name = some logger →
    (after operations).getLogger name = ⟨logger, after operations, []⟩

variable {operations : List (LogOperation κ)}

theorem answer_attachFactory_after (factory : String → κ) :
    ((after operations).attachFactory factory).answer = !operations.any setsDestination := by
  rw [← isAttached_after, LoggerContext.isAttached]
  cases hFactory : (after operations).factory with
  | some installed => rw [LoggerContext.attachFactory_of_set hFactory]; rfl
  | none => simp [LoggerContext.attachFactory_of_unset hFactory, LoggerContext.install, hFactory]

theorem answer_tryAttachSink_after (sink : κ) :
    ((after operations).tryAttachSink sink).answer = !operations.any setsDestination := by
  rw [← isAttached_after, LoggerContext.isAttached, LoggerContext.tryAttachSink]
  cases hFactory : (after operations).factory with
  | some installed => rw [LoggerContext.install_of_set hFactory]; rfl
  | none => simp [LoggerContext.install, hFactory]

/-- A logger that has a sink keeps nothing back. -/
theorem eq_of_sink {name : String} {logger : Logger κ} {sink : κ}
    (hGet : (after operations).loggers.get? name = some logger)
    (hSink : logger.sink = some sink) : logger = ⟨some sink, {}⟩ := by
  have hLogger : (after operations).loggerOf name = logger := by
    rw [LoggerContext.loggerOf, hGet]
    rfl
  have hSinkOf : sinkOf name operations = some sink := by rw [sinkOf, hLogger, hSink]
  obtain ⟨early, operation, late, rfl, hNone, hGiven⟩ := exists_given hSinkOf
  rw [← hLogger]
  exact (delivered_of_given hNone hGiven late).2

theorem sinkStays_after {name : String} {logger : Logger κ} {sink : κ}
    (hGet : (after operations).loggers.get? name = some logger) (hSink : logger.sink = some sink)
    (later : List (LogOperation κ)) :
    ∃ same, (after (operations ++ later)).loggers.get? name = some same ∧ same.sink = some sink := by
  have hThere : ((after operations).loggers.get? name).isSome = true := by rw [hGet]; rfl
  have hLater := isSome_get?_run later hThere
  rw [← after_append] at hLater
  obtain ⟨same, hSame⟩ := Option.isSome_iff_exists.mp hLater
  have hSinkOf : sinkOf name operations = some sink := by
    rw [sinkOf, LoggerContext.loggerOf, hGet]
    exact hSink
  have hStays := sinkOf_append hSinkOf later
  rw [sinkOf, LoggerContext.loggerOf, hSame] at hStays
  exact ⟨same, hSame, hStays⟩

/-- The warning about a destination that comes too late. -/
theorem log_late (hAttached : (after operations).isAttached = true) :
    ∃ sink, (after operations).OwnSink sink ∧
      (((after operations).loggers.get? ownName).isSome = true →
        (after operations).withOwnLogger sink = after operations) ∧
      (after operations).log ownName lateEntry =
        ⟨(), (after operations).withOwnLogger sink, Logger.deliveries ownName sink [lateEntry]⟩ := by
  cases hOwn : (after operations).loggers.get? ownName with
  | some logger =>
      have hLogger := allAttached_after operations hAttached ownName logger hOwn
      obtain ⟨sink, hSink⟩ := Option.isSome_iff_exists.mp hLogger
      obtain rfl := eq_of_sink hOwn hSink
      have fetched := LoggerContext.getLogger_of_get? (allAttached_after operations) hOwn
      have hSame : (after operations).withOwnLogger sink = after operations := by
        rw [LoggerContext.withOwnLogger, Dictionary.insert_of_get? hOwn]
      refine ⟨sink, ⟨?_, ?_⟩, fun _ => hSame, ?_⟩
      · intro other hOther
        rw [hOwn] at hOther
        cases hOther
        rfl
      · intro hAbsent
        rw [hOwn] at hAbsent
        cases hAbsent
      · exact LoggerContext.log_of_answer (by rw [fetched]) (by rw [fetched]) lateEntry
  | none =>
      obtain ⟨factory, hFactory⟩ := Option.isSome_iff_exists.mp hAttached
      obtain ⟨hAnswer, hNothing⟩ := LoggerContext.getLogger_of_get?_none hFactory hOwn
      refine ⟨factory ownName, ⟨?_, ?_⟩, nofun, ?_⟩
      · intro other hOther
        rw [hOwn] at hOther
        cases hOther
      · intro _
        exact ⟨factory, hFactory, rfl⟩
      · exact LoggerContext.log_of_answer hAnswer hNothing lateEntry

/-- A context has one destination, whatever is done with it. -/
theorem singleDestination (operations : List (LogOperation κ)) : SingleDestination operations := by
  have hIsAttached := isAttached_after operations
  constructor
  · intro sink factory
    exact ⟨answer_attachFactory_after _, answer_attachFactory_after factory,
      answer_tryAttachSink_after sink⟩
  · exact hIsAttached
  · intro hAttached later
    rw [isAttached_after, List.any_append, ← hIsAttached, hAttached]
    rfl
  · intro hAttached name logger hGet
    have hLogger := allAttached_after operations hAttached name logger hGet
    obtain ⟨sink, hSink⟩ := Option.isSome_iff_exists.mp hLogger
    exact ⟨hLogger, by rw [eq_of_sink hGet hSink]; rfl⟩
  · intro name logger sink hGet hSink later
    exact sinkStays_after hGet hSink later
  · intro name logger level _
    constructor
    · intro sink hSink
      rw [Logger.isEnabled, hSink]
    · intro hNone
      rw [Logger.isEnabled, hNone]
  · intro hAttached
    obtain ⟨sink, own, hSame, hLog⟩ := log_late hAttached
    obtain ⟨installed, hFactory⟩ := Option.isSome_iff_exists.mp hAttached
    refine ⟨sink, own, hSame, ?_⟩
    intro factory
    rw [LoggerContext.attachFactory_of_set hFactory, hLog]
    cases hEnabled : LogSink.isEnabled sink .warn <;>
      simp [Logger.deliveries, lateEntry, hEnabled]
  · intro sink
    rfl
  · intro hAttached sink
    obtain ⟨installed, hFactory⟩ := Option.isSome_iff_exists.mp hAttached
    exact LoggerContext.install_of_set hFactory _
  · intro name
    rw [LoggerContext.get?_getLogger, if_pos rfl]
  · intro name hThere later
    rw [after_append]
    exact isSome_get?_run later hThere
  · intro name logger hGet
    exact LoggerContext.getLogger_of_get? (allAttached_after operations) hGet

end LogOperation

end BusEndpoint
