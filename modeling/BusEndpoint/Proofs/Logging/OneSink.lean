import BusEndpoint.Proofs.Logging.Registry

/-! Contexts whose loggers all have one sink. As long as no destination is set none
of the loggers has a sink; the sink that is set then becomes that of all loggers
and takes over what has waited, and fetching loggers and logging on them leaves it
at that. -/

namespace BusEndpoint

variable {κ : Type}

/-- What is logged for a destination that comes too late. -/
def Delivery.IsLate (delivery : Delivery κ) : Prop :=
  delivery.logger = LoggerContext.ownName ∧ delivery.entry = LoggerContext.lateEntry

/-- The operation is to fetch a logger or to log an entry, and the entry does not
tell of a destination that comes too late. -/
def LogOperation.IsPlain : LogOperation κ → Prop
  | getLogger _ => True
  | log name entry => name = LoggerContext.ownName → entry ≠ LoggerContext.lateEntry
  | attachLogger _ _ | attachSink _ | attachFactory _ | tryAttachSink _ => False

theorem PendingEntries.mem_toList_push {pending : PendingEntries} {entry other : LogEntry} :
    other ∈ (pending.push entry).toList ↔ other ∈ pending.toList ∨ other = entry := by
  rw [push]
  split
  · simp only [toList, List.mem_append, List.mem_singleton, or_assoc]
  · split
    · simp only [toList, List.mem_append, List.mem_singleton]
      grind
    · simp only [toList, List.mem_append, List.mem_singleton]
      grind

/-- The logger has this sink, and keeps nothing back if it has one. -/
structure Logger.IsAt (logger : Logger κ) (sink : Option κ) : Prop where
  sink_eq : logger.sink = sink
  nothingWaits : sink.isSome = true → logger.pending = {}

theorem Logger.IsAt.eq {logger : Logger κ} {sink : κ} (isAt : logger.IsAt (some sink)) :
    logger = ⟨some sink, {}⟩ := by
  obtain ⟨own, pending⟩ := logger
  obtain ⟨rfl, hPending⟩ := isAt
  rw [Logger.mk.injEq]
  exact ⟨rfl, hPending rfl⟩

namespace LoggerContext

/-- All loggers, those that come later included, have this sink; without one none
of them has any. No logger keeps back that a destination came too late. -/
structure LogsTo (context : LoggerContext κ) (sink : Option κ) : Prop where
  factory : context.factory = sink.map fun sink _ => sink
  loggers : ∀ name logger, context.loggers.get? name = some logger → logger.IsAt sink
  unwarned : lateEntry ∉ (context.loggerOf ownName).pending.toList

variable {context : LoggerContext κ} {sink : Option κ} {name : String} {logger : Logger κ}

theorem LogsTo.allAttached (logsTo : context.LogsTo sink) : context.AllAttached := by
  intro hAttached name logger hGet
  rw [isAttached, logsTo.factory, Option.isSome_map] at hAttached
  rw [Logger.isAttached, (logsTo.loggers name logger hGet).sink_eq]
  exact hAttached

/-- Without a sink for all of them, no logger has one. -/
theorem LogsTo.sink_loggerOf (logsTo : context.LogsTo none) : (context.loggerOf name).sink = none := by
  rw [loggerOf]
  cases hGet : context.loggers.get? name with
  | none => rfl
  | some logger => exact (logsTo.loggers name logger hGet).sink_eq

/-- Nothing changes if one logger is replaced by another one at the same sink. -/
theorem LogsTo.insert (logsTo : context.LogsTo sink) (isAt : logger.IsAt sink)
    (hUnwarned : name = ownName → lateEntry ∉ logger.pending.toList) :
    LogsTo { context with loggers := context.loggers.insert name logger } sink where
  factory := logsTo.factory
  loggers other found hFound := by
    simp only [Dictionary.get?_insert] at hFound
    split at hFound
    · obtain rfl := Option.some.inj hFound
      exact isAt
    · exact logsTo.loggers other found hFound
  unwarned := by
    rw [loggerOf_insert]
    split
    · rename_i hName
      exact hUnwarned hName
    · exact logsTo.unwarned

variable [LogSink κ]

/-- Fetching a logger delivers nothing, for what waits has been taken over. -/
theorem LogsTo.getLogger (logsTo : context.LogsTo sink) (name : String) :
    ∃ logger : Logger κ, logger.IsAt sink ∧ logger.pending = (context.loggerOf name).pending ∧
      context.getLogger name =
        ⟨logger, { context with loggers := context.loggers.insert name logger }, []⟩ := by
  cases hGet : context.loggers.get? name with
  | some logger =>
      refine ⟨logger, logsTo.loggers name logger hGet, ?_, ?_⟩
      · rw [loggerOf, hGet]
        rfl
      · rw [getLogger_of_get? logsTo.allAttached hGet, Dictionary.insert_of_get? hGet]
  | none =>
      have hPending : ({} : PendingEntries) = (context.loggerOf name).pending := by
        rw [loggerOf, hGet]
        rfl
      refine ⟨⟨sink, {}⟩, ⟨rfl, fun _ => rfl⟩, hPending, ?_⟩
      cases sink with
      | some sink => simp [LoggerContext.getLogger, hGet, logsTo.factory, Logger.attach,
          Logger.deliveries, PendingEntries.toList]
      | none => simp [LoggerContext.getLogger, hGet, logsTo.factory]

/-- An entry that is logged goes to the sink, or waits if there is none. -/
theorem LogsTo.log (logsTo : context.LogsTo sink) (name : String) (entry : LogEntry) :
    ∃ logger : Logger κ, logger.IsAt sink ∧
      (∀ waiting ∈ logger.pending.toList,
        waiting ∈ (context.loggerOf name).pending.toList ∨ waiting = entry) ∧
      context.log name entry =
        ⟨(), { context with loggers := context.loggers.insert name logger },
          (sink.map fun sink => Logger.deliveries name sink [entry]).getD []⟩ := by
  obtain ⟨logger, isAt, hPending, hFetched⟩ := logsTo.getLogger name
  cases sink with
  | some sink =>
      refine ⟨logger, isAt, ?_, ?_⟩
      · intro waiting hWaiting
        exact .inl (hPending ▸ hWaiting)
      · simp only [LoggerContext.log, hFetched, Logger.write, isAt.sink_eq,
          Dictionary.insert_insert]
        rfl
  | none =>
      refine ⟨{ logger with pending := logger.pending.push entry }, ⟨isAt.sink_eq, nofun⟩, ?_, ?_⟩
      · intro waiting hWaiting
        rw [← hPending]
        exact PendingEntries.mem_toList_push.mp hWaiting
      · simp only [LoggerContext.log, hFetched, Logger.write, isAt.sink_eq,
          Dictionary.insert_insert]
        rfl

end LoggerContext

namespace Logger

variable [LogSink κ]

theorem sink_of_mem_deliveries {name : String} {sink : κ} {entries : List LogEntry}
    {delivery : Delivery κ} (hDelivery : delivery ∈ deliveries name sink entries) :
    delivery.sink = sink ∧ delivery.logger = name ∧ delivery.entry ∈ entries := by
  obtain ⟨entry, hEntry, rfl⟩ := List.mem_map.mp hDelivery
  exact ⟨rfl, rfl, (List.mem_filter.mp hEntry).1⟩

end Logger

namespace LogOperation

open LoggerContext (ownName lateEntry)

variable [LogSink κ] {context : LoggerContext κ} {sink : Option κ}

/-- Plain use of the loggers does not change their sink, and nobody else is given
what they log. -/
theorem logsTo_perform {operation : LogOperation κ} (plain : operation.IsPlain)
    (logsTo : context.LogsTo sink) :
    (operation.perform context).context.LogsTo sink ∧
      ∀ delivery ∈ (operation.perform context).deliveries,
        sink = some delivery.sink ∧ ¬delivery.IsLate := by
  cases operation with
  | getLogger name =>
      obtain ⟨logger, isAt, hPending, hFetched⟩ := logsTo.getLogger name
      simp only [perform, Logged.withoutAnswer, hFetched]
      refine ⟨logsTo.insert isAt ?_, List.forall_mem_nil _⟩
      rintro rfl
      rw [hPending]
      exact logsTo.unwarned
  | log name entry =>
      obtain ⟨logger, isAt, hPending, hLogged⟩ := logsTo.log name entry
      simp only [perform, hLogged]
      refine ⟨logsTo.insert isAt ?_, ?_⟩
      · rintro rfl hWaiting
        rcases hPending _ hWaiting with hWaiting | hEntry
        · exact logsTo.unwarned hWaiting
        · exact plain rfl hEntry.symm
      · intro delivery hDelivery
        cases sink with
        | none => cases hDelivery
        | some sink =>
            obtain ⟨hSink, hLogger, hEntry⟩ := Logger.sink_of_mem_deliveries hDelivery
            refine ⟨congrArg some hSink.symm, ?_⟩
            rintro ⟨hOwn, hLate⟩
            exact plain (hLogger.symm.trans hOwn) ((List.mem_singleton.mp hEntry).symm.trans hLate)
  | attachLogger name sink => exact plain.elim
  | attachSink sink => exact plain.elim
  | attachFactory factory => exact plain.elim
  | tryAttachSink sink => exact plain.elim

theorem logsTo_run {operations : List (LogOperation κ)}
    (plain : ∀ operation ∈ operations, operation.IsPlain) (logsTo : context.LogsTo sink) :
    (run context operations).context.LogsTo sink ∧
      ∀ delivery ∈ (run context operations).deliveries,
        sink = some delivery.sink ∧ ¬delivery.IsLate := by
  induction operations generalizing context with
  | nil => exact ⟨logsTo, nofun⟩
  | cons operation rest ih =>
      obtain ⟨hOperation, hRest⟩ := List.forall_mem_cons.mp plain
      obtain ⟨logsTo, hFirst⟩ := logsTo_perform hOperation logsTo
      obtain ⟨logsTo, hLater⟩ := ih hRest logsTo
      refine ⟨logsTo, ?_⟩
      intro delivery hDelivery
      rcases List.mem_append.mp hDelivery with hDelivery | hDelivery
      · exact hFirst delivery hDelivery
      · exact hLater delivery hDelivery

end LogOperation

namespace LoggerContext

variable [LogSink κ] {context : LoggerContext κ}

/-- Each logger hands over what it has kept back, and nothing else. -/
theorem LogsTo.fromLogger_install (logsTo : context.LogsTo none) (sink : κ) (name : String) :
    Delivery.fromLogger name (context.tryAttachSink sink).deliveries =
      Logger.deliveries name sink (context.loggerOf name).pending.toList := by
  rw [tryAttachSink, LoggerContext.fromLogger_install logsTo.factory, loggerOf]
  cases hGet : context.loggers.get? name with
  | none => rfl
  | some logger =>
      rw [Option.map_some, Option.getD_some, Option.getD_some, Logger.attach,
        (logsTo.loggers name logger hGet).sink_eq]

/-- The first sink that is set becomes that of all loggers. -/
theorem LogsTo.install (logsTo : context.LogsTo none) (sink : κ) :
    (context.tryAttachSink sink).context.LogsTo (some sink) ∧
      ∀ delivery ∈ (context.tryAttachSink sink).deliveries,
        delivery.sink = sink ∧ ¬delivery.IsLate := by
  have hLogger (name : String) (logger : Logger κ)
      (hGet : (context.tryAttachSink sink).context.loggers.get? name = some logger) :
      logger.IsAt (some sink) := by
    rw [tryAttachSink, get?_install logsTo.factory] at hGet
    obtain ⟨before, hBefore, rfl⟩ := Option.map_eq_some_iff.mp hGet
    rw [Logger.attach, (logsTo.loggers name before hBefore).sink_eq]
    exact ⟨rfl, fun _ => rfl⟩
  refine ⟨⟨?_, hLogger, ?_⟩, ?_⟩
  · rw [tryAttachSink, factory_install, logsTo.factory]
    rfl
  · rw [loggerOf]
    cases hGet : (context.tryAttachSink sink).context.loggers.get? ownName with
    | none => exact List.not_mem_nil
    | some logger =>
        rw [Option.getD_some, (hLogger ownName logger hGet).eq]
        exact List.not_mem_nil
  · intro delivery hDelivery
    have hOwn : delivery ∈ Delivery.fromLogger delivery.logger
        (context.tryAttachSink sink).deliveries :=
      List.mem_filter.mpr ⟨hDelivery, decide_eq_true rfl⟩
    rw [logsTo.fromLogger_install] at hOwn
    obtain ⟨hSink, -, hEntry⟩ := Logger.sink_of_mem_deliveries hOwn
    refine ⟨hSink, ?_⟩
    rintro ⟨hName, hLate⟩
    rw [hName, hLate] at hEntry
    exact logsTo.unwarned hEntry

end LoggerContext

end BusEndpoint
