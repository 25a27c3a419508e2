import BusEndpoint.Proofs.Logging.Registry

/-! Which operation gives a logger which sink. A logger is given the sink that is
attached to it, or the one that the first destination has for it, whichever comes
first. The destination reaches the loggers that have been fetched when it is set,
and all others when they are fetched. -/

namespace BusEndpoint

variable {κ : Type}

namespace LoggerContext

variable [LogSink κ] {context next : LoggerContext κ} {name other : String} {logger : Logger κ}

/-- A logger without a sink is given one when it is fetched, if there is one for it,
or else by what is done with it then. -/
theorem sink_of_fetched {given : Option κ} (hNone : (context.loggerOf name).sink = none)
    (hGet : next.loggers.get? name =
      if other = name then some logger else context.loggers.get? name)
    (hSink : logger.sink = (context.getLogger other).answer.sink.or given) :
    (next.loggerOf name).sink =
      if other = name then (context.factory.map fun factory => factory name).or given
      else none := by
  rw [loggerOf, hGet]
  split
  · rename_i hName
    subst hName
    rw [Option.getD_some, hSink, sink_getLogger, hNone, Option.none_or]
  · exact hNone

theorem sink_getLogger_of_none (hNone : (context.loggerOf name).sink = none) (other : String) :
    ((context.getLogger other).context.loggerOf name).sink =
      if other = name then context.factory.map fun factory => factory name else none := by
  rw [sink_of_fetched hNone (get?_getLogger context other name) Option.or_none.symm, Option.or_none]

theorem sink_log_of_none (hNone : (context.loggerOf name).sink = none) (other : String)
    (entry : LogEntry) :
    ((context.log other entry).context.loggerOf name).sink =
      if other = name then context.factory.map fun factory => factory name else none := by
  have hSink := Logger.sink_write other entry (context.getLogger other).answer
  rw [sink_of_fetched hNone (get?_log context other entry name) (hSink.trans Option.or_none.symm),
    Option.or_none]

theorem sink_attachLogger_of_none (hNone : (context.loggerOf name).sink = none) (other : String)
    (sink : κ) :
    ((context.attachLogger other sink).context.loggerOf name).sink =
      if other = name then (context.factory.map fun factory => factory name).or (some sink)
      else none :=
  sink_of_fetched hNone (get?_attachLogger context other sink name) (Logger.sink_attach ..)

/-- The destination is given to the loggers that are there when it is set. -/
theorem sink_install_of_none {factory : String → κ} (hUnset : context.factory = none)
    (hNone : (context.loggerOf name).sink = none) :
    ((context.install factory).context.loggerOf name).sink =
      if (context.loggers.get? name).isSome then some (factory name) else none := by
  rw [loggerOf] at hNone ⊢
  rw [get?_install hUnset]
  cases hGet : context.loggers.get? name with
  | none => rfl
  | some logger =>
      rw [hGet] at hNone
      exact (Logger.sink_attach name (factory name) logger).trans (congrArg (Option.or · _) hNone)

end LoggerContext

namespace LogOperation

/-- The first destination that is set for all loggers. -/
def firstDestination (operations : List (LogOperation κ)) : Option (String → κ) :=
  operations.findSome? destination?

/-- The operation fetches the logger of this name. If a destination is set by then,
a later one is refused with a warning, for which the own logger is fetched. -/
def fetches (name : String) (attached : Bool) : LogOperation κ → Bool
  | getLogger other | log other _ | attachLogger other _ => decide (other = name)
  | attachSink _ | attachFactory _ => attached && decide (LoggerContext.ownName = name)
  | tryAttachSink _ => false

/-- The sink that the operation gives to the logger of this name while there is no
destination. The logger may have been fetched by then. -/
def givesUnset (name : String) (fetched : Bool) : LogOperation κ → Option κ
  | getLogger _ | log _ _ => none
  | attachLogger other sink => if other = name then some sink else none
  | attachSink sink | tryAttachSink sink => if fetched then some sink else none
  | attachFactory factory => if fetched then some (factory name) else none

/-- The sink that the operation gives to the logger of this name, which has none
after these operations. -/
def gives (name : String) (past : List (LogOperation κ)) (operation : LogOperation κ) :
    Option κ :=
  match firstDestination past with
  | some factory => if operation.fetches name true then some (factory name) else none
  | none => operation.givesUnset name (past.any (fetches name false))

variable [LogSink κ] {context : LoggerContext κ} {name : String}

theorem factory_run (context : LoggerContext κ) (operations : List (LogOperation κ)) :
    (run context operations).context.factory =
      context.factory.or (firstDestination operations) := by
  induction operations generalizing context with
  | nil => exact Option.or_none.symm
  | cons operation rest ih =>
      rw [run, ih, factory_perform, Option.or_assoc, firstDestination, firstDestination,
        List.findSome?_cons]
      cases operation.destination? <;> rfl

theorem factory_after (operations : List (LogOperation κ)) :
    (after operations).factory = firstDestination operations :=
  factory_run {} operations

/-- An operation that sets no destination adds the logger that it fetches. -/
theorem isSome_get?_perform_of_none {operation : LogOperation κ}
    (hNone : operation.destination? = none) (context : LoggerContext κ) (name : String) :
    ((operation.perform context).context.loggers.get? name).isSome =
      ((context.loggers.get? name).isSome || operation.fetches name false) := by
  have added {next : LoggerContext κ} {other : String} {logger : Logger κ}
      (hGet : next.loggers.get? name =
        if other = name then some logger else context.loggers.get? name) :
      (next.loggers.get? name).isSome =
        ((context.loggers.get? name).isSome || decide (other = name)) := by
    rw [hGet]
    by_cases h : other = name
    · simp [h]
    · simp [h]
  cases operation with
  | getLogger other => exact added (context.get?_getLogger other name)
  | log other entry => exact added (context.get?_log other entry name)
  | attachLogger other sink => exact added (context.get?_attachLogger other sink name)
  | attachSink sink => cases hNone
  | attachFactory factory => cases hNone
  | tryAttachSink sink => cases hNone

/-- Before a destination is set, the loggers that are there are those that were
fetched. -/
theorem isSome_get?_after_of_none {operations : List (LogOperation κ)}
    (hNone : firstDestination operations = none) (name : String) :
    ((after operations).loggers.get? name).isSome = operations.any (fetches name false) := by
  have run_of (context : LoggerContext κ) :
      ((run context operations).context.loggers.get? name).isSome =
        ((context.loggers.get? name).isSome || operations.any (fetches name false)) := by
    rw [firstDestination, List.findSome?_eq_none_iff] at hNone
    induction operations generalizing context with
    | nil => exact (Bool.or_false _).symm
    | cons operation rest ih =>
        obtain ⟨hFirst, hRest⟩ := List.forall_mem_cons.mp hNone
        rw [run, ih hRest, isSome_get?_perform_of_none hFirst, List.any_cons, Bool.or_assoc]
  exact run_of {}

/-- Once a destination is set, whoever fetches a logger gives it the sink that is
meant for it. -/
theorem sink_perform_of_set {factory : String → κ} (hFactory : context.factory = some factory)
    (hNone : (context.loggerOf name).sink = none) (operation : LogOperation κ) :
    ((operation.perform context).context.loggerOf name).sink =
      if operation.fetches name true then some (factory name) else none := by
  have late (destination : String → κ) :
      ((context.attachFactory destination).context.loggerOf name).sink =
        if LoggerContext.ownName = name then some (factory name) else none := by
    rw [LoggerContext.attachFactory_of_set hFactory, LoggerContext.sink_log_of_none hNone, hFactory]
    rfl
  cases operation with
  | getLogger other =>
      have given := LoggerContext.sink_getLogger_of_none hNone other
      simpa [perform, Logged.withoutAnswer, fetches, hFactory] using given
  | log other entry =>
      have given := LoggerContext.sink_log_of_none hNone other entry
      simpa [perform, fetches, hFactory] using given
  | attachLogger other sink =>
      have given := LoggerContext.sink_attachLogger_of_none hNone other sink
      simpa [perform, Logged.withoutAnswer, fetches, hFactory] using given
  | attachSink sink =>
      simpa [perform, Logged.withoutAnswer, LoggerContext.attachSink, fetches] using late _
  | attachFactory destination =>
      simpa [perform, Logged.withoutAnswer, fetches] using late destination
  | tryAttachSink sink =>
      change ((context.install fun _ => sink).context.loggerOf name).sink = none
      rw [LoggerContext.install_of_set hFactory]
      exact hNone

/-- Before that, a logger is given a sink by the operation that attaches it, or by
the one that sets the destination if the logger is there. -/
theorem sink_perform_of_unset (hUnset : context.factory = none)
    (hNone : (context.loggerOf name).sink = none) (operation : LogOperation κ) :
    ((operation.perform context).context.loggerOf name).sink =
      operation.givesUnset name (context.loggers.get? name).isSome := by
  have first (factory : String → κ) :
      ((context.attachFactory factory).context.loggerOf name).sink =
        if (context.loggers.get? name).isSome then some (factory name) else none := by
    rw [LoggerContext.attachFactory_of_unset hUnset]
    exact LoggerContext.sink_install_of_none hUnset hNone
  cases operation with
  | getLogger other =>
      have given := LoggerContext.sink_getLogger_of_none hNone other
      simpa [perform, Logged.withoutAnswer, givesUnset, hUnset] using given
  | log other entry =>
      have given := LoggerContext.sink_log_of_none hNone other entry
      simpa [perform, givesUnset, hUnset] using given
  | attachLogger other sink =>
      have given := LoggerContext.sink_attachLogger_of_none hNone other sink
      rw [hUnset] at given
      exact given
  | attachSink sink => exact first fun _ => sink
  | attachFactory factory => exact first factory
  | tryAttachSink sink => exact LoggerContext.sink_install_of_none hUnset hNone

/-- What an operation gives to a logger without a sink is told from the operations
before. -/
theorem sink_perform_after {operations : List (LogOperation κ)}
    (hNone : ((after operations).loggerOf name).sink = none) (operation : LogOperation κ) :
    ((operation.perform (after operations)).context.loggerOf name).sink =
      operation.gives name operations := by
  have hFactory := factory_after operations
  rw [gives]
  cases hFirst : firstDestination operations with
  | some factory =>
      rw [hFirst] at hFactory
      exact sink_perform_of_set hFactory hNone operation
  | none =>
      rw [hFirst] at hFactory
      rw [sink_perform_of_unset hFactory hNone, isSome_get?_after_of_none hFirst]

end LogOperation

end BusEndpoint
