import BusEndpoint.Proofs.Logging.Operations

/-! Which loggers a context has. A logger that was fetched once stays, and once a
destination is set every logger that is there has a sink. Fetching it again is
then without effect, so that it makes no difference whether a logger is used as
it was handed out or fetched anew. -/

namespace BusEndpoint

variable {κ : Type}

theorem Dictionary.insert_of_get? {β : Type} {d : Dictionary β} {name : String} {value : β}
    (h : d.get? name = some value) : d.insert name value = d := by
  apply ext_get?
  intro query
  rw [get?_insert]
  split
  · rename_i hName
    rw [← hName, h]
  · rfl

namespace Logger

variable [LogSink κ]

theorem sink_write (name : String) (entry : LogEntry) (logger : Logger κ) :
    (logger.write name entry).1.sink = logger.sink := by
  unfold write
  split
  · rfl
  · rename_i hSink
    rw [hSink]

theorem sink_attach (name : String) (sink : κ) (logger : Logger κ) :
    (logger.attach name sink).2.1.sink = logger.sink.or (some sink) := by
  unfold attach
  split
  · rename_i other hSink
    rw [hSink]
    rfl
  · rename_i hSink
    rw [hSink]
    rfl

end Logger

namespace LoggerContext

variable [LogSink κ] {context : LoggerContext κ} {name other : String}

theorem context_getLogger (context : LoggerContext κ) (name : String) :
    (context.getLogger name).context =
      { context with loggers := context.loggers.insert name (context.getLogger name).answer } := by
  rw [getLogger]
  split <;> rfl

theorem get?_getLogger (context : LoggerContext κ) (other name : String) :
    (context.getLogger other).context.loggers.get? name =
      if other = name then some (context.getLogger other).answer else context.loggers.get? name := by
  rw [context_getLogger, Dictionary.get?_insert]

theorem get?_log (context : LoggerContext κ) (other : String) (entry : LogEntry) (name : String) :
    (context.log other entry).context.loggers.get? name =
      if other = name then some ((context.getLogger other).answer.write other entry).1
      else context.loggers.get? name := by
  change Dictionary.get? (Dictionary.insert _ _ _) _ = _
  rw [Dictionary.get?_insert, get?_getLogger]
  split <;> rfl

theorem get?_attachLogger (context : LoggerContext κ) (other : String) (sink : κ) (name : String) :
    (context.attachLogger other sink).context.loggers.get? name =
      if other = name then some ((context.getLogger other).answer.attach other sink).2.1
      else context.loggers.get? name := by
  change Dictionary.get? (Dictionary.insert _ _ _) _ = _
  rw [Dictionary.get?_insert, get?_getLogger]
  split <;> rfl

/-- A logger that is fetched is given the sink that is meant for it, unless it has
one. -/
theorem sink_getLogger (context : LoggerContext κ) (name : String) :
    (context.getLogger name).answer.sink =
      (context.loggerOf name).sink.or (context.factory.map fun factory => factory name) := by
  rw [getLogger]
  split
  · rename_i factory hFactory hSink
    rw [hFactory]
    exact Logger.sink_attach name (factory name) (context.loggerOf name)
  · rename_i hNotBoth
    cases hSink : (context.loggerOf name).sink with
    | some sink => exact hSink
    | none =>
        cases hFactory : context.factory with
        | some factory => exact absurd hSink (hNotBoth factory hFactory)
        | none => exact hSink

/-- Every logger that is there has a sink if a destination is set. -/
def AllAttached (context : LoggerContext κ) : Prop :=
  context.isAttached = true → ∀ name logger, context.loggers.get? name = some logger →
    logger.isAttached = true

theorem isAttached_getLogger (hAttached : context.isAttached = true) (name : String) :
    (context.getLogger name).answer.isAttached = true := by
  obtain ⟨factory, hFactory⟩ := Option.isSome_iff_exists.mp hAttached
  rw [Logger.isAttached, sink_getLogger, hFactory]
  cases (context.loggerOf name).sink with
  | some sink => rfl
  | none => rfl

/-- Fetching a logger that is there and needs no sink is without effect. -/
theorem getLogger_of_get? {logger : Logger κ} (allAttached : context.AllAttached)
    (hGet : context.loggers.get? name = some logger) :
    context.getLogger name = ⟨logger, context, []⟩ := by
  have hSame : context.loggers.insert name logger = context.loggers := Dictionary.insert_of_get? hGet
  rw [getLogger, hGet]
  simp only [Option.getD_some]
  split
  · rename_i factory hFactory hSink
    have hAttached := allAttached (by rw [isAttached, hFactory]; rfl) name logger hGet
    rw [Logger.isAttached, hSink] at hAttached
    cases hAttached
  · rw [hSame]

omit [LogSink κ] in
/-- An operation on one logger leaves the destination and all other loggers as
they are. -/
theorem AllAttached.of_get? {logger : Logger κ} {next : LoggerContext κ}
    (allAttached : context.AllAttached) (hFactory : next.factory = context.factory)
    (hGet : ∀ name, next.loggers.get? name =
      if other = name then some logger else context.loggers.get? name)
    (hLogger : context.isAttached = true → logger.isAttached = true) : next.AllAttached := by
  intro hAttached name found hFound
  have hAttached : context.isAttached = true := by
    rw [isAttached, ← hFactory]
    exact hAttached
  rw [hGet] at hFound
  split at hFound
  · obtain rfl := Option.some.inj hFound
    exact hLogger hAttached
  · exact allAttached hAttached name found hFound

theorem AllAttached.getLogger (allAttached : context.AllAttached) (other : String) :
    (context.getLogger other).context.AllAttached :=
  allAttached.of_get? (factory_getLogger context other) (get?_getLogger context other)
    fun hAttached => isAttached_getLogger hAttached other

theorem AllAttached.log (allAttached : context.AllAttached) (other : String) (entry : LogEntry) :
    (context.log other entry).context.AllAttached := by
  apply allAttached.of_get? (factory_log context other entry) (get?_log context other entry)
  intro hAttached
  rw [Logger.isAttached, Logger.sink_write]
  exact isAttached_getLogger hAttached other

theorem AllAttached.attachLogger (allAttached : context.AllAttached) (other : String) (sink : κ) :
    (context.attachLogger other sink).context.AllAttached := by
  apply allAttached.of_get? (factory_attachLogger context other sink)
    (get?_attachLogger context other sink)
  intro hAttached
  rw [Logger.isAttached, Logger.sink_attach, Option.isSome_or]
  exact Bool.or_eq_true_iff.mpr (.inr rfl)

theorem AllAttached.install (allAttached : context.AllAttached) (factory : String → κ) :
    (context.install factory).context.AllAttached := by
  cases hFactory : context.factory with
  | some installed => rwa [install_of_set hFactory]
  | none =>
      intro _ name logger hGet
      rw [get?_install hFactory] at hGet
      obtain ⟨before, -, rfl⟩ := Option.map_eq_some_iff.mp hGet
      rw [Logger.isAttached, Logger.sink_attach, Option.isSome_or]
      exact Bool.or_eq_true_iff.mpr (.inr rfl)

theorem AllAttached.attachFactory (allAttached : context.AllAttached) (factory : String → κ) :
    (context.attachFactory factory).context.AllAttached := by
  cases hFactory : context.factory with
  | some installed =>
      rw [attachFactory_of_set hFactory]
      exact allAttached.log ownName lateEntry
  | none =>
      rw [attachFactory_of_unset hFactory]
      exact allAttached.install factory

omit [LogSink κ] in
theorem isSome_get?_of_eq_ite {d e : Dictionary (Logger κ)} {logger : Logger κ}
    (hGet : d.get? name = if other = name then some logger else e.get? name)
    (hThere : (e.get? name).isSome = true) : (d.get? name).isSome = true := by
  rw [hGet]
  split
  · rfl
  · exact hThere

theorem isSome_get?_install (factory : String → κ)
    (hThere : (context.loggers.get? name).isSome = true) :
    ((context.install factory).context.loggers.get? name).isSome = true := by
  cases hFactory : context.factory with
  | some installed => rwa [install_of_set hFactory]
  | none => rwa [get?_install hFactory, Option.isSome_map]

theorem isSome_get?_attachFactory (factory : String → κ)
    (hThere : (context.loggers.get? name).isSome = true) :
    ((context.attachFactory factory).context.loggers.get? name).isSome = true := by
  cases hFactory : context.factory with
  | some installed =>
      rw [attachFactory_of_set hFactory]
      exact isSome_get?_of_eq_ite (get?_log context ownName lateEntry name) hThere
  | none =>
      rw [attachFactory_of_unset hFactory]
      exact isSome_get?_install factory hThere

end LoggerContext

namespace LogOperation

variable [LogSink κ] {context : LoggerContext κ} {name : String}

theorem allAttached_perform (allAttached : context.AllAttached) (operation : LogOperation κ) :
    (operation.perform context).context.AllAttached := by
  cases operation with
  | getLogger other => exact allAttached.getLogger other
  | log other entry => exact allAttached.log other entry
  | attachLogger other sink => exact allAttached.attachLogger other sink
  | attachSink sink => exact allAttached.attachFactory _
  | attachFactory factory => exact allAttached.attachFactory factory
  | tryAttachSink sink => exact allAttached.install _

theorem allAttached_run (allAttached : context.AllAttached) (operations : List (LogOperation κ)) :
    (run context operations).context.AllAttached := by
  induction operations generalizing context with
  | nil => exact allAttached
  | cons operation rest ih => exact ih (allAttached_perform allAttached operation)

theorem allAttached_after (operations : List (LogOperation κ)) :
    (after operations).AllAttached :=
  allAttached_run (fun hAttached => by cases hAttached) operations

theorem isSome_get?_perform (operation : LogOperation κ)
    (hThere : (context.loggers.get? name).isSome = true) :
    ((operation.perform context).context.loggers.get? name).isSome = true := by
  cases operation with
  | getLogger other =>
      exact LoggerContext.isSome_get?_of_eq_ite (context.get?_getLogger other name) hThere
  | log other entry =>
      exact LoggerContext.isSome_get?_of_eq_ite (context.get?_log other entry name) hThere
  | attachLogger other sink =>
      exact LoggerContext.isSome_get?_of_eq_ite (context.get?_attachLogger other sink name) hThere
  | attachSink sink => exact LoggerContext.isSome_get?_attachFactory _ hThere
  | attachFactory factory => exact LoggerContext.isSome_get?_attachFactory factory hThere
  | tryAttachSink sink => exact LoggerContext.isSome_get?_install _ hThere

theorem isSome_get?_run (operations : List (LogOperation κ))
    (hThere : (context.loggers.get? name).isSome = true) :
    ((run context operations).context.loggers.get? name).isSome = true := by
  induction operations generalizing context with
  | nil => exact hThere
  | cons operation rest ih => exact ih (isSome_get?_perform operation hThere)

end LogOperation

end BusEndpoint
