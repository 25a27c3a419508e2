import BusEndpoint.Logging.Context

/-! Operations on the loggers of one context, one after the other. What an
operation does to the logger of a name does not depend on the other loggers,
and is one of three things: its entries go to the sink that the logger has, or
they wait, or the logger is given a sink before they are logged. -/

namespace BusEndpoint

variable {κ α : Type}

/-- An operation on a context of loggers. Loggers are referred to by name, and
fetched by each operation anew. -/
inductive LogOperation (κ : Type) where
  | getLogger (name : String)
  | log (name : String) (entry : LogEntry)
  | attachLogger (name : String) (sink : κ)
  | attachSink (sink : κ)
  | attachFactory (factory : String → κ)
  | tryAttachSink (sink : κ)

def Logged.withoutAnswer (logged : Logged κ α) : Logged κ Unit :=
  ⟨(), logged.context, logged.deliveries⟩

/-- The deliveries of the logger of this name. -/
def Delivery.fromLogger (name : String) (deliveries : List (Delivery κ)) : List (Delivery κ) :=
  deliveries.filter fun delivery => decide (delivery.logger = name)

theorem Delivery.fromLogger_append (name : String) (first second : List (Delivery κ)) :
    fromLogger name (first ++ second) = fromLogger name first ++ fromLogger name second :=
  List.filter_append first second

def PendingEntries.pushAll (pending : PendingEntries) (entries : List LogEntry) : PendingEntries :=
  entries.foldl push pending

theorem findEntry_map {β γ : Type} (f : String → β → γ) (name : String)
    (entries : List (String × β)) :
    findEntry name (entries.map fun e => (e.1, f e.1 e.2)) = (findEntry name entries).map (f name) := by
  induction entries with
  | nil => rfl
  | cons head rest ih =>
      by_cases h : head.1 = name
      · simp [findEntry, h]
      · simpa [findEntry, h] using ih

theorem OrderedByName.map {β γ : Type} (f : String → β → γ) {entries : List (String × β)}
    (ordered : OrderedByName entries) : OrderedByName (entries.map fun e => (e.1, f e.1 e.2)) :=
  List.pairwise_map.mpr ordered

namespace LoggerContext

/-- The logger of this name, or a blank one if there is none. -/
def loggerOf (name : String) (context : LoggerContext κ) : Logger κ :=
  (context.loggers.get? name).getD {}

/-- What is logged for a destination that comes too late. -/
def lateEntry : LogEntry := { level := .warn, message := lateWarning }

end LoggerContext

namespace LogOperation

/-- The operation is to set the destination of all loggers. -/
def setsDestination : LogOperation κ → Bool
  | attachSink _ | attachFactory _ | tryAttachSink _ => true
  | getLogger _ | log _ _ | attachLogger _ _ => false

/-- The destination that the operation is to set for all loggers. -/
def destination? : LogOperation κ → Option (String → κ)
  | attachSink sink | tryAttachSink sink => some fun _ => sink
  | attachFactory factory => some factory
  | getLogger _ | log _ _ | attachLogger _ _ => none

theorem isSome_destination? (operation : LogOperation κ) :
    operation.destination?.isSome = operation.setsDestination := by
  cases operation <;> rfl

/-- What the operation logs on the logger of this name; a destination may have
been set before. -/
def entries (name : String) (attached : Bool) : LogOperation κ → List LogEntry
  | log other entry => if other = name then [entry] else []
  | attachSink _ | attachFactory _ =>
    if attached = true ∧ LoggerContext.ownName = name then [LoggerContext.lateEntry] else []
  | getLogger _ | attachLogger _ _ | tryAttachSink _ => []

/-- What is logged on the logger of this name by one operation after the
other. -/
def logged (name : String) : Bool → List (LogOperation κ) → List LogEntry
  | _, [] => []
  | attached, operation :: rest =>
    operation.entries name attached ++ logged name (attached || operation.setsDestination) rest

variable [LogSink κ]

def perform (context : LoggerContext κ) : LogOperation κ → Logged κ Unit
  | getLogger name => (context.getLogger name).withoutAnswer
  | log name entry => context.log name entry
  | attachLogger name sink => (context.attachLogger name sink).withoutAnswer
  | attachSink sink => (context.attachSink sink).withoutAnswer
  | attachFactory factory => (context.attachFactory factory).withoutAnswer
  | tryAttachSink sink => (context.tryAttachSink sink).withoutAnswer

/-- Perform one operation after the other. -/
def run (context : LoggerContext κ) : List (LogOperation κ) → Logged κ Unit
  | [] => ⟨(), context, []⟩
  | operation :: rest =>
    let first := operation.perform context
    let later := run first.context rest
    ⟨(), later.context, first.deliveries ++ later.deliveries⟩

/-- What has become of a fresh context. -/
def after (operations : List (LogOperation κ)) : LoggerContext κ := (run {} operations).context

theorem run_append (context : LoggerContext κ) (first second : List (LogOperation κ)) :
    run context (first ++ second) =
      ⟨(), (run (run context first).context second).context,
        (run context first).deliveries ++ (run (run context first).context second).deliveries⟩ := by
  induction first generalizing context with
  | nil => rfl
  | cons operation rest ih => simp only [List.cons_append, run, ih, List.append_assoc]

theorem after_append (first second : List (LogOperation κ)) :
    after (first ++ second) = (run (after first) second).context := by
  rw [after, run_append]
  rfl

end LogOperation

namespace Logger

variable [LogSink κ]

/-- What can become of a logger on which entries are logged, and what it
delivers. -/
inductive Takes (name : String) (logger : Logger κ) (entries : List LogEntry) :
    Logger κ → List (Delivery κ) → Prop where
  | attached {sink : κ} (hSink : logger.sink = some sink) :
      Takes name logger entries logger (deliveries name sink entries)
  | waiting (hSink : logger.sink = none) :
      Takes name logger entries ⟨none, logger.pending.pushAll entries⟩ []
  | attaching {sink : κ} (hSink : logger.sink = none) :
      Takes name logger entries ⟨some sink, {}⟩
        (deliveries name sink (logger.pending.toList ++ entries))

variable {name : String} {logger : Logger κ}

@[simp] theorem deliveries_nil (name : String) (sink : κ) : deliveries name sink [] = [] := rfl

theorem deliveries_append (name : String) (sink : κ) (first second : List LogEntry) :
    deliveries name sink (first ++ second) =
      deliveries name sink first ++ deliveries name sink second := by
  simp [deliveries]

theorem fromLogger_deliveries (name other : String) (sink : κ) (entries : List LogEntry) :
    Delivery.fromLogger name (deliveries other sink entries) =
      if other = name then deliveries other sink entries else [] := by
  rw [Delivery.fromLogger, deliveries, List.filter_map]
  by_cases h : other = name <;> simp [Function.comp_def, h]

/-- Nothing is logged, and nothing happens. -/
theorem Takes.nothing (name : String) (logger : Logger κ) : Takes name logger [] logger [] := by
  cases hSink : logger.sink with
  | some sink => exact .attached hSink
  | none =>
      obtain ⟨sink, pending⟩ := logger
      subst hSink
      exact .waiting rfl

/-- A logger that is perhaps given a sink, and on which entries are logged
then. -/
theorem Takes.trans {middle last : Logger κ} {entries : List LogEntry}
    {first second : List (Delivery κ)} (offered : Takes name logger [] middle first)
    (taken : Takes name middle entries last second) :
    Takes name logger entries last (first ++ second) := by
  cases offered with
  | attached hSink => exact taken
  | waiting hSink =>
      obtain ⟨sink, pending⟩ := logger
      subst hSink
      exact taken
  | attaching hSink =>
      cases taken with
      | attached hSame =>
          cases hSame
          rw [← deliveries_append, List.append_nil]
          exact .attaching hSink
      | waiting hNone => cases hNone
      | attaching hNone => cases hNone

section Inversion

variable {last : Logger κ} {entries : List LogEntry} {delivered : List (Delivery κ)} {sink : κ}

theorem Takes.of_attached (taken : Takes name logger entries last delivered)
    (hSink : logger.sink = some sink) :
    last = logger ∧ delivered = deliveries name sink entries := by
  cases taken with
  | attached hSame => rw [hSink] at hSame; cases hSame; exact ⟨rfl, rfl⟩
  | waiting hNone => rw [hSink] at hNone; cases hNone
  | attaching hNone => rw [hSink] at hNone; cases hNone

theorem Takes.of_unattached (taken : Takes name logger entries last delivered)
    (hSink : last.sink = none) :
    logger.sink = none ∧ last = ⟨none, logger.pending.pushAll entries⟩ ∧ delivered = [] := by
  cases taken with
  | attached hSome => rw [hSink] at hSome; cases hSome
  | waiting hNone => exact ⟨hNone, rfl, rfl⟩
  | attaching hNone => cases hSink

theorem Takes.of_attaching (taken : Takes name logger entries last delivered)
    (hNone : logger.sink = none) (hSink : last.sink = some sink) :
    last = ⟨some sink, {}⟩ ∧
      delivered = deliveries name sink (logger.pending.toList ++ entries) := by
  cases taken with
  | attached hSome => rw [hNone] at hSome; cases hSome
  | waiting _ => cases hSink
  | attaching _ => cases hSink; exact ⟨rfl, rfl⟩

theorem Takes.fromLogger (taken : Takes name logger entries last delivered) (other : String) :
    Delivery.fromLogger other delivered = if name = other then delivered else [] := by
  cases taken with
  | attached hSink => exact fromLogger_deliveries other name _ entries
  | waiting hSink => exact (ite_self _).symm
  | attaching hSink => exact fromLogger_deliveries other name _ _

end Inversion

theorem write_takes (name : String) (entry : LogEntry) (logger : Logger κ) :
    Takes name logger [entry] (logger.write name entry).1 (logger.write name entry).2 := by
  unfold write
  split
  · rename_i sink hSink
    exact .attached hSink
  · rename_i hSink
    obtain ⟨sink, pending⟩ := logger
    subst hSink
    exact .waiting rfl

theorem attach_takes (name : String) (sink : κ) (logger : Logger κ) :
    Takes name logger [] (logger.attach name sink).2.1 (logger.attach name sink).2.2 := by
  unfold attach
  split
  · exact .nothing name logger
  · rename_i hSink
    have taken : Takes name logger [] ⟨some sink, {}⟩
        (deliveries name sink (logger.pending.toList ++ [])) := .attaching hSink
    rwa [List.append_nil] at taken

end Logger

namespace LoggerContext

theorem loggerOf_insert (context : LoggerContext κ) (other name : String) (logger : Logger κ) :
    loggerOf name { context with loggers := context.loggers.insert other logger } =
      if other = name then logger else context.loggerOf name := by
  rw [loggerOf, Dictionary.get?_insert]
  split <;> rfl

variable [LogSink κ] {context : LoggerContext κ} {name other : String}

/-- What becomes of the logger of a name in an operation that logs these entries
on it. -/
def Takes (context : LoggerContext κ) (name : String) (entries : List LogEntry)
    (logged : Logged κ α) : Prop :=
  (context.loggerOf name).Takes name entries (logged.context.loggerOf name)
    (Delivery.fromLogger name logged.deliveries)

/-- An operation on the logger of one name leaves all others alone. -/
theorem takes_insert {logger : Logger κ} {entries : List LogEntry}
    {deliveries : List (Delivery κ)} (answer : α) (name : String)
    (taken : (context.loggerOf other).Takes other entries logger deliveries) :
    context.Takes name (if other = name then entries else [])
      ⟨answer, { context with loggers := context.loggers.insert other logger }, deliveries⟩ := by
  rw [Takes, loggerOf_insert, taken.fromLogger]
  by_cases h : other = name
  · subst h
    simpa using taken
  · simpa [h] using Logger.Takes.nothing name (context.loggerOf name)

/-- Fetching the logger of a name may give it the sink that is meant for it. -/
theorem getLogger_takes (context : LoggerContext κ) (other name : String) :
    context.Takes name [] (context.getLogger other) := by
  rw [getLogger]
  split
  · rename_i factory hFactory hSink
    have taken := takes_insert (context.getLogger other).answer name
      (Logger.attach_takes other (factory other) (context.loggerOf other))
    rw [ite_self] at taken
    exact taken
  · have taken := takes_insert (context.getLogger other).answer name
      (Logger.Takes.nothing other (context.loggerOf other))
    rw [ite_self] at taken
    exact taken

@[simp] theorem factory_getLogger (context : LoggerContext κ) (name : String) :
    (context.getLogger name).context.factory = context.factory := by
  rw [getLogger]
  split <;> rfl

theorem getLogger_answer (context : LoggerContext κ) (name : String) :
    (context.getLogger name).context.loggerOf name = (context.getLogger name).answer := by
  rw [getLogger]
  split <;> simp [loggerOf_insert]

/-- What is done on a logger that has been fetched. -/
theorem fetched_takes {logger : Logger κ} {entries : List LogEntry}
    {deliveries : List (Delivery κ)} (answer : α) (name : String)
    (taken : (context.getLogger other).answer.Takes other entries logger deliveries) :
    context.Takes name (if other = name then entries else [])
      ⟨answer,
        { (context.getLogger other).context with
          loggers := (context.getLogger other).context.loggers.insert other logger },
        (context.getLogger other).deliveries ++ deliveries⟩ := by
  rw [← getLogger_answer] at taken
  have fetched := getLogger_takes context other name
  have done := takes_insert answer name taken
  rw [Takes, Delivery.fromLogger_append]
  exact fetched.trans done

theorem log_takes (context : LoggerContext κ) (other : String) (entry : LogEntry) (name : String) :
    context.Takes name (if other = name then [entry] else []) (context.log other entry) :=
  fetched_takes () name (Logger.write_takes other entry _)

@[simp] theorem factory_log (context : LoggerContext κ) (name : String) (entry : LogEntry) :
    (context.log name entry).context.factory = context.factory :=
  factory_getLogger context name

@[simp] theorem factory_attachLogger (context : LoggerContext κ) (name : String) (sink : κ) :
    (context.attachLogger name sink).context.factory = context.factory :=
  factory_getLogger context name

theorem attachLogger_takes (context : LoggerContext κ) (other : String) (sink : κ)
    (name : String) : context.Takes name [] (context.attachLogger other sink) := by
  have taken := fetched_takes (context.attachLogger other sink).answer name
    (Logger.attach_takes other sink (context.getLogger other).answer)
  rw [ite_self] at taken
  exact taken

/-- Every logger that is there is offered a sink, and delivers for itself
alone. -/
theorem fromLogger_flatMap_attach (factory : String → κ) (name : String)
    {loggers : List (String × Logger κ)} (ordered : OrderedByName loggers) :
    Delivery.fromLogger name (loggers.flatMap fun e => (e.2.attach e.1 (factory e.1)).2.2) =
      ((findEntry name loggers).map fun logger =>
        (logger.attach name (factory name)).2.2).getD [] := by
  induction loggers with
  | nil => rfl
  | cons head rest ih =>
      obtain ⟨first, logger⟩ := head
      obtain ⟨hFirst, hRest⟩ := List.pairwise_cons.mp ordered
      have taken := (Logger.attach_takes first (factory first) logger).fromLogger name
      rw [List.flatMap_cons, Delivery.fromLogger_append, taken, ih hRest]
      by_cases h : first = name
      · subst h
        simp [findEntry, findEntry_eq_none_of_lt hFirst]
      · simp [findEntry, h]

theorem get?_install {factory : String → κ} (hUnset : context.factory = none) (name : String) :
    (context.install factory).context.loggers.get? name =
      (context.loggers.get? name).map fun logger => (logger.attach name (factory name)).2.1 := by
  have ordered := context.loggers.ordered.map
    fun name (logger : Logger κ) => (logger.attach name (factory name)).2.1
  simp only [install, hUnset, List.map_map, Function.comp_def]
  rw [Dictionary.get?_insertAll_of_ordered _ ordered, findEntry_map
    fun name (logger : Logger κ) => (logger.attach name (factory name)).2.1]
  change ((context.loggers.get? name).map _).or (context.loggers.get? name) = _
  cases context.loggers.get? name with
  | none => rfl
  | some logger => rfl

theorem fromLogger_install {factory : String → κ} (hUnset : context.factory = none)
    (name : String) :
    Delivery.fromLogger name (context.install factory).deliveries =
      ((context.loggers.get? name).map fun logger =>
        (logger.attach name (factory name)).2.2).getD [] := by
  simp only [install, hUnset, List.flatMap_map]
  exact fromLogger_flatMap_attach factory name context.loggers.ordered

theorem install_of_set {installed : String → κ} (hSet : context.factory = some installed)
    (factory : String → κ) : context.install factory = ⟨false, context, []⟩ := by
  simp only [install, hSet]

theorem install_takes (context : LoggerContext κ) (factory : String → κ) (name : String) :
    context.Takes name [] (context.install factory) := by
  cases hFactory : context.factory with
  | some installed =>
      rw [install_of_set hFactory]
      exact .nothing name (context.loggerOf name)
  | none =>
      rw [Takes, fromLogger_install hFactory, loggerOf, loggerOf, get?_install hFactory]
      cases context.loggers.get? name with
      | none => exact .nothing name {}
      | some logger => exact Logger.attach_takes name (factory name) logger

theorem attachFactory_of_unset (hUnset : context.factory = none) (factory : String → κ) :
    context.attachFactory factory = context.install factory := by
  simp [attachFactory, install, hUnset]

/-- A destination that comes too late is refused, and this is logged. -/
theorem attachFactory_of_set {installed : String → κ} (hSet : context.factory = some installed)
    (factory : String → κ) :
    context.attachFactory factory =
      ⟨false, (context.log ownName lateEntry).context, (context.log ownName lateEntry).deliveries⟩ := by
  simp only [attachFactory, install_of_set hSet]
  rfl

/-- The first destination stays. -/
theorem factory_install (context : LoggerContext κ) (factory : String → κ) :
    (context.install factory).context.factory = context.factory.or (some factory) := by
  cases hFactory : context.factory with
  | some installed => rw [install_of_set hFactory, hFactory]; rfl
  | none => simp [install, hFactory]

theorem factory_attachFactory (context : LoggerContext κ) (factory : String → κ) :
    (context.attachFactory factory).context.factory = context.factory.or (some factory) := by
  cases hFactory : context.factory with
  | some installed => rw [attachFactory_of_set hFactory, factory_log, hFactory]; rfl
  | none => rw [attachFactory_of_unset hFactory, factory_install, hFactory]

theorem attachFactory_takes (context : LoggerContext κ) (factory : String → κ) (name : String) :
    context.Takes name (if context.isAttached = true ∧ ownName = name then [lateEntry] else [])
      (context.attachFactory factory) := by
  cases hFactory : context.factory with
  | some installed =>
      rw [attachFactory_of_set hFactory]
      simp only [isAttached, hFactory, Option.isSome_some, true_and]
      exact log_takes context ownName lateEntry name
  | none =>
      have taken := install_takes context factory name
      rw [attachFactory_of_unset hFactory]
      simpa [isAttached, hFactory] using taken

end LoggerContext

namespace LogOperation

variable [LogSink κ]

/-- What an operation does to the logger of a name. -/
theorem perform_takes (context : LoggerContext κ) (operation : LogOperation κ) (name : String) :
    context.Takes name (operation.entries name context.isAttached) (operation.perform context) := by
  cases operation with
  | getLogger other => exact context.getLogger_takes other name
  | log other entry => exact context.log_takes other entry name
  | attachLogger other sink => exact context.attachLogger_takes other sink name
  | attachSink sink => exact context.attachFactory_takes _ name
  | attachFactory factory => exact context.attachFactory_takes factory name
  | tryAttachSink sink => exact context.install_takes _ name

/-- Whether a destination is set, and which one, depends on the operations that
set one alone. -/
theorem factory_perform (context : LoggerContext κ) (operation : LogOperation κ) :
    (operation.perform context).context.factory = context.factory.or operation.destination? := by
  cases operation with
  | getLogger name => exact (context.factory_getLogger name).trans Option.or_none.symm
  | log name entry => exact (context.factory_log name entry).trans Option.or_none.symm
  | attachLogger name sink => exact (context.factory_attachLogger name sink).trans Option.or_none.symm
  | attachSink sink => exact context.factory_attachFactory _
  | attachFactory factory => exact context.factory_attachFactory factory
  | tryAttachSink sink => exact context.factory_install _

theorem isAttached_perform (context : LoggerContext κ) (operation : LogOperation κ) :
    (operation.perform context).context.isAttached =
      (context.isAttached || operation.setsDestination) := by
  rw [LoggerContext.isAttached, factory_perform, Option.isSome_or, isSome_destination?,
    LoggerContext.isAttached]

theorem isAttached_run (context : LoggerContext κ) (operations : List (LogOperation κ)) :
    (run context operations).context.isAttached =
      (context.isAttached || operations.any setsDestination) := by
  induction operations generalizing context with
  | nil => simp [run]
  | cons operation rest ih => simp [run, ih, isAttached_perform, Bool.or_assoc]

theorem isAttached_after (operations : List (LogOperation κ)) :
    (after operations).isAttached = operations.any setsDestination :=
  isAttached_run {} operations

/-- A logger that has a sink keeps it, and all that is logged goes there. -/
theorem run_attached {context : LoggerContext κ} {name : String} {sink : κ}
    (hSink : (context.loggerOf name).sink = some sink) (operations : List (LogOperation κ)) :
    (run context operations).context.loggerOf name = context.loggerOf name ∧
      Delivery.fromLogger name (run context operations).deliveries =
        Logger.deliveries name sink (logged name context.isAttached operations) := by
  induction operations generalizing context with
  | nil => exact ⟨rfl, rfl⟩
  | cons operation rest ih =>
      obtain ⟨hKept, hFirst⟩ := (perform_takes context operation name).of_attached hSink
      obtain ⟨hLater, hRest⟩ := ih (hKept ▸ hSink)
      refine ⟨hLater.trans hKept, ?_⟩
      rw [run, logged, Delivery.fromLogger_append, Logger.deliveries_append, hFirst, hRest,
        isAttached_perform]

/-- Whatever is logged on a logger that has no sink in the end waits there. -/
theorem run_unattached {context : LoggerContext κ} {name : String}
    (operations : List (LogOperation κ))
    (hSink : ((run context operations).context.loggerOf name).sink = none) :
    (run context operations).context.loggerOf name =
        ⟨none, (context.loggerOf name).pending.pushAll
          (logged name context.isAttached operations)⟩ ∧
      Delivery.fromLogger name (run context operations).deliveries = [] := by
  induction operations generalizing context with
  | nil =>
      have hSink : (context.loggerOf name).sink = none := hSink
      refine ⟨?_, rfl⟩
      rw [← hSink]
      rfl
  | cons operation rest ih =>
      obtain ⟨hLater, hRest⟩ := ih hSink
      have hFirst : ((operation.perform context).context.loggerOf name).sink = none := by
        cases hSet : ((operation.perform context).context.loggerOf name).sink with
        | none => rfl
        | some sink =>
            have hKept := (run_attached hSet rest).1
            rw [run, hKept, hSet] at hSink
            cases hSink
      obtain ⟨-, hWaiting, hNone⟩ := (perform_takes context operation name).of_unattached hFirst
      rw [hWaiting, isAttached_perform] at hLater
      rw [run, logged, Delivery.fromLogger_append, hNone, hRest]
      refine ⟨hLater.trans ?_, rfl⟩
      rw [PendingEntries.pushAll, PendingEntries.pushAll, PendingEntries.pushAll, List.foldl_append]

end LogOperation

end BusEndpoint
