import BusEndpoint.InMemory.HostState
import BusEndpoint.Proofs.Endpoint.InMemory
import BusEndpoint.Proofs.Endpoint.Invocations
import BusEndpoint.Proofs.Logging.OneSink

/-! The logger of the host. Every invocation may carry a sink, and whatever the
invocations are, in whatever order they go on and whatever they come to, the first
sink that one of them carries is the destination of all loggers from the start of
this invocation on. Later ones are passed over in silence. -/

namespace BusEndpoint

open BusEndpoint.Task
open LoggerContext (ownName lateEntry lateReport)

variable {σ κ ς ι : Type}

/-- What is seen of a log book and its host: what the sinks have been given, and
what was reported, the latest first. -/
structure LogView [Host σ] (book : LogBook σ κ) where
  delivered : σ → List (Delivery κ)
  reported : σ → List Diagnostic
  context_deliver : ∀ delivery s,
    book.context.get (book.deliver delivery s) = book.context.get s
  delivered_deliver : ∀ delivery s,
    delivered (book.deliver delivery s) = delivered s ++ [delivery]
  /-- A sink may report what it is given, but not as the log book would. -/
  reported_deliver : ∀ delivery s,
    lateReport ∈ reported (book.deliver delivery s) → lateReport ∈ reported s
  context_set : ∀ context s, delivered (book.context.set context s) = delivered s ∧
    reported (book.context.set context s) = reported s
  identifiers : ∀ supply s,
    book.context.get ((Host.identifiers (σ := σ)).set supply s) = book.context.get s ∧
      delivered ((Host.identifiers (σ := σ)).set supply s) = delivered s ∧
      reported ((Host.identifiers (σ := σ)).set supply s) = reported s
  report : ∀ diagnostic s,
    book.context.get (Host.report diagnostic s) = book.context.get s ∧
      delivered (Host.report diagnostic s) = delivered s ∧
      reported (Host.report diagnostic s) = diagnostic :: reported s

variable [Host σ] {book : LogBook σ κ}

namespace LogView

theorem deliverAll (view : LogView book) (deliveries : List (Delivery κ)) (s : σ) :
    book.context.get (deliveries.foldl (fun s delivery => book.deliver delivery s) s) =
        book.context.get s ∧
      view.delivered (deliveries.foldl (fun s delivery => book.deliver delivery s) s) =
        view.delivered s ++ deliveries ∧
      (lateReport ∈ view.reported
          (deliveries.foldl (fun s delivery => book.deliver delivery s) s) →
        lateReport ∈ view.reported s) := by
  induction deliveries generalizing s with
  | nil => exact ⟨rfl, (List.append_nil _).symm, id⟩
  | cons delivery rest ih =>
      obtain ⟨hContext, hDelivered, hReported⟩ := ih (book.deliver delivery s)
      refine ⟨hContext.trans (view.context_deliver delivery s), ?_, ?_⟩
      · rw [List.foldl_cons, hDelivered, view.delivered_deliver, List.append_assoc]
        rfl
      · exact fun hLate => view.reported_deliver delivery s (hReported hLate)

/-- What an operation on the log book shows. -/
theorem perform (view : LogView book) {α : Type} (operation : LoggerContext κ → Logged κ α)
    (s : σ) :
    book.context.get (book.perform operation s).2 = (operation (book.context.get s)).context ∧
      view.delivered (book.perform operation s).2 =
        view.delivered s ++ (operation (book.context.get s)).deliveries ∧
      (lateReport ∈ view.reported (book.perform operation s).2 →
        lateReport ∈ view.reported s) := by
  obtain ⟨hContext, hDelivered, hReported⟩ := view.deliverAll
    (operation (book.context.get s)).deliveries
    (book.context.set (operation (book.context.get s)).context s)
  obtain ⟨hSame, hSilent⟩ := view.context_set (operation (book.context.get s)).context s
  rw [book.context.get_set] at hContext
  rw [hSame] at hDelivered
  rw [hSilent] at hReported
  exact ⟨hContext, hDelivered, hReported⟩

/-- No destination comes too late in this change. -/
def Silent (view : LogView book) (s t : σ) : Prop :=
  lateReport ∈ view.reported t → lateReport ∈ view.reported s

variable [LogSink κ]

/-- Between the two states loggers have been fetched and logged on, and nothing
else has been done with the log book. -/
def Logs (view : LogView book) (s t : σ) : Prop :=
  view.Silent s t ∧ ∃ operations : List (LogOperation κ),
    (∀ operation ∈ operations, operation.IsPlain) ∧
      book.context.get t = (LogOperation.run (book.context.get s) operations).context ∧
      view.delivered t =
        view.delivered s ++ (LogOperation.run (book.context.get s) operations).deliveries

theorem logs_of_same {view : LogView book} {s t : σ} (silent : view.Silent s t)
    (hContext : book.context.get t = book.context.get s)
    (hDelivered : view.delivered t = view.delivered s) : view.Logs s t :=
  ⟨silent, [], nofun, hContext, hDelivered.trans (List.append_nil _).symm⟩

theorem logs_perform (view : LogView book) (operation : LogOperation κ)
    (plain : operation.IsPlain) (s : σ) :
    view.Logs s (book.perform (fun context => operation.perform context) s).2 := by
  obtain ⟨hContext, hDelivered, silent⟩ :=
    view.perform (fun context => operation.perform context) s
  refine ⟨silent, [operation], ?_, hContext, ?_⟩
  · rintro _ (_ | ⟨_, ⟨⟩⟩)
    exact plain
  · rw [hDelivered, LogOperation.run, LogOperation.run, List.append_nil]

/-- What the library does to the host besides logging does not concern the log
book. -/
theorem allows_logs (view : LogView book) : Host.Allows view.Logs where
  refl _ := logs_of_same id rfl rfl
  trans s t u := by
    rintro ⟨silent, first, hFirst, hContext, hDelivered⟩
      ⟨laterSilent, second, hSecond, hLater, hAgain⟩
    refine ⟨fun hLate => silent (laterSilent hLate), first ++ second, ?_, ?_, ?_⟩
    · exact List.forall_mem_append.mpr ⟨hFirst, hSecond⟩
    · rw [hLater, LogOperation.run_append, hContext]
    · rw [hAgain, LogOperation.run_append, hContext, hDelivered, List.append_assoc]
  identifiers supply s := by
    obtain ⟨hContext, hDelivered, hReported⟩ := view.identifiers supply s
    exact logs_of_same (fun hLate => hReported ▸ hLate) hContext hDelivered
  report diagnostic s hOther := by
    obtain ⟨hContext, hDelivered, hReported⟩ := view.report diagnostic s
    refine logs_of_same ?_ hContext hDelivered
    intro hLate
    rw [hReported] at hLate
    exact (List.mem_cons.mp hLate).resolve_left hOther.symm

/-- All loggers have this sink, nobody else has been given an entry, and no
destination has come too late. -/
structure LogsTo (view : LogView book) (sink : Option κ) (s : σ) : Prop where
  context : (book.context.get s).LogsTo sink
  delivered : ∀ delivery ∈ view.delivered s, sink = some delivery.sink ∧ ¬delivery.IsLate
  unreported : lateReport ∉ view.reported s

theorem LogsTo.of_logs {view : LogView book} {sink : Option κ} {s t : σ}
    (logsTo : view.LogsTo sink s) (logs : view.Logs s t) : view.LogsTo sink t := by
  obtain ⟨silent, operations, plain, hContext, hDelivered⟩ := logs
  obtain ⟨later, hLater⟩ := LogOperation.logsTo_run plain logsTo.context
  refine ⟨hContext ▸ later, ?_, fun hLate => logsTo.unreported (silent hLate)⟩
  intro delivery hDelivery
  rw [hDelivered] at hDelivery
  rcases List.mem_append.mp hDelivery with hDelivery | hDelivery
  · exact logsTo.delivered delivery hDelivery
  · exact hLater delivery hDelivery

/-- A sink has become the destination of all loggers, and was given what each of
them had kept back. -/
structure HandsOver (view : LogView book) (sink : κ) (s t : σ) : Prop where
  factory : (book.context.get t).factory = some fun _ => sink
  loggers : ∀ name, (book.context.get t).loggers.get? name =
    ((book.context.get s).loggers.get? name).map fun _ => ⟨some sink, {}⟩
  flushed : ∀ name, Delivery.fromLogger name (view.delivered t) =
    Delivery.fromLogger name (view.delivered s) ++
      Logger.deliveries name sink ((book.context.get s).loggerOf name).pending.toList

section Attach

variable {view : LogView book} {s : σ} {sink : κ}

theorem LogsTo.tryAttachSink (logsTo : view.LogsTo none s) (sink : κ) :
    view.LogsTo (some sink) (book.tryAttachSink sink s).2 ∧
      view.HandsOver sink s (book.tryAttachSink sink s).2 := by
  obtain ⟨hContext, hDelivered, silent⟩ := view.perform (LoggerContext.tryAttachSink sink) s
  obtain ⟨installed, hFlushed⟩ := logsTo.context.install sink
  have hNothing : view.delivered s = [] := by
    apply List.eq_nil_iff_forall_not_mem.mpr
    intro delivery hDelivery
    cases (logsTo.delivered delivery hDelivery).1
  constructor
  · refine ⟨hContext ▸ installed, ?_, fun hLate => logsTo.unreported (silent hLate)⟩
    intro delivery hDelivery
    rw [LogBook.tryAttachSink, hDelivered, hNothing, List.nil_append] at hDelivery
    obtain ⟨hSink, hTimely⟩ := hFlushed delivery hDelivery
    exact ⟨congrArg some hSink.symm, hTimely⟩
  · constructor
    · exact (congrArg LoggerContext.factory hContext).trans installed.factory
    · intro name
      rw [LogBook.tryAttachSink, hContext, LoggerContext.tryAttachSink,
        LoggerContext.get?_install logsTo.context.factory]
      cases hGet : (book.context.get s).loggers.get? name with
      | none => rfl
      | some logger =>
          rw [Option.map_some, Option.map_some, Logger.attach,
            (logsTo.context.loggers name logger hGet).sink_eq]
    · intro name
      rw [LogBook.tryAttachSink, hDelivered, Delivery.fromLogger_append,
        logsTo.context.fromLogger_install]

end Attach

end LogView

namespace Invocations

/-- The sink of the first invocation that has carried one. -/
def firstSink (system : Invocations σ κ) : Option κ :=
  (system.made.map Invoked.invocation).findSome? fun invocation => invocation.context.logger

omit [Host σ] in
theorem firstSink_make (system : Invocations σ κ) (invocation : Invocation σ κ)
    (task : Task σ (Except BusError Unit)) :
    (system.make invocation task).firstSink = system.firstSink.or invocation.context.logger := by
  rw [firstSink, make, List.map_append, List.findSome?_append]
  cases hLogger : invocation.context.logger with
  | none => simp [firstSink, hLogger]
  | some sink => simp [firstSink, hLogger]

omit [Host σ] in
theorem firstSink_resume (system : Invocations σ κ) (index : Nat) :
    (system.resume index).firstSink = system.firstSink := by
  rw [firstSink, map_invocation_resume, firstSink]

variable [LogSink κ]

/-- What an invocation is served by: any endpoint that shares the log book and
uses it for logging only, as the strategy of the invocation does. -/
def SharesLogBook (view : LogView book) (_ : Nat) (invocation : Invocation σ κ)
    (task : Task σ (Except BusError Unit)) : Prop :=
  ∃ (ς ι : Type) (endpoint : FunctionEndpoint σ κ ς ι), endpoint.logBook = book ∧
    endpoint.ActsBy view.Logs ∧
    endpoint.engine.ActsBy view.Logs view.Logs endpoint.logBook ∧
    invocation.ActsBy view.Logs view.Logs ∧ task = endpoint.serve invocation

/-- What holds of the log book at every moment, and of every invocation that is
made next. -/
structure LogsToFirst (view : LogView book) (system : Invocations σ κ) : Prop where
  /-- Until an invocation carries a sink, no logger has one. -/
  unattached : system.firstSink = none →
    (book.context.get system.host).isAttached = false ∧
      (∀ name logger, (book.context.get system.host).loggers.get? name = some logger →
        logger.sink = none) ∧
      view.delivered system.host = []
  /-- What is logged then waits in its logger, behind what waits there. -/
  queued : system.firstSink = none → ∀ name entry,
    ((book.context.get system.host).log name entry).deliveries = [] ∧
      ∀ other, (((book.context.get system.host).log name entry).context.loggerOf other).pending =
        ((book.context.get system.host).loggerOf other).pending.pushAll
          (if name = other then [entry] else [])
  /-- Once an invocation has carried one, it is that of all loggers, and nothing
  waits. -/
  attached : ∀ sink, system.firstSink = some sink →
    (book.context.get system.host).factory = some (fun _ => sink) ∧
      ∀ name logger, (book.context.get system.host).loggers.get? name = some logger →
        logger = ⟨some sink, {}⟩
  logged : ∀ sink, system.firstSink = some sink → ∀ name entry,
    ((book.context.get system.host).log name entry).deliveries =
      Logger.deliveries name sink [entry]
  /-- No other sink has ever been given an entry. -/
  firstOnly : ∀ delivery ∈ view.delivered system.host, system.firstSink = some delivery.sink
  unwarned : lateReport ∉ view.reported system.host ∧
    (∀ delivery ∈ view.delivered system.host, ¬delivery.IsLate) ∧
    lateEntry ∉ ((book.context.get system.host).loggerOf ownName).pending.toList
  /-- The first invocation with a sink makes it the destination before it does
  anything else, whatever becomes of it. -/
  handsOver : ∀ {ς ι : Type} (endpoint : FunctionEndpoint σ κ ς ι) (invocation : Invocation σ κ) sink,
    endpoint.logBook = book → system.firstSink = none → invocation.context.logger = some sink →
      ∃ attached, view.HandsOver sink system.host attached ∧
        (endpoint.serve invocation).poll system.host = (endpoint.work invocation).poll attached
  /-- Later on, or without a sink, an invocation leaves the log book alone when it
  begins. -/
  passesOver : ∀ {ς ι : Type} (endpoint : FunctionEndpoint σ κ ς ι) (invocation : Invocation σ κ),
    endpoint.logBook = book →
      system.firstSink.isSome = true ∨ invocation.context.logger = none →
      (endpoint.serve invocation).poll system.host = (endpoint.work invocation).poll system.host

/-- What is kept by all that can happen. -/
structure SharesLogger (view : LogView book) (system : Invocations σ κ) : Prop where
  logsTo : view.LogsTo system.firstSink system.host
  acts : ∀ invoked ∈ system.made, ∀ rest, invoked.progress = .suspended rest →
    rest.Acts view.Logs fun _ => True

variable {view : LogView book} {system next : Invocations σ κ}

/-- An invocation that is about to begin offers its sink. -/
theorem logsTo_attachLogger {sink : Option κ} {s : σ} (endpoint : FunctionEndpoint σ κ ς ι)
    (hBook : endpoint.logBook = book) (logsTo : view.LogsTo sink s) (context : FunctionContext κ) :
    view.LogsTo (sink.or context.logger) (endpoint.attachLogger context s).2 := by
  subst hBook
  have hAttached : (endpoint.logBook.context.get s).isAttached = sink.isSome := by
    rw [LoggerContext.isAttached, logsTo.context.factory, Option.isSome_map]
  cases sink with
  | some sink => rwa [FunctionEndpoint.attachLogger_of_attached hAttached]
  | none =>
      cases hLogger : context.logger with
      | none => rwa [FunctionEndpoint.attachLogger_of_none hLogger]
      | some offered =>
          rw [FunctionEndpoint.attachLogger_of_some hLogger, if_neg (by simp [hAttached])]
          exact (logsTo.tryAttachSink offered).1

/-- What a poll comes to of work that uses the log book for logging only. -/
theorem logsTo_poll {sink : Option κ} {s : σ} {task : Task σ (Except BusError Unit)}
    (acts : task.Acts view.Logs fun _ => True) (logsTo : view.LogsTo sink s) :
    view.LogsTo sink (task.poll s).2 ∧
      ∀ rest, (task.poll s).1 = .suspended rest → rest.Acts view.Logs fun _ => True := by
  obtain ⟨logs, -, hRest⟩ := acts.poll view.allows_logs.refl view.allows_logs.trans s
  exact ⟨logsTo.of_logs logs, hRest⟩

theorem Step.sharesLogger (step : Step (SharesLogBook view) view.Logs system next)
    (shares : system.SharesLogger view) : next.SharesLogger view := by
  obtain ⟨logsTo, acts⟩ := shares
  cases step with
  | @makes invocation task hTask =>
      obtain ⟨ς, ι, endpoint, hBook, lazyActs, engineActs, invocationActs, rfl⟩ := hTask
      have work := FunctionEndpoint.acts_work view.allows_logs (fun _ _ => id) lazyActs engineActs
        invocationActs
      obtain ⟨logsTo, hRest⟩ :=
        logsTo_poll work (logsTo_attachLogger endpoint hBook logsTo invocation.context)
      rw [← endpoint.poll_serve] at logsTo hRest
      refine ⟨firstSink_make system invocation _ ▸ logsTo, ?_⟩
      intro invoked hInvoked rest hSuspended
      rcases List.mem_append.mp hInvoked with hInvoked | hInvoked
      · exact acts invoked hInvoked rest hSuspended
      · rw [List.mem_singleton.mp hInvoked] at hSuspended
        exact hRest rest hSuspended
  | resumes index =>
      have hFirst := system.firstSink_resume index
      rcases system.resume_cases index with hSame | ⟨invocation, rest, hMade⟩
      · rw [hSame]
        exact ⟨logsTo, acts⟩
      · obtain ⟨logsTo, hRest⟩ :=
          logsTo_poll (acts _ (List.mem_of_getElem? hMade) rest rfl) logsTo
        rw [resume_eq hMade] at hFirst ⊢
        refine ⟨hFirst ▸ logsTo, ?_⟩
        intro invoked hInvoked later hSuspended
        rcases List.mem_or_eq_of_mem_set hInvoked with hInvoked | rfl
        · exact acts invoked hInvoked later hSuspended
        · exact hRest later hSuspended
  | changes between => exact ⟨logsTo.of_logs between, acts⟩

theorem Reachable.sharesLogger
    (reachable : Reachable (SharesLogBook view) view.Logs (view.LogsTo none) system) :
    system.SharesLogger view := by
  induction reachable with
  | fresh logsTo => exact ⟨logsTo, List.forall_mem_nil _⟩
  | step _ step ih => exact step.sharesLogger ih

/-- The first sink that an invocation carries is the destination of all loggers,
whatever the invocations come to. -/
theorem Reachable.logsToFirst
    (reachable : Reachable (SharesLogBook view) view.Logs (view.LogsTo none) system) :
    system.LogsToFirst view := by
  obtain ⟨logsTo, -⟩ := reachable.sharesLogger
  have hAttached : (book.context.get system.host).isAttached = system.firstSink.isSome := by
    rw [LoggerContext.isAttached, logsTo.context.factory, Option.isSome_map]
  constructor
  · intro hNone
    rw [hNone] at hAttached
    refine ⟨hAttached, ?_, ?_⟩
    · intro name logger hGet
      exact (logsTo.context.loggers name logger hGet).sink_eq.trans hNone
    · apply List.eq_nil_iff_forall_not_mem.mpr
      intro delivery hDelivery
      have hSink := (logsTo.delivered delivery hDelivery).1
      rw [hNone] at hSink
      cases hSink
  · intro hNone name entry
    have context := logsTo.context
    rw [hNone] at context
    obtain ⟨logger, isAt, -, hLogged⟩ := context.log name entry
    refine ⟨by rw [hLogged]; rfl, ?_⟩
    intro other
    have hUnattached : (((book.context.get system.host).log name entry).context.loggerOf
        other).sink = none := by
      rw [hLogged, LoggerContext.loggerOf_insert]
      split
      · exact isAt.sink_eq
      · exact context.sink_loggerOf
    obtain ⟨-, hPending, -⟩ :=
      (LoggerContext.log_takes _ name entry other).of_unattached hUnattached
    rw [hPending]
  · intro sink hFirst
    have context := logsTo.context
    rw [hFirst] at context
    exact ⟨context.factory, fun name logger hGet => (context.loggers name logger hGet).eq⟩
  · intro sink hFirst name entry
    obtain ⟨logger, -, -, hLogged⟩ := logsTo.context.log name entry
    rw [hLogged, hFirst]
    rfl
  · exact fun delivery hDelivery => (logsTo.delivered delivery hDelivery).1
  · exact ⟨logsTo.unreported, fun delivery hDelivery => (logsTo.delivered delivery hDelivery).2,
      logsTo.context.unwarned⟩
  · rintro ς ι endpoint invocation sink rfl hNone hLogger
    rw [hNone] at logsTo hAttached
    refine ⟨_, (logsTo.tryAttachSink sink).2, ?_⟩
    rw [endpoint.poll_serve, FunctionEndpoint.attachLogger_of_some hLogger,
      if_neg (by simp [hAttached])]
  · rintro ς ι endpoint invocation rfl hPassedOver
    rw [endpoint.poll_serve]
    rcases hPassedOver with hSome | hNone
    · rw [FunctionEndpoint.attachLogger_of_attached (hAttached.trans hSome)]
    · rw [FunctionEndpoint.attachLogger_of_none hNone]

end Invocations

section InMemory

open InMemory (HostState EngineState Instance)

/-- The log book of a name on a host in memory, with a record beside the host of
what the sinks are given. -/
def LogBook.recorded (name : String) : LogBook (HostState × List (Delivery Sink)) Sink :=
  ⟨(HostState.loggerContext name).onFirst, fun delivery s =>
    (Sink.deliver HostState.deliveries delivery s.1, s.2 ++ [delivery])⟩

def LogView.recorded (name : String) : LogView (LogBook.recorded name) where
  delivered := Prod.snd
  reported s := s.1.reports
  context_deliver := by
    rintro ⟨sink, logger, entry⟩ s
    cases sink <;> rfl
  delivered_deliver _ _ := rfl
  reported_deliver := by
    rintro ⟨sink, logger, entry⟩ s hLate
    cases sink with
    | recording name minimum => exact hLate
    | diagnostics threshold =>
        refine (List.mem_cons.mp hLate).resolve_left ?_
        intro hReport
        have hFields := (Diagnostic.event.inj hReport).2.1
        cases hFields
  context_set _ _ := ⟨rfl, rfl⟩
  identifiers _ _ := ⟨rfl, rfl, rfl⟩
  report _ _ := ⟨rfl, rfl, rfl⟩

/-- An endpoint on an engine in memory that has no handlers. -/
def FunctionEndpoint.recorded (sendOnly : Bool) :
    FunctionEndpoint (HostState × List (Delivery Sink)) Sink Unit Instance where
  engine := EngineState.toEngine
    { transport := HostState.queues.onFirst, starts := (HostState.counter "starts").onFirst }
  configuration := ⟨"bus", "", none, .receiveOnly, {}, sendOnly⟩
  services := ()
  logBook := .recorded "bus"
  gate := (HostState.gate "bus").onFirst

theorem FunctionEndpoint.actsBy_recorded (sendOnly : Bool) :
    (FunctionEndpoint.recorded sendOnly).ActsBy (LogView.recorded "bus").Logs ∧
      (FunctionEndpoint.recorded sendOnly).engine.ActsBy (LogView.recorded "bus").Logs
        (LogView.recorded "bus").Logs (LogBook.recorded "bus") := by
  have own : EngineState.Allowed (LogView.recorded "bus").Logs
      { transport := HostState.queues.onFirst, starts := (HostState.counter "starts").onFirst }
      (LogBook.recorded "bus") := by
    refine ⟨?_, ?_, ?_, ?_, InMemory.handlersAct_empty⟩
    · exact fun _ _ => LogView.logs_of_same id rfl rfl
    · exact fun _ _ => LogView.logs_of_same id rfl rfl
    · exact (LogView.recorded "bus").logs_perform (.getLogger InMemory.recoverabilityLogger) trivial
    · intro entry
      exact (LogView.recorded "bus").logs_perform (.log InMemory.recoverabilityLogger entry) nofun
  have allows := (LogView.recorded "bus").allows_logs
  exact ⟨own.lazyActsBy allows fun _ _ => LogView.logs_of_same id rfl rfl, own.actsBy allows⟩

/-- A message for an endpoint, in an invocation that carries this sink. -/
def Invocation.carrying (sink : Option Sink) :
    Invocation (HostState × List (Delivery Sink)) Sink where
  request := .process { messageId := some "m" } .none
  context := ⟨"i", "f", sink⟩
  cancel _ := false

/-- An entry waits; an invocation that is refused carries the first sink, and one
whose message fails carries another one. -/
theorem Invocations.logsToFirst_refused :
    ∃ system, Reachable (SharesLogBook (LogView.recorded "bus")) (LogView.recorded "bus").Logs
        ((LogView.recorded "bus").LogsTo none) system ∧
      system.result? 0 = some (.error .sendOnly) ∧
      (system.result? 1).isSome = true ∧
      system.host.2.map (fun delivery => (delivery.sink, delivery.logger)) =
        [(.recording "first" none, "app"),
          (.recording "first" none, InMemory.recoverabilityLogger)] ∧
      system.LogsToFirst (LogView.recorded "bus") := by
  have fresh : Reachable (SharesLogBook (LogView.recorded "bus")) (LogView.recorded "bus").Logs
      ((LogView.recorded "bus").LogsTo none) ⟨({}, []), []⟩ :=
    .fresh ⟨⟨rfl, nofun, List.not_mem_nil⟩, List.forall_mem_nil _, List.not_mem_nil⟩
  have logged := fresh.step (.changes ((LogView.recorded "bus").logs_perform
    (.log "app" { level := .info, message := "waits" }) nofun _))
  have serves (sendOnly : Bool) (sink : Option Sink) (index : Nat) :
      SharesLogBook (LogView.recorded "bus") index (.carrying sink)
        ((FunctionEndpoint.recorded sendOnly).serve (.carrying sink)) :=
    ⟨Unit, Instance, _, rfl, (FunctionEndpoint.actsBy_recorded sendOnly).1,
      (FunctionEndpoint.actsBy_recorded sendOnly).2, by
        rintro _ _ ⟨⟩
        exact (LogView.recorded "bus").allows_logs.actsBy_none, rfl⟩
  have refused := logged.step (.makes (serves true (some (.recording "first" none)) _))
  have failed := refused.step (.makes (serves false (some (.recording "second" none)) _))
  exact ⟨_, failed, rfl, by decide +kernel, by decide +kernel, failed.logsToFirst⟩

end InMemory

end BusEndpoint
