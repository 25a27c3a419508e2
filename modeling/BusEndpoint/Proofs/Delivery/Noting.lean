import BusEndpoint.InMemory.HostState
import BusEndpoint.Proofs.Attempt.Reflection
import BusEndpoint.Proofs.Delivery.Traffic
import BusEndpoint.Proofs.Endpoint.Selection

/-! Noting answers changes nothing. An endpoint is installed with a record of its
answers beside the host; what it does to the host, and what it answers, is what
the endpoint itself does and answers, so that what is shown of installations is
said of all runs of the endpoint. -/

namespace BusEndpoint

open BusEndpoint.Task

variable {σ ρ κ ς α β : Type}

/-- Work on the host, with something kept beside it. -/
def Task.onFirst (task : Task σ α) : Task (σ × ρ) α := task.within Prod.fst fun s t => (s, t.2)

/-- What work does to the host if this is kept beside it. -/
def Task.alone (kept : ρ) : Task (σ × ρ) α → Task σ α
  | done value => done value
  | act update next => act (fun s => (update (s, kept)).1) fun s => (next (s, kept)).alone kept
  | pause next => pause (next.alone kept)
  | wait ready next => wait (fun s => ready (s, kept)) (next.alone kept)

theorem Task.mirrors_onFirst (task : Task σ α) :
    Mirrors Prod.fst Eq (task.onFirst : Task (σ × ρ) α) task := by
  induction task with
  | done value => exact .done rfl
  | act update next ih => exact .act (fun _ => rfl) fun s => ih s.1
  | pause next ih => exact .pause ih
  | wait ready next ih => exact .wait (fun _ => rfl) ih

/-- Work that leaves a part of the host alone leaves what is kept beside it alone
as well. -/
theorem Task.Keeps.onFirst {view : σ → β} {task : Task σ α} (keeps : task.Keeps view) :
    (task.onFirst : Task (σ × ρ) α).Keeps fun s => (view s.1, s.2) := by
  induction task with
  | done value => trivial
  | act update next ih =>
      intro s
      exact ⟨congrArg (Prod.mk · s.2) (keeps s.1).1, ih s.1 (keeps s.1).2⟩
  | pause next ih => exact ih keeps
  | wait ready next ih => exact ih keeps

/-- Both read what is on the host. -/
theorem Task.mirrors_observe {reads : σ × ρ → α} {read : σ → α}
    (hRead : ∀ s, reads s = read s.1) : Mirrors Prod.fst Eq (observe reads) (observe read) :=
  .act (fun _ => rfl) fun s => .done (hRead s)

/-- A change of a slot on the host. -/
theorem Task.mirrors_update {slot : Slot σ β} {f : β → α × β} :
    Mirrors Prod.fst Eq (perform (slot.onFirst.update f) : Task (σ × ρ) α)
      (perform (slot.update f)) :=
  mirrors_perform (fun _ => rfl) fun _ => rfl

def LogBook.onFirst (book : LogBook σ κ) : LogBook (σ × ρ) κ :=
  ⟨book.context.onFirst, fun delivery s => (book.deliver delivery s.1, s.2)⟩

/-- Logging goes to the host. -/
theorem LogBook.perform_onFirst (book : LogBook σ κ) (operation : LoggerContext κ → Logged κ α)
    (s : σ × ρ) :
    book.onFirst.perform operation s =
      ((book.perform operation s.1).1, ((book.perform operation s.1).2, s.2)) := by
  have hDeliveries (deliveries : List (Delivery κ)) (t : σ × ρ) :
      deliveries.foldl (fun s delivery => (book.deliver delivery s.1, s.2)) t =
        (deliveries.foldl (fun s delivery => book.deliver delivery s) t.1, t.2) := by
    induction deliveries generalizing t with
    | nil => rfl
    | cons delivery rest ih => exact ih _
  exact congrArg (Prod.mk _) (hDeliveries _ _)

/-- Outbound work that is done on the host. -/
def Session.alone (kept : ρ) (session : Session (σ × ρ)) : Session σ where
  send message options cancel := (session.send message options fun s => cancel s.1).alone kept
  publish message options cancel := (session.publish message options fun s => cancel s.1).alone kept
  subscribe event options cancel := (session.subscribe event options fun s => cancel s.1).alone kept
  unsubscribe event options cancel :=
    (session.unsubscribe event options fun s => cancel s.1).alone kept

namespace InMemory

/-- A handler that works on the host. -/
def Handler.onFirst (kept : ρ) (handler : Handler σ) : Handler (σ × ρ) :=
  fun body => (handler body).map fun work context =>
    (work ⟨context.messageId, context.headers, context.session.alone kept⟩).onFirst

/-- What a handler that works on the host does with what it has decoded. -/
def HandlerWork.onFirst (kept : ρ) (work : HandlerWork σ) : HandlerWork (σ × ρ) :=
  fun context => (work ⟨context.messageId, context.headers, context.session.alone kept⟩).onFirst

/-- An engine that works on the host. -/
def EngineState.onFirst (kept : ρ) (engine : EngineState σ) : EngineState (σ × ρ) where
  transport := engine.transport.onFirst
  starts := engine.starts.onFirst
  handlers := engine.handlers.map (Handler.onFirst kept)
  routes := engine.routes

theorem EngineState.get?_handlers_onFirst {kept : ρ} (engine : EngineState σ) (name : String) :
    (engine.onFirst kept).handlers.get? name =
      (engine.handlers.get? name).map fun handler body =>
        (handler body).map (HandlerWork.onFirst kept) :=
  Dictionary.get?_map ..

/-- Its handlers are those of the engine. -/
theorem EngineState.handler_of_onFirst {kept : ρ} {engine : EngineState σ} {name : String}
    {handler : Handler (σ × ρ)} {body : Json} {work : HandlerWork (σ × ρ)}
    (hHandler : (engine.onFirst kept).handlers.get? name = some handler)
    (hDecode : handler body = .ok work) :
    ∃ plain inner, engine.handlers.get? name = some plain ∧ plain body = .ok inner ∧
      work = HandlerWork.onFirst kept inner := by
  rw [get?_handlers_onFirst] at hHandler
  obtain ⟨plain, hPlain, rfl⟩ := Option.map_eq_some_iff.mp hHandler
  dsimp only at hDecode
  cases hBody : plain body with
  | error error =>
      rw [hBody] at hDecode
      cases hDecode
  | ok inner =>
      rw [hBody] at hDecode
      cases hDecode
      exact ⟨plain, inner, hPlain, hBody, rfl⟩

/-- An endpoint that is installed with a record of its answers. -/
def EngineState.installed (engine : EngineState σ) (configuration : Configuration) (services : ς)
    (logBook : LogBook σ κ) (gate : Slot σ (StartGate Instance)) :
    Installation (σ × List Answer) κ ς where
  engine := engine.onFirst []
  configuration := configuration
  services := services
  logBook := logBook.onFirst
  gate := gate.onFirst
  record := Slot.second

theorem SessionState.alone_guarded {cancel : CancellationToken σ} {kept : ρ}
    {work : StateM (σ × ρ) (Except BusError Unit)} {plain : StateM σ (Except BusError Unit)}
    (hWork : ∀ s, work (s, kept) = ((plain s).1, ((plain s).2, kept))) :
    (SessionState.guarded (fun s => cancel s.1) work).alone kept =
      SessionState.guarded cancel plain := by
  have hPerform : (perform work).alone kept = perform plain := by
    have hState (s : σ) : ((work.run (s, kept)).2).1 = (plain.run s).2 :=
      congrArg (fun worked => worked.2.1) (hWork s)
    have hAnswer (s : σ) : (work.run (s, kept)).1 = (plain.run s).1 := congrArg Prod.fst (hWork s)
    simp only [perform, Task.alone, hState, hAnswer]
  have hBranch (cancelled : Bool) : (if cancelled then done (.error .cancelled)
      else perform work : Task (σ × ρ) (Except BusError Unit)).alone kept =
        if cancelled then done (.error .cancelled) else perform plain := by
    cases cancelled
    · exact hPerform
    · rfl
  exact congrArg (act id) (funext fun s => hBranch (cancel s))

variable [Host σ]

theorem EngineState.alone_session (engine : EngineState σ) (kept : ρ) (endpoint : String) :
    ((engine.onFirst kept).session endpoint).alone kept = engine.session endpoint := by
  simp only [EngineState.session, SessionState.toSession, Session.alone, Session.mk.injEq]
  refine ⟨?_, ?_, ?_, ?_⟩
  · funext message options cancel
    apply SessionState.alone_guarded
    intro s
    have hRoutes : (engine.onFirst kept).routes = engine.routes := rfl
    simp only [SessionState.send, hRoutes]
    cases options.resolve engine.routes message.messageType with
    | none => rfl
    | some destination => rfl
  · funext message options cancel
    exact SessionState.alone_guarded fun _ => rfl
  · funext event options cancel
    exact SessionState.alone_guarded fun _ => rfl
  · funext event options cancel
    exact SessionState.alone_guarded fun _ => rfl

variable [LogSink κ]

/-- The endpoint itself. -/
def EngineState.endpoint (engine : EngineState σ) (configuration : Configuration) (services : ς)
    (logBook : LogBook σ κ) (gate : Slot σ (StartGate Instance)) :
    FunctionEndpoint σ κ ς Instance where
  engine := engine.toEngine
  configuration := configuration
  services := services
  logBook := logBook
  gate := gate

section Mirrors

variable {engine : EngineState σ} {configuration : Configuration} {services : ς}
  {logBook : LogBook σ κ} {gate : Slot σ (StartGate Instance)} {cancel : CancellationToken σ}

theorem mirrors_attachLogger (context : FunctionContext κ) :
    Mirrors Prod.fst Eq
      (perform
        ((engine.installed configuration services logBook gate).endpoint.attachLogger context))
      (perform ((engine.endpoint configuration services logBook gate).attachLogger context)) := by
  refine mirrors_perform (fun _ => rfl) fun s => ?_
  cases hLogger : context.logger with
  | none =>
      rw [FunctionEndpoint.attachLogger, FunctionEndpoint.attachLogger, hLogger]
      rfl
  | some sink =>
      rw [FunctionEndpoint.attachLogger, FunctionEndpoint.attachLogger, hLogger]
      change ((if !(logBook.context.get s.1).isAttached then do
          let _ ← logBook.onFirst.tryAttachSink sink
        else return () : StateM (σ × List Answer) Unit) s).2.1 =
          ((if !(logBook.context.get s.1).isAttached then do
            let _ ← logBook.tryAttachSink sink
          else return () : StateM σ Unit) s.1).2
      split
      · exact congrArg (fun answered => answered.2.1)
          (logBook.perform_onFirst (LoggerContext.tryAttachSink sink) s)
      · rfl

theorem mirrors_change (f : StartGate Instance → StartGate Instance) :
    Mirrors Prod.fst Eq
      ((engine.installed configuration services logBook gate).endpoint.change f)
      ((engine.endpoint configuration services logBook gate).change f) :=
  mirrors_perform (fun _ => rfl) fun _ => rfl

omit [Host σ] in
theorem start_installed (s : σ × List Answer) :
    (engine.installed configuration services logBook gate).engine.start configuration
        logBook.onFirst s =
      ((engine.start configuration logBook s.1).1,
        ((engine.start configuration logBook s.1).2, s.2)) := by
  cases hSendOnly : configuration.sendOnly with
  | true =>
      simp only [EngineState.start, hSendOnly]
      rfl
  | false =>
      simp only [EngineState.start, hSendOnly]
      change (_, (logBook.onFirst.perform (LoggerContext.getLogger recoverabilityLogger) _).2) = _
      rw [logBook.perform_onFirst]
      rfl

theorem mirrors_engineStart :
    Mirrors Prod.fst Eq
      ((engine.installed configuration services logBook gate).endpoint.engine.start configuration
        services logBook.onFirst)
      ((engine.endpoint configuration services logBook gate).engine.start configuration services
        logBook) := by
  have hStart : Mirrors Prod.fst Eq
      (perform ((engine.installed configuration services logBook gate).engine.start configuration
        logBook.onFirst))
      (perform (engine.start configuration logBook)) :=
    mirrors_perform (fun s => congrArg Prod.fst (start_installed s))
      fun s => congrArg (fun answered => answered.2.1) (start_installed s)
  apply hStart.bind
  intro started
  exact .done rfl

theorem mirrors_start :
    Mirrors Prod.fst Eq (engine.installed configuration services logBook gate).endpoint.start
      (engine.endpoint configuration services logBook gate).start := by
  refine (mirrors_change _).bind fun _ => ?_
  refine (mirrors_report _).bind fun _ => ?_
  apply mirrors_engineStart.bind
  intro result
  cases result with
  | error error =>
      refine (mirrors_change _).bind fun _ => ?_
      exact (mirrors_report _).bind fun _ => .done rfl
  | ok started =>
      refine (mirrors_change _).bind fun _ => ?_
      exact (mirrors_report _).bind fun _ => .done rfl

theorem mirrors_startBehindGate :
    Mirrors Prod.fst Eq
      (engine.installed configuration services logBook gate).endpoint.startBehindGate
      (engine.endpoint configuration services logBook gate).startBehindGate := by
  have hStart : Mirrors Prod.fst Eq
      (engine.installed configuration services logBook gate).endpoint.startUnlessStarted
      (engine.endpoint configuration services logBook gate).startUnlessStarted := by
    refine (mirrors_observe ?_).bind ?_
    · exact fun _ => rfl
    intro found
    cases found with
    | some started => exact .done rfl
    | none => exact mirrors_start
  apply hStart.bind
  intro result
  exact (mirrors_change _).bind fun _ => .done rfl

theorem mirrors_ensureStarted :
    Mirrors Prod.fst Eq
      ((engine.installed configuration services logBook gate).endpoint.ensureStarted
        fun s => cancel s.1)
      ((engine.endpoint configuration services logBook gate).ensureStarted cancel) := by
  refine (mirrors_observe ?_).bind ?_
  · exact fun _ => rfl
  intro found
  cases found with
  | some started => exact .done rfl
  | none =>
      refine (mirrors_observe ?_).bind ?_
      · exact fun _ => rfl
      intro cancelled
      split
      · exact .done rfl
      · apply mirrors_update.bind
        intro ticket
        refine Mirrors.wait ?_ ?_
        · exact fun _ => rfl
        refine (mirrors_observe ?_).bind ?_
        · exact fun _ => rfl
        intro cancelled
        split
        · exact (mirrors_change _).bind fun _ => .done rfl
        · exact mirrors_startBehindGate

/-- Work without transactions opens nothing, and any token will do. -/
theorem reflects_none :
    (TransactionStrategy.none : TransactionStrategy (σ × ρ)).Reflects
      (fun opened transaction => opened = none ∧ transaction = none) (fun _ _ => True)
      .none cancel where
  create := mirrors_perform (fun _ => ⟨rfl, rfl⟩) fun _ => rfl
  token := fun _ => mirrors_perform (fun _ => trivial) fun _ => rfl
  complete := fun _ => .done rfl
  discard := by
    rintro _ _ ⟨rfl, rfl⟩
    exact mirrors_perform (fun _ => rfl) fun _ => rfl
  commit := by
    rintro _ _ ⟨rfl, rfl⟩
    exact mirrors_perform (fun _ => rfl) fun _ => rfl

omit [LogSink κ] in
theorem EngineState.mirrors_work (engine : EngineState σ) {kept : ρ} (work : HandlerWork σ)
    (messageId : String) (headers : Headers) (endpoint : String) :
    Mirrors Prod.fst Eq
      (HandlerWork.onFirst kept work
        ⟨messageId, headers, (engine.onFirst kept).session endpoint⟩)
      (work ⟨messageId, headers, engine.session endpoint⟩) := by
  rw [HandlerWork.onFirst, engine.alone_session]
  exact mirrors_onFirst _

omit [Host σ] [LogSink κ] in
/-- Handlers that decode alike are given a message alike. -/
theorem Receiver.mirrors_onMessage {larger : Receiver (σ × ρ) κ} {plain : Receiver σ κ}
    {carry : String → Json → HandlerWork σ → HandlerWork (σ × ρ)}
    (hHandlers : ∀ name, larger.handlers.get? name =
      (plain.handlers.get? name).map fun handler body => (handler body).map (carry name body))
    (message : InboundMessage) (seen : TransportToken (σ × ρ)) (token : TransportToken σ)
    (hWork : ∀ name json work, Mirrors Prod.fst Eq
      (carry name json work ⟨message.id, message.headers, larger.session⟩)
      (work ⟨message.id, message.headers, plain.session⟩)) :
    Mirrors Prod.fst Eq (larger.onMessage (message.context seen))
      (plain.onMessage (message.context token)) := by
  have selects : Selects plain.handlers (handledType message.headers) message.body
      (plain.select (message.context token)) := plain.selects_select (message.context token)
  obtain ⟨failure, hSelected, carried⟩ | ⟨json, work, -, hSelected, carried⟩ :=
    selects.carry hHandlers
  · have hPlain : plain.onMessage (message.context token) = .done (.error failure) :=
      Receiver.onMessage_of_error (hSelected ▸ selects)
    have hLarger : larger.onMessage (message.context seen) = .done (.error failure) :=
      Receiver.onMessage_of_error carried
    rw [hPlain, hLarger]
    exact .done rfl
  · have hPlain : plain.onMessage (message.context token) =
        work ⟨message.id, message.headers, plain.session⟩ :=
      Receiver.onMessage_of_ok (hSelected ▸ selects)
    have hLarger : larger.onMessage (message.context seen) =
        carry (handledType message.headers) json work
          ⟨message.id, message.headers, larger.session⟩ :=
      Receiver.onMessage_of_ok carried
    rw [hPlain, hLarger]
    exact hWork _ json work

omit [LogSink κ] in
/-- The same handler is selected, and works on the host. -/
theorem mirrors_onMessage (own : Configuration) (message : InboundMessage)
    (seen : TransportToken (σ × ρ)) (token : TransportToken σ) (kept : ρ) :
    Mirrors Prod.fst Eq
      (((engine.onFirst kept).receiver logBook.onFirst own).onMessage (message.context seen))
      ((engine.receiver logBook own).onMessage (message.context token)) := by
  refine Receiver.mirrors_onMessage engine.get?_handlers_onFirst message seen token ?_
  exact fun _ _ work => engine.mirrors_work work message.id message.headers own.endpointName

/-- The same is decided, and done to the host. -/
theorem onError_onFirst (own : Configuration) (message : InboundMessage) (failure : Failure)
    (seen : TransportToken (σ × ρ)) (token : TransportToken σ) (kept : ρ) (s : σ × ρ) :
    ((engine.onFirst kept).receiver logBook.onFirst own).onError
        (message.errorContext failure seen) s =
      (((engine.receiver logBook own).onError (message.errorContext failure token) s.1).1,
        (((engine.receiver logBook own).onError (message.errorContext failure token) s.1).2,
          s.2)) := by
  let action := own.recoverability.action message.deliveryCount message.headers
  have hEntry : Receiver.decisionEntry (message.errorContext failure seen) failure.message action =
      Receiver.decisionEntry (message.errorContext failure token) failure.message action := by
    cases action <;> rfl
  have hDecision : Receiver.applyDecision own.endpointName (message.errorContext failure seen)
      failure.message action = Receiver.applyDecision own.endpointName
        (message.errorContext failure token) failure.message action := by
    funext transport
    cases action <;> rfl
  change engine.transport.onFirst.update (Receiver.applyDecision own.endpointName
    (message.errorContext failure seen) failure.message action) (logBook.onFirst.perform
      (LoggerContext.log recoverabilityLogger (Receiver.decisionEntry
        (message.errorContext failure seen) failure.message action)) s).2 = _
  rw [hEntry, hDecision, logBook.perform_onFirst]
  rfl

/-- Answers are noted beside the host. -/
theorem reflects_noting (own : Configuration) :
    (((engine.onFirst []).receiver logBook.onFirst own).toPipeline.noting engine.transport.onFirst
      Slot.second).Reflects (fun _ _ => True) (engine.receiver logBook own).toPipeline cancel where
  onMessage := by
    intro message seen token _
    change Mirrors Prod.fst Eq (Task.andThen _ _) ((engine.receiver logBook own).onMessage _)
    rw [← andThen_done ((engine.receiver logBook own).onMessage _)]
    apply (mirrors_onMessage own message seen token []).bind
    intro result
    exact .aside (fun _ => rfl) fun _ => .done rfl
  onError := by
    intro message failure seen token _
    have decides : Mirrors Prod.fst Eq
        (perform (((engine.onFirst []).receiver logBook.onFirst own).onError
          (message.errorContext failure seen)) : Task (σ × List Answer) ErrorVerdict)
        (perform ((engine.receiver logBook own).onError (message.errorContext failure token))) := by
      refine mirrors_perform ?_ ?_
      · intro s
        rw [onError_onFirst own message failure seen token]
      · intro s
        rw [onError_onFirst own message failure seen token]
    apply decides.bind
    intro verdict
    exact .done rfl

theorem mirrors_binding (message : InboundMessage) (started : Instance) :
    Mirrors Prod.fst Eq
      (((engine.installed configuration services logBook gate).endpoint.binding started).attempt
        message .none fun s => cancel s.1)
      (((engine.endpoint configuration services logBook gate).binding started).attempt message .none
        cancel) := by
  cases hOwn : configuration.sendOnly with
  | true =>
      simp only [LazyStart.binding, Engine.binding, Installation.endpoint, EngineState.installed,
        EngineState.endpoint, hOwn]
      exact .done rfl
  | false =>
      cases hStarted : started.configuration.sendOnly with
      | true =>
          simp only [LazyStart.binding, Engine.binding, Installation.endpoint, Engine.noting,
            EngineState.installed, EngineState.endpoint, EngineState.toEngine, hOwn, hStarted]
          exact .done rfl
      | false =>
          simp only [LazyStart.binding, Engine.binding, Installation.endpoint, Engine.noting,
            EngineState.installed, EngineState.endpoint, EngineState.toEngine, hOwn, hStarted]
          exact (reflects_noting started.configuration).attempt reflects_none message

/-- An endpoint that is installed does to the host what the endpoint itself does,
and answers the same. -/
theorem mirrors_process (message : WireMessage) (context : FunctionContext κ) :
    Mirrors Prod.fst Eq
      ((engine.installed configuration services logBook gate).endpoint.process message context
        fun s => cancel s.1)
      ((engine.endpoint configuration services logBook gate).process message context cancel) := by
  have hFresh : Mirrors Prod.fst Eq
      (perform (Host.freshIdentifier : StateM (σ × List Answer) String))
      (perform (Host.freshIdentifier : StateM σ String)) :=
    mirrors_perform (fun _ => rfl) fun _ => rfl
  refine (mirrors_attachLogger context).bind fun _ => ?_
  change Mirrors Prod.fst Eq (if configuration.sendOnly then _ else _)
    (if configuration.sendOnly then _ else _)
  split
  · exact .done rfl
  · apply hFresh.bind
    intro fresh
    refine (mirrors_report _).bind fun _ => ?_
    apply mirrors_ensureStarted.bind
    intro result
    cases result with
    | error error => exact .done rfl
    | ok started => exact Binding.mirrors_process_of_attempt (mirrors_binding _ started)

/-- The runs of an endpoint are those that it has when it is installed. -/
theorem runs_process_iff {others : σ → σ → Prop} {message : WireMessage}
    {context : FunctionContext κ} {s t : σ} {answers : List Answer}
    {answer : Except BusError Unit} :
    Runs others
        ((engine.endpoint configuration services logBook gate).process message context cancel) s
        answer t ↔
      ∃ noted, Runs (fun s t => others s.1 t.1 ∧ s.2 = t.2)
        ((engine.installed configuration services logBook gate).endpoint.process message context
          fun s => cancel s.1) (s, answers) answer (t, noted) := by
  have mirrors : Mirrors Prod.fst Eq
      ((engine.installed configuration services logBook gate).endpoint.process message context
        fun s => cancel s.1)
      ((engine.endpoint configuration services logBook gate).process message context cancel) :=
    mirrors_process message context
  constructor
  · intro run
    have hAround (state : σ × List Answer) (u : σ) (between : others state.1 u) :
        ∃ after : σ × List Answer, (others state.1 after.1 ∧ state.2 = after.2) ∧ after.1 = u :=
      ⟨(u, state.2), ⟨between, rfl⟩, rfl⟩
    obtain ⟨_, ⟨u, noted⟩, rfl, rfl, installed⟩ :=
      mirrors.runs_of hAround (s := (s, answers)) run
    exact ⟨noted, installed⟩
  · rintro ⟨noted, installed⟩
    obtain ⟨_, rfl, run⟩ := mirrors.runs (fun _ _ between => between.1) installed
    exact run

end Mirrors

namespace Installation

omit [Host σ] [LogSink κ] in
/-- What handlers leave alone of the host is not seen to change. The gate is not
theirs to change. -/
theorem handlersUnseen_installed {engine : EngineState σ} {configuration : Configuration}
    {services : ς} {logBook : LogBook σ κ} {gate : Slot σ (StartGate Instance)} {see : Traffic → β}
    (view : σ → α) (hGate : ∀ s t, view t = view s → gate.get t = gate.get s)
    (hSee : ∀ answers s t, view t = view s →
      see ⟨engine.transport.get t, answers⟩ = see ⟨engine.transport.get s, answers⟩)
    (keep : ∀ messageType handler body work context,
      engine.handlers.get? messageType = some handler → handler body = .ok work →
        (work context).Keeps view) :
    (engine.installed configuration services logBook gate).HandlersUnseen see := by
  intro messageType handler body work context hHandler hWork
  obtain ⟨plain, inner, hPlain, hBody, rfl⟩ := EngineState.handler_of_onFirst hHandler hWork
  have keeps := keep messageType plain body inner
    ⟨context.messageId, context.headers, context.session.alone []⟩ hPlain hBody
  apply keeps.onFirst.acts.rests
  · intro s t hSame sound
    exact sound.of_gate (congrArg StartGate.state (hGate _ _ (Prod.mk.inj hSame).1))
  · intro s t hSame
    obtain ⟨hHost, hAnswers⟩ := Prod.mk.inj hSame
    change see ⟨engine.transport.get t.1, t.2⟩ = see ⟨engine.transport.get s.1, s.2⟩
    rw [hAnswers]
    exact hSee _ _ _ hHost

/-- An endpoint that keeps all it needs on a host in memory. -/
def onHost (name : String) (configuration : Configuration)
    (handlers : Dictionary (Handler HostState)) :
    Installation (HostState × List Answer) Sink Unit :=
  EngineState.installed
    { transport := HostState.queues
      starts := HostState.counter name
      handlers := handlers }
    configuration () (HostState.logBook name) (HostState.gate name)

theorem secludes_onHost (name : String) (configuration : Configuration)
    (handlers : Dictionary (Handler HostState)) :
    (onHost name configuration handlers).Secludes where
  gate _ _ := rfl
  transport_gate _ _ := rfl
  transport_record _ _ := rfl
  record_gate _ _ := rfl
  record_transport _ _ := rfl
  identifiers _ _ := rfl
  report _ _ := rfl
  starts _ _ := rfl
  loggers _ _ := rfl
  deliveries delivery s := by
    change (onHost name configuration handlers).frame
      (Sink.deliver HostState.deliveries delivery s.1, s.2) = _
    rw [Sink.deliver]
    cases delivery.sink <;> rfl

end Installation

end InMemory

end BusEndpoint
