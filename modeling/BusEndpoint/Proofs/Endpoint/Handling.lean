import BusEndpoint.Proofs.Attempt.Ends
import BusEndpoint.Proofs.Attempt.Protocol
import BusEndpoint.Proofs.Endpoint.Outbound
import BusEndpoint.Proofs.Handling.Course

/-! Calls with a message on a started endpoint of an engine in memory. As long as its
token is not cancelled, a call does to the host what one attempt does whose handling is
noted beside it; what was noted tells which handler was invoked, and what became of the
failure if there was one. -/

namespace BusEndpoint

open BusEndpoint.Task

variable {σ κ ς ι : Type} [Host σ] [LogSink κ]

/-- The message that an invocation hands over. -/
def FunctionEndpoint.inbound (endpoint : FunctionEndpoint σ κ ς ι) (invocation : Invocation σ κ)
    (wire : WireMessage) (s : σ) : InboundMessage :=
  .ofWire (endpoint.enter invocation (endpoint.attachLogger invocation.context s).2).1 wire

/-- An endpoint that is started hands a message over at once. -/
theorem FunctionEndpoint.poll_serve_processes {endpoint : FunctionEndpoint σ κ ς ι}
    {invocation : Invocation σ κ} {wire : WireMessage} {strategy : TransactionStrategy σ}
    {started : ι} {s : σ} (hRequest : invocation.request = .process wire strategy)
    (hReceives : endpoint.configuration.sendOnly = false)
    (hStarted : endpoint.state (endpoint.entered invocation s) = .started started) :
    (endpoint.serve invocation).poll s =
      ((endpoint.binding started).process (endpoint.inbound invocation wire s) strategy
        invocation.cancel).poll (endpoint.entered invocation s) := by
  have hServes : endpoint.refuses invocation.request = false := by
    rw [refuses, hReceives, Bool.and_false]
  have hFound : (endpoint.state (endpoint.entered invocation s)).started? = some started := by
    rw [hStarted]
    rfl
  rw [poll_serve_asks hServes, poll_andThen, LazyStart.poll_ensureStarted_of_found hFound]
  simp only [follow, answer, hRequest]
  rfl

namespace InMemory

/-- What is to be seen of a call with a message. -/
structure EngineState.HandlesCall (engine : EngineState σ)
    (endpoint : FunctionEndpoint σ κ ς Instance) (configuration : Configuration)
    (invocation : Invocation σ κ) (message : InboundMessage) (strategy : TransactionStrategy σ)
    (others : σ → σ → Prop) (s : σ) : Prop where
  /-- The call visits the states that the attempt visits whose handling is noted. -/
  visits_iff : ∀ t, Visits others (endpoint.serve invocation) s t ↔
    ∃ events, Visits (Beside others)
      (engine.handlingAttempt endpoint.logBook configuration message strategy invocation.cancel)
      (endpoint.entered invocation s, []) (t, events)
  /-- And it comes to the same end. -/
  runs_iff : ∀ answer t, Runs others (endpoint.serve invocation) s answer t ↔
    ∃ outcome events, answer = Binding.answer outcome ∧ Runs (Beside others)
      (engine.handlingAttempt endpoint.logBook configuration message strategy invocation.cancel)
      (endpoint.entered invocation s, []) outcome (t, events)
  invokes : ∀ t events, Visits (Beside others)
      (engine.handlingAttempt endpoint.logBook configuration message strategy invocation.cancel)
      (endpoint.entered invocation s, []) (t, events) →
    Invokes engine.handlers message events
  handles : ∀ outcome t events, Runs (Beside others)
      (engine.handlingAttempt endpoint.logBook configuration message strategy invocation.cancel)
      (endpoint.entered invocation s, []) outcome (t, events) →
    Handles engine.handlers configuration message events outcome
  /-- It comes back if its handlers and its completion do. -/
  comesBack : (∀ name handler body work, engine.handlers.get? name = some handler →
      handler body = .ok work → ∀ context u, Ends others (work context) u) →
    (∀ opened u, Ends others (strategy.complete opened invocation.cancel) u) →
    Ends others (endpoint.serve invocation) s

variable {engine : EngineState σ} {configuration : Configuration} {services : ς}
  {logBook : LogBook σ κ} {gate : Slot σ (StartGate Instance)} {invocation : Invocation σ κ}
  {wire : WireMessage} {strategy : TransactionStrategy σ} {started : Instance}
  {others : σ → σ → Prop} {s : σ}

theorem EngineState.binding_endpoint (hReceives : configuration.sendOnly = false)
    (hInstance : started.configuration.sendOnly = false) :
    (engine.endpoint configuration services logBook gate).binding started =
      .receiving (engine.receiver logBook started.configuration).toPipeline := by
  simp [LazyStart.binding, Engine.binding, endpoint, toEngine, hReceives, hInstance]

omit [Host σ] [LogSink κ] in
/-- A message comes to its result if the handlers come to theirs. -/
theorem Receiver.ends_onMessage {receiver : Receiver σ κ}
    (handlers : ∀ name handler body work, receiver.handlers.get? name = some handler →
      handler body = .ok work → ∀ context u, Ends others (work context) u)
    (context : MessageContext σ) (u : σ) : Ends others (receiver.onMessage context) u := by
  obtain ⟨failure, hFails⟩ | ⟨name, handler, body, work, hHandler, hDecode, hWork⟩ :=
    receiver.onMessage_cases context
  · rw [hFails]
    exact ends_of_finished rfl
  · rw [hWork]
    exact handlers name handler body work hHandler hDecode _ u

/-- To process a message is to make one attempt, and to tell of its outcome. -/
theorem EngineState.mirrors_process_handling {message : InboundMessage}
    {cancel : CancellationToken σ} :
    Mirrors Prod.fst (fun _ _ => True)
      (engine.handlingAttempt logBook configuration message strategy cancel)
      ((Binding.receiving (engine.receiver logBook configuration).toPipeline).process message
        strategy cancel) := by
  rw [← andThen_done (engine.handlingAttempt logBook configuration message strategy cancel)]
  apply mirrors_handlingAttempt.bind
  intro outcome
  rcases outcome with error | _ | _ | cause <;> exact .done trivial

/-- A message goes to the handler of its type, if there is one that can be given the body;
with whatever it fails, recoverability is asked unless that is a cancellation. -/
theorem EngineState.handlesCall (apart : LogsApart engine.transport logBook)
    (allows : Host.Allows fun s t =>
      (gate.get t, invocation.cancel t) = (gate.get s, invocation.cancel s))
    (spares : logBook.Spares fun s => (gate.get s, invocation.cancel s))
    (opens : strategy.Opens fun s => invocation.cancel s = false)
    (hRequest : invocation.request = .process wire strategy)
    (hReceives : configuration.sendOnly = false) (hStarted : (gate.get s).state = .started started)
    (hInstance : started.configuration.sendOnly = false) (hGoing : invocation.cancel s = false)
    (hOthers : ∀ u v, others u v → invocation.cancel v = false) :
    engine.HandlesCall (engine.endpoint configuration services logBook gate) started.configuration
      invocation ((engine.endpoint configuration services logBook gate).inbound invocation wire s)
      strategy others s := by
  let endpoint := engine.endpoint configuration services logBook gate
  let message := endpoint.inbound invocation wire s
  have hEntered : (gate.get (endpoint.entered invocation s),
      invocation.cancel (endpoint.entered invocation s)) = (gate.get s, invocation.cancel s) := by
    apply FunctionEndpoint.entered_allowed allows
    intro sink
    exact spares.view_perform (LoggerContext.tryAttachSink sink)
  have hGate : gate.get (endpoint.entered invocation s) = gate.get s := congrArg Prod.fst hEntered
  have hCancel : invocation.cancel (endpoint.entered invocation s) = false :=
    (congrArg Prod.snd hEntered).trans hGoing
  have hFound : endpoint.state (endpoint.entered invocation s) = .started started :=
    (congrArg StartGate.state hGate).trans hStarted
  have hPoll : (endpoint.serve invocation).poll s =
      ((Binding.receiving (engine.receiver logBook started.configuration).toPipeline).process
        message strategy invocation.cancel).poll (endpoint.entered invocation s) := by
    rw [FunctionEndpoint.poll_serve_processes hRequest hReceives hFound,
      binding_endpoint hReceives hInstance]
  refine ⟨?_, ?_, ?_, ?_, ?_⟩
  · intro t
    rw [← mirrors_process_handling.visits_beside_iff]
    exact ⟨visits_of_poll_eq hPoll, visits_of_poll_eq hPoll.symm⟩
  · intro answer t
    rw [runs_of_poll_eq hPoll, Binding.runs_process_iff_attempt]
    constructor
    · rintro ⟨outcome, run, rfl⟩
      obtain ⟨events, noted⟩ := mirrors_handlingAttempt.runs_beside_iff.mp run
      exact ⟨outcome, events, rfl, noted⟩
    · rintro ⟨outcome, events, rfl, noted⟩
      exact ⟨outcome, mirrors_handlingAttempt.runs_beside_iff.mpr ⟨events, noted⟩, rfl⟩
  · exact fun t events visited => invokes_attempt opens hCancel visited
  · exact fun outcome t events noted => handles_attempt apart opens hOthers hCancel noted
  · intro handlers completion
    have parts : (engine.receiver logBook started.configuration).toPipeline.PartsEnd others strategy
        invocation.cancel :=
      Pipeline.partsEnd_of_ends (fun context u => Receiver.ends_onMessage handlers context u)
        (fun _ _ => ends_of_finished rfl) completion
    exact ends_of_poll_eq hPoll (Binding.comesBack (.inr parts)).process

/-- An engine that knows orders only, and has them done at once. -/
def EngineState.counterService : EngineState HostState where
  transport := HostState.queues
  starts := HostState.counter "counter"
  handlers := .ofList [("Order", fun _ => .ok fun _ => return .ok ())]

def counterConfiguration : Configuration := ⟨"counter", "", none, .receiveOnly, {}, false⟩

/-- A host on which the engine is started. -/
def HostState.atCounter : HostState where
  gates := .ofList [("counter", { state := .started ⟨1, counterConfiguration⟩ })]

/-- A message that is no order. -/
def complaint : WireMessage where
  messageId := some "c-1"
  body := some (Text.utf8 "0")
  applicationProperties := .ofList [(Header.enclosedMessageTypes, .string "Complaint")]

def complaining : Invocation HostState Sink where
  request := .process complaint .none
  context := ⟨"i", "f", none⟩
  cancel := HostState.isCancelled "call"

/-- It fails for want of a handler, and is to be delivered again. -/
theorem EngineState.handlesCall_complaint :
    let endpoint := counterService.endpoint counterConfiguration () (HostState.logBook "counter")
      (HostState.gate "counter")
    let others (u v : HostState) := u = v ∧ HostState.isCancelled "call" v = false
    counterService.HandlesCall endpoint counterConfiguration complaining
      (endpoint.inbound complaining complaint HostState.atCounter) .none others
      HostState.atCounter ∧
    ∃ t, Runs others (endpoint.serve complaining) HostState.atCounter
      (.error (.pipeline (.bus (.noHandler "Complaint")))) t := by
  intro endpoint others
  have sparesTransport : (HostState.logBook "counter").Spares counterService.transport.get :=
    HostState.spares_logBook fun _ _ hTransport _ _ => hTransport
  have spares : (HostState.logBook "counter").Spares fun h =>
      ((HostState.gate "counter").get h, HostState.isCancelled "call" h) := by
    apply HostState.spares_logBook
    intro h h' _ hGates hCancelled
    exact congrArg₂ Prod.mk (congrArg (fun gates => (gates.get? "counter").getD {}) hGates)
      (congrArg (List.contains · "call") hCancelled)
  have allows : Host.Allows fun g h : HostState =>
      ((HostState.gate "counter").get h, HostState.isCancelled "call" h) =
        ((HostState.gate "counter").get g, HostState.isCancelled "call" g) :=
    ⟨fun _ => rfl, fun _ _ _ first last => last.trans first, fun _ _ => rfl, fun _ _ _ => rfl⟩
  have opens : (TransactionStrategy.none (σ := HostState)).Opens
      fun h => HostState.isCancelled "call" h = false :=
    ⟨fun _ _ => id, fun _ => id, fun _ _ => id⟩
  have hRequest : complaining.request = .process complaint .none := rfl
  have hStarted : ((HostState.gate "counter").get HostState.atCounter).state =
      .started ⟨1, counterConfiguration⟩ := rfl
  have hOthers (u v : HostState) (between : others u v) : complaining.cancel v = false := between.2
  exact ⟨handlesCall ⟨sparesTransport.loggers, sparesTransport.deliveries⟩ allows spares opens
    hRequest rfl hStarted rfl rfl hOthers, _, .finished rfl⟩

end InMemory

end BusEndpoint
