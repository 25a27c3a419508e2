import BusEndpoint.Proofs.Endpoint.Parts
import BusEndpoint.Proofs.Endpoint.Selection

/-! What an engine in memory does to the host: it counts its starts, fetches one
logger and logs on it, and changes its transport. All else is done by the
handlers. -/

namespace BusEndpoint.InMemory

open BusEndpoint.Task

variable {σ κ ς : Type} [Host σ] {allowed : σ → σ → Prop}

/-- A session does what its transport does. -/
theorem SessionState.actsBy (allows : Host.Allows allowed) {session : SessionState σ}
    (hTransport : ∀ transport s, allowed s (session.transport.set transport s)) :
    session.toSession.ActsBy allowed := by
  have hChange (change : Transport → Transport) (answer : Except BusError Unit) (s : σ) :
      allowed s ((do modify (session.transport.modify change); return answer :
        StateM σ (Except BusError Unit)) s).2 :=
    hTransport (change (session.transport.get s)) s
  have hSend (message : OutgoingMessage) (options : SendOptions) (s : σ) :
      allowed s (session.send message options s).2 := by
    rw [send]
    cases options.resolve session.routes message.messageType with
    | none => exact allows.refl s
    | some destination => exact allows.bind (allows.event _ _ _ _) (fun _ => hChange _ _) s
  have hGuarded (cancel : CancellationToken σ) {work : StateM σ (Except BusError Unit)}
      (hWork : ∀ s, allowed s (work s).2) : (guarded cancel work).Acts allowed fun _ => True := by
    apply acts_observe_andThen allows.refl
    intro cancelled
    split
    · trivial
    · exact acts_perform hWork fun _ => trivial
  constructor
  · exact fun message options cancel => hGuarded cancel (hSend message options)
  · exact fun message options cancel => hGuarded cancel (hChange _ _)
  · exact fun event options cancel => hGuarded cancel (hChange _ _)
  · exact fun event options cancel => hGuarded cancel (hChange _ _)

/-- What the handlers do with a session that acts by allowed changes is
allowed. -/
def HandlersAct (allowed : σ → σ → Prop) (handlers : Dictionary (Handler σ)) : Prop :=
  ∀ name handler body work context, handlers.get? name = some handler →
    handler body = .ok work → context.session.ActsBy allowed →
      (work context).Acts allowed fun _ => True

omit [Host σ] in
theorem handlersAct_empty : HandlersAct allowed (.empty : Dictionary (Handler σ)) := by
  intro name handler body work context hHandler
  rw [Dictionary.get?_empty] at hHandler
  cases hHandler

/-- The parts of the host that an engine in memory works on. -/
structure EngineState.Allowed [LogSink κ] (allowed : σ → σ → Prop) (engine : EngineState σ)
    (logBook : LogBook σ κ) : Prop where
  transport : ∀ transport s, allowed s (engine.transport.set transport s)
  starts : ∀ number s, allowed s (engine.starts.set number s)
  getLogger : ∀ s, allowed s
    (logBook.perform (LoggerContext.getLogger recoverabilityLogger) s).2
  log : ∀ entry s, allowed s (logBook.log recoverabilityLogger entry s).2
  handlers : HandlersAct allowed engine.handlers

variable [LogSink κ] {engine : EngineState σ} {logBook : LogBook σ κ}
  {configuration : Configuration}

theorem EngineState.start_allowed (allows : Host.Allows allowed)
    (hStarts : ∀ number s, allowed s (engine.starts.set number s))
    (hLogger : ∀ s, allowed s
      (logBook.perform (LoggerContext.getLogger recoverabilityLogger) s).2)
    (configuration : Configuration) (s : σ) :
    allowed s (engine.start configuration logBook s).2 := by
  apply allows.bind fun s => hStarts _ s
  intro number t
  cases configuration.sendOnly with
  | true => exact allows.refl t
  | false => exact hLogger t

namespace EngineState.Allowed

variable (allows : Host.Allows allowed) (ownAllowed : engine.Allowed allowed logBook)
include allows ownAllowed

theorem onMessage (context : MessageContext σ) :
    ((engine.receiver logBook configuration).onMessage context).Acts allowed fun _ => True := by
  obtain ⟨failure, hFails⟩ | ⟨name, handler, body, work, hHandler, hDecode, hWork⟩ :=
    (engine.receiver logBook configuration).onMessage_cases context
  · rw [hFails]
    trivial
  · rw [hWork]
    exact ownAllowed.handlers name handler body work _ hHandler hDecode
      (SessionState.actsBy allows ownAllowed.transport)

theorem onError (context : ErrorContext σ) (s : σ) :
    allowed s ((engine.receiver logBook configuration).onError context s).2 :=
  allows.bind (ownAllowed.log _) (fun _ t => ownAllowed.transport _ t) s

theorem start (configuration : Configuration) (s : σ) :
    allowed s (engine.start configuration logBook s).2 :=
  start_allowed allows ownAllowed.starts ownAllowed.getLogger configuration s

/-- An endpoint of the engine, with a gate of its own. -/
theorem lazyActsBy {services : ς} {gate : Slot σ (StartGate Instance)}
    (hGate : ∀ value s, allowed s (gate.set value s)) :
    LazyStart.ActsBy allowed ⟨engine.toEngine, configuration, services, logBook, gate⟩ where
  gate := hGate
  start := acts_perform_andThen (ownAllowed.start allows configuration) fun _ => trivial

/-- Neither the sessions nor the pipeline look at the transaction of a message. -/
theorem actsBy {own : σ → σ → Prop} :
    (engine.toEngine : Engine σ κ ς Instance).ActsBy allowed own logBook where
  pipeline started pipeline hPipeline := by
    simp only [toEngine] at hPipeline
    split at hPipeline
    · cases hPipeline
    · cases hPipeline
      refine ⟨fun context _ _ => ownAllowed.onMessage allows context, ?_⟩
      intro context _ _
      exact acts_perform_andThen (ownAllowed.onError allows context) fun _ => trivial
  session started := SessionState.actsBy allows ownAllowed.transport

end EngineState.Allowed

end BusEndpoint.InMemory
