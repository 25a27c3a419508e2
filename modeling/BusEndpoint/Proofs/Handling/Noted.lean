import BusEndpoint.Proofs.Recovery.Beside

/-! An engine in memory whose handling of messages is noted beside the host. What a
handler is given and what it returns is noted under the name by which the handler is
registered, and so is whatever goes to recoverability. Noting changes nothing of what
is done to the host. -/

namespace BusEndpoint

open BusEndpoint.Task

namespace InMemory

/-- What is seen of the handling of a message. -/
inductive HandlingEvent where
  /-- The handler of a type is invoked. -/
  | invoked (messageType : String) (body : Json) (messageId : String) (headers : Headers)
  | returned (result : Except Failure Unit)
  /-- Recoverability is asked about a failure. -/
  | failed (failure : Failure) (transport : Transport)
  | decided (answer : Except Failure ErrorVerdict) (transport : Transport)

/-- A handler is invoked. -/
def HandlingEvent.isInvoked : HandlingEvent → Bool
  | invoked _ _ _ _ => true
  | _ => false

variable {σ κ : Type}

/-- Note what is seen of the host beside it. -/
def noteHandling (seen : σ → HandlingEvent) : StateM (σ × List HandlingEvent) Unit :=
  modify fun s => (s.1, s.2 ++ [seen s.1])

/-- Work of a handler on the host that is noted beside it. -/
def HandlerWork.noted (messageType : String) (body : Json) (work : HandlerWork σ) :
    HandlerWork (σ × List HandlingEvent) :=
  fun context => do
    Task.perform (noteHandling fun _ =>
      .invoked messageType body context.messageId context.headers)
    let result ← HandlerWork.onFirst [] work context
    Task.perform (noteHandling fun _ => .returned result)
    return result

namespace EngineState

/-- An engine on the host whose handlers are noted under the names by which they are
registered. -/
def noted (engine : EngineState σ) : EngineState (σ × List HandlingEvent) :=
  { engine.onFirst [] with
    handlers := engine.handlers.mapNamed fun name handler body =>
      (handler body).map (HandlerWork.noted name body) }

variable [Host σ] [LogSink κ]

/-- The pipeline of an engine, with a record of what it makes of its messages. -/
def handling (engine : EngineState σ) (logBook : LogBook σ κ) (configuration : Configuration) :
    Pipeline (σ × List HandlingEvent) :=
  let pipeline := (engine.noted.receiver logBook.onFirst configuration).toPipeline
  { pipeline with
    onError := fun context cancel => do
      Task.perform (noteHandling fun s => .failed context.error (engine.transport.get s))
      let answer ← pipeline.onError context cancel
      Task.perform (noteHandling fun s => .decided answer (engine.transport.get s))
      return answer }

/-- An attempt on the engine, with a record of what it makes of its message. -/
def handlingAttempt (engine : EngineState σ) (logBook : LogBook σ κ)
    (configuration : Configuration) (message : InboundMessage) (strategy : TransactionStrategy σ)
    (cancel : CancellationToken σ) :
    Task (σ × List HandlingEvent) (Except BusError AttemptOutcome) :=
  (engine.handling logBook configuration).attempt message (strategy.onFirst []) fun s => cancel s.1

variable {engine : EngineState σ} {logBook : LogBook σ κ} {configuration : Configuration}
  {message : InboundMessage} {strategy : TransactionStrategy σ} {cancel : CancellationToken σ}

omit [Host σ] [LogSink κ] in
theorem get?_handlers_noted (name : String) :
    engine.noted.handlers.get? name =
      (engine.handlers.get? name).map fun handler body =>
        (handler body).map (HandlerWork.noted name body) :=
  Dictionary.get?_mapNamed ..

/-- Recoverability has no part in what the handlers of the engine are. -/
theorem onError_noted (message : InboundMessage) (failure : Failure)
    (seen : TransportToken (σ × List HandlingEvent)) (token : TransportToken σ)
    (s : σ × List HandlingEvent) :
    let decided := (engine.receiver logBook configuration).onError
      (message.errorContext failure token) s.1
    (engine.noted.receiver logBook.onFirst configuration).onError
      (message.errorContext failure seen) s = (decided.1, (decided.2, s.2)) :=
  onError_onFirst configuration message failure seen token [] s

/-- Noting changes nothing of what is done to the host. -/
theorem reflects_handling :
    (engine.handling logBook configuration).Reflects (fun _ _ => True)
      (engine.receiver logBook configuration).toPipeline cancel where
  onMessage := by
    intro message seen token _
    refine Receiver.mirrors_onMessage get?_handlers_noted message seen token ?_
    intro name json work
    have worked : Mirrors Prod.fst Eq
        (HandlerWork.onFirst [] work
          ⟨message.id, message.headers, engine.noted.session configuration.endpointName⟩)
        (work ⟨message.id, message.headers, engine.session configuration.endpointName⟩) :=
      engine.mirrors_work work message.id message.headers configuration.endpointName
    refine .aside (fun _ => rfl) fun _ => ?_
    change Mirrors Prod.fst Eq _ (work
      ⟨message.id, message.headers, engine.session configuration.endpointName⟩)
    rw [← andThen_done (work _)]
    apply worked.bind
    intro result
    exact .aside (fun _ => rfl) fun _ => .done rfl
  onError := by
    intro message failure seen token _
    have decides : Mirrors Prod.fst Eq
        (perform ((engine.noted.receiver logBook.onFirst configuration).onError
          (message.errorContext failure seen)) : Task (σ × List HandlingEvent) ErrorVerdict)
        (perform ((engine.receiver logBook configuration).onError
          (message.errorContext failure token))) := by
      refine mirrors_perform ?_ ?_
      · intro s
        rw [onError_noted message failure seen token]
      · intro s
        rw [onError_noted message failure seen token]
    refine .aside (fun _ => rfl) fun _ => ?_
    change Mirrors Prod.fst Eq (Task.andThen (Task.andThen _ _) _) (Task.andThen _ _)
    rw [andThen_assoc]
    apply decides.bind
    intro verdict
    exact .aside (fun _ => rfl) fun _ => .done rfl

/-- An attempt does to the host what it does without a record. -/
theorem mirrors_handlingAttempt :
    Mirrors Prod.fst Eq (engine.handlingAttempt logBook configuration message strategy cancel)
      ((engine.receiver logBook configuration).toPipeline.attempt message strategy cancel) :=
  reflects_handling.attempt TransactionStrategy.reflects_onFirst message

end EngineState

end InMemory

end BusEndpoint
