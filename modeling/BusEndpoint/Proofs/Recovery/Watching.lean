import BusEndpoint.Proofs.Recovery.Beside

/-! An error pipeline that is watched. Its calls and answers are noted beside the
host, each with the transport at that moment, and so is all that it does with the
log book of its endpoint. Handlers and transactions work on the host alone, where
they may log what they like; watching changes nothing of what an attempt does to
the host. -/

namespace BusEndpoint

open BusEndpoint.Task

namespace InMemory

/-- What is seen of an error pipeline. -/
inductive Watched (κ : Type) where
  /-- It is called with a failure. -/
  | called (failure : Failure) (transport : Transport)
  /-- The loggers of the endpoint are replaced. -/
  | replaced (before after : LoggerContext κ)
  | delivered (delivery : Delivery κ)
  | answered (answer : Except Failure ErrorVerdict) (transport : Transport)

/-- What is seen of an operation on loggers. -/
def Watched.ofOperation {κ α : Type} (context : LoggerContext κ) (logged : Logged κ α) :
    List (Watched κ) :=
  .replaced context logged.context :: logged.deliveries.map .delivered

end InMemory

open InMemory (Watched)

variable {σ κ α : Type}

/-- Note something beside the host. -/
def watch (seen : σ → Watched κ) : StateM (σ × List (Watched κ)) Unit :=
  modify fun s => (s.1, s.2 ++ [seen s.1])

/-- A log book whose uses are noted. -/
def LogBook.watched (book : LogBook σ κ) : LogBook (σ × List (Watched κ)) κ where
  context :=
    { get := fun s => book.context.get s.1
      set := fun context s =>
        (book.context.set context s.1, s.2 ++ [.replaced (book.context.get s.1) context])
      get_set := fun context s => book.context.get_set context s.1 }
  deliver delivery s := (book.deliver delivery s.1, s.2 ++ [.delivered delivery])

theorem LogBook.perform_watched (book : LogBook σ κ) (operation : LoggerContext κ → Logged κ α)
    (s : σ × List (Watched κ)) :
    book.watched.perform operation s =
      ((book.perform operation s.1).1, ((book.perform operation s.1).2,
        s.2 ++ Watched.ofOperation (book.context.get s.1)
          (operation (book.context.get s.1)))) := by
  have hDeliveries (deliveries : List (Delivery κ)) (t : σ × List (Watched κ)) :
      deliveries.foldl
          (fun s delivery => (book.deliver delivery s.1, s.2 ++ [.delivered delivery])) t =
        (deliveries.foldl (fun s delivery => book.deliver delivery s) t.1,
          t.2 ++ deliveries.map .delivered) := by
    induction deliveries generalizing t with
    | nil => simp
    | cons delivery rest ih =>
        rw [List.map_cons, List.append_cons]
        exact ih _
  refine congrArg (Prod.mk _) ((hDeliveries _ _).trans ?_)
  rw [Watched.ofOperation, List.append_cons]
  rfl

/-- A pipeline whose calls after a failure are noted. -/
def Pipeline.watched (pipeline : Pipeline (σ × List (Watched κ))) (transport : Slot σ Transport) :
    Pipeline (σ × List (Watched κ)) :=
  { pipeline with
    onError := fun context cancel => do
      Task.perform (watch fun s => .called context.error (transport.get s))
      let answer ← pipeline.onError context cancel
      Task.perform (watch fun s => .answered answer (transport.get s))
      return answer }

namespace InMemory.EngineState

variable [Host σ] [LogSink κ]

/-- The pipeline of an engine in memory, watched. -/
def watched (engine : EngineState σ) (logBook : LogBook σ κ) (configuration : Configuration) :
    Pipeline (σ × List (Watched κ)) :=
  ((engine.onFirst []).receiver logBook.watched configuration).toPipeline.watched engine.transport

variable {engine : EngineState σ} {logBook : LogBook σ κ} {configuration : Configuration}
  {cancel : CancellationToken σ}

/-- What a failure of a message comes to: an entry in the log, and what is
decided. -/
theorem onError_watched (message : InboundMessage) (failure : Failure)
    (seen : TransportToken (σ × List (Watched κ))) (token : TransportToken σ)
    (s : σ × List (Watched κ)) :
    let action := configuration.recoverability.action message.deliveryCount message.headers
    let entry := Receiver.decisionEntry (message.errorContext failure token) failure.message action
    let context := logBook.context.get s.1
    let decided := (engine.receiver logBook configuration).onError
      (message.errorContext failure token) s.1
    ((engine.onFirst []).receiver logBook.watched configuration).onError
        (message.errorContext failure seen) s =
      (decided.1, (decided.2,
        s.2 ++ Watched.ofOperation context (context.log recoverabilityLogger entry))) := by
  intro action entry context decided
  have hEntry : Receiver.decisionEntry (message.errorContext failure seen) failure.message action =
      entry := by
    change Receiver.decisionEntry _ _ action = Receiver.decisionEntry _ _ action
    cases action <;> rfl
  have hDecision : Receiver.applyDecision configuration.endpointName
      (message.errorContext failure seen) failure.message action =
        Receiver.applyDecision configuration.endpointName (message.errorContext failure token)
          failure.message action := by
    funext transport
    cases action <;> rfl
  change engine.transport.onFirst.update (Receiver.applyDecision configuration.endpointName
    (message.errorContext failure seen) failure.message action) (logBook.watched.perform
      (LoggerContext.log recoverabilityLogger (Receiver.decisionEntry
        (message.errorContext failure seen) failure.message action)) s).2 = _
  rw [hEntry, hDecision, logBook.perform_watched]
  rfl

theorem reflects_watched :
    (engine.watched logBook configuration).Reflects (fun _ _ => True)
      (engine.receiver logBook configuration).toPipeline cancel where
  onMessage := by
    intro message seen token _
    exact mirrors_onMessage configuration message seen token []
  onError := by
    intro message failure seen token _
    have decides : Mirrors Prod.fst Eq
        (perform (((engine.onFirst []).receiver logBook.watched configuration).onError
          (message.errorContext failure seen)) : Task (σ × List (Watched κ)) ErrorVerdict)
        (perform ((engine.receiver logBook configuration).onError
          (message.errorContext failure token))) := by
      refine mirrors_perform ?_ ?_
      · intro s
        rw [onError_watched message failure seen token]
      · intro s
        rw [onError_watched message failure seen token]
    refine .aside (fun _ => rfl) fun _ => ?_
    change Mirrors Prod.fst Eq (Task.andThen (Task.andThen _ _) _) (Task.andThen _ _)
    rw [andThen_assoc]
    apply decides.bind
    intro verdict
    exact .aside (fun _ => rfl) fun _ => .done rfl

/-- What others do to the host while an attempt has given up control. They have no
part in what is seen of it. -/
def Around (others : σ → σ → Prop) (before after : σ × List (Watched κ)) : Prop :=
  others before.1 after.1 ∧ after.2 = before.2

/-- An attempt on the engine comes to an outcome, and this was seen of its error
pipeline. -/
def AttemptsWatched (engine : EngineState σ) (logBook : LogBook σ κ)
    (configuration : Configuration) (others : σ → σ → Prop) (message : InboundMessage)
    (strategy : TransactionStrategy σ) (cancel : CancellationToken σ) (s : σ)
    (seen : List (Watched κ)) (outcome : Except BusError AttemptOutcome) (t : σ) : Prop :=
  Runs (Around others)
    ((engine.watched logBook configuration).attempt message (strategy.onFirst [])
      fun s => cancel s.1) (s, []) outcome (t, seen)

variable {others : σ → σ → Prop} {message : InboundMessage} {strategy : TransactionStrategy σ}
  {s t : σ} {outcome : Except BusError AttemptOutcome}

/-- The attempts on an engine are those that are watched. -/
theorem runs_attempt_iff :
    Runs others ((engine.receiver logBook configuration).toPipeline.attempt message strategy cancel)
        s outcome t ↔
      ∃ seen, engine.AttemptsWatched logBook configuration others message strategy cancel s seen
        outcome t := by
  have mirrors : Mirrors Prod.fst Eq
      ((engine.watched logBook configuration).attempt message (strategy.onFirst [])
        fun s => cancel s.1)
      ((engine.receiver logBook configuration).toPipeline.attempt message strategy cancel) :=
    reflects_watched.attempt TransactionStrategy.reflects_onFirst message
  constructor
  · intro run
    have hAround (state : σ × List (Watched κ)) (u : σ) (between : others state.1 u) :
        ∃ after : σ × List (Watched κ), Around others state after ∧ after.1 = u :=
      ⟨(u, state.2), ⟨between, rfl⟩, rfl⟩
    obtain ⟨_, ⟨u, seen⟩, rfl, rfl, watched⟩ := mirrors.runs_of hAround (s := (s, [])) run
    exact ⟨seen, watched⟩
  · rintro ⟨seen, watched⟩
    obtain ⟨_, rfl, run⟩ := mirrors.runs (fun _ _ between => between.1) watched
    exact run

end InMemory.EngineState

end BusEndpoint
