import BusEndpoint.Proofs.Recovery.Decisions
import BusEndpoint.Proofs.Recovery.Stages
import BusEndpoint.Proofs.Recovery.Watching
import BusEndpoint.Transaction.HostManaged

/-! The account that attempts on an engine in memory give of their failures. An
attempt calls the error pipeline at most once; the pipeline then logs one entry,
changes the transport and answers, all three by one decision, and nothing else of
the attempt reaches the log book. -/

namespace BusEndpoint

open BusEndpoint.Task

namespace InMemory

variable {σ κ : Type}

/-- Logging does not reach the queues. -/
structure LogsApart (transport : Slot σ Transport) (logBook : LogBook σ κ) : Prop where
  loggers : ∀ context s, transport.get (logBook.context.set context s) = transport.get s
  deliveries : ∀ delivery s, transport.get (logBook.deliver delivery s) = transport.get s

theorem LogsApart.perform {α : Type} {transport : Slot σ Transport} {logBook : LogBook σ κ}
    (apart : LogsApart transport logBook) (operation : LoggerContext κ → Logged κ α) (s : σ) :
    transport.get (logBook.perform operation s).2 = transport.get s :=
  LogBook.view_perform apart.loggers apart.deliveries operation s

variable [LogSink κ]

/-- The error pipeline is called once with a failure, logs one entry on the logger
for recoverability, does nothing else with the log book, and answers. -/
def Watched.IsCall (seen : List (Watched κ)) (failure : Failure) (treatment : Treatment) : Prop :=
  ∃ entry context, entry.level = treatment.level ∧
    seen = .called failure treatment.before ::
      (Watched.ofOperation context (LoggerContext.log recoverabilityLogger entry context) ++
        [.answered (.ok treatment.verdict) treatment.after])

/-- A failure of a message is treated as the settings of its endpoint decide. -/
structure Treats (configuration : Configuration) (message : InboundMessage)
    (seen : List (Watched κ)) (failure : Failure) (treatment : Treatment) : Prop where
  isCall : Watched.IsCall seen failure treatment
  follows : treatment.Follows configuration.endpointName message failure.message
    (configuration.recoverability.action message.deliveryCount message.headers)

/-- What an attempt shows of its error pipeline and of the log book. -/
structure Reveals (configuration : Configuration) (message : InboundMessage)
    (seen : List (Watched κ)) (outcome : Except BusError AttemptOutcome) : Prop where
  called : ∀ failure transport, .called failure transport ∈ seen → ∃ treatment,
    treatment.before = transport ∧ Treats configuration message seen failure treatment ∧
      (treatment.verdict = .retryRequired ↔ treatment.after = treatment.before) ∧
      Acknowledges failure treatment.verdict outcome
  uncalled : (∀ failure transport, .called failure transport ∉ seen) → seen = []
  succeeded : outcome = .ok .success → seen = []
  /-- A failure may have been handled before the completion is cancelled. -/
  cancelled : outcome = .error .cancelled →
    (∀ transport, .answered (.ok .handled) transport ∉ seen) → seen = []

variable {configuration : Configuration} {message : InboundMessage} {seen : List (Watched κ)}
  {outcome : Except BusError AttemptOutcome}

omit [LogSink κ] in
theorem Watched.called_not_mem_ofOperation {α : Type} {context : LoggerContext κ}
    {logged : Logged κ α} {failure : Failure} {transport : Transport} :
    .called failure transport ∉ Watched.ofOperation context logged := by
  simp [Watched.ofOperation]

theorem reveals_nil : Reveals configuration message ([] : List (Watched κ)) outcome :=
  ⟨nofun, fun _ => rfl, fun _ => rfl, fun _ _ => rfl⟩

theorem Treats.reveals {failure : Failure} {treatment : Treatment}
    (treats : Treats configuration message seen failure treatment)
    (acknowledges : Acknowledges failure treatment.verdict outcome) :
    Reveals configuration message seen outcome := by
  obtain ⟨entry, context, -, hSeen⟩ := treats.isCall
  constructor
  · intro other transport hCalled
    have hCall : other = failure ∧ transport = treatment.before := by
      simpa [hSeen, Watched.called_not_mem_ofOperation] using hCalled
    obtain ⟨rfl, rfl⟩ := hCall
    exact ⟨treatment, rfl, treats, treats.follows.verdict_iff, acknowledges⟩
  · intro uncalled
    exact absurd (hSeen ▸ List.mem_cons_self) (uncalled failure treatment.before)
  · rintro rfl
    generalize treatment.verdict = verdict at acknowledges
    cases acknowledges
  · rintro rfl hAnswered
    generalize hVerdict : treatment.verdict = verdict at acknowledges hSeen
    cases acknowledges
    exact absurd (by simp [hSeen]) (hAnswered treatment.after)

namespace EngineState

variable [Host σ] {engine : EngineState σ} {logBook : LogBook σ κ} {others : σ → σ → Prop}
  {strategy : TransactionStrategy σ} {cancel : CancellationToken σ} {s t : σ × List (Watched κ)}

/-- What becomes of a failure is decided on the transport that is found; logging comes
first, and does not change it. -/
theorem onError_eq (apart : LogsApart engine.transport logBook) (message : InboundMessage)
    (failure : Failure) (token : TransportToken σ) (s : σ) :
    let context := message.errorContext failure token
    let action := configuration.recoverability.action message.deliveryCount message.headers
    let entry := Receiver.decisionEntry context failure.message action
    let decided := Receiver.applyDecision configuration.endpointName context failure.message action
      (engine.transport.get s)
    (engine.receiver logBook configuration).onError context s =
      (decided.1, engine.transport.set decided.2 (logBook.log recoverabilityLogger entry s).2) := by
  intro context action entry decided
  have hLogged : engine.transport.get (logBook.log recoverabilityLogger entry s).2 =
      engine.transport.get s := apart.perform _ s
  have hSame : decided = Receiver.applyDecision configuration.endpointName context failure.message
      action (engine.transport.get (logBook.log recoverabilityLogger entry s).2) := by
    rw [hLogged]
  rw [hSame]
  rfl

/-- The error pipeline treats a failure in one go. -/
theorem poll_onError_watched (apart : LogsApart engine.transport logBook) (failure : Failure)
    (token : TransportToken (σ × List (Watched κ))) (s : σ × List (Watched κ)) :
    ∃ call treatment u, Treats configuration message call failure treatment ∧
      ((engine.watched logBook configuration).onError (message.errorContext failure token)
        fun s => cancel s.1).poll s = (.finished (.ok treatment.verdict), (u, s.2 ++ call)) := by
  let plain : TransportToken σ := ⟨"", none⟩
  let action := configuration.recoverability.action message.deliveryCount message.headers
  let entry := Receiver.decisionEntry (message.errorContext failure plain) failure.message action
  let context := logBook.context.get s.1
  let logged := (logBook.log recoverabilityLogger entry s.1).2
  let decided := Receiver.applyDecision configuration.endpointName
    (message.errorContext failure plain) failure.message action (engine.transport.get s.1)
  let called : List (Watched κ) := [.called failure (engine.transport.get s.1)]
  let uses := Watched.ofOperation context (context.log recoverabilityLogger entry)
  have hTreated : ((engine.onFirst []).receiver logBook.watched configuration).onError
      (message.errorContext failure token) (s.1, s.2 ++ called) =
        (decided.1, (engine.transport.set decided.2 logged, s.2 ++ called ++ uses)) := by
    rw [onError_watched message failure token plain, onError_eq apart]
  refine ⟨called ++ uses ++ [.answered (.ok decided.1) decided.2],
    ⟨entry.level, engine.transport.get s.1, decided.2, decided.1⟩,
    engine.transport.set decided.2 logged, ⟨⟨entry, context, rfl, rfl⟩, ?_⟩, ?_⟩
  · exact Receiver.follows_applyDecision ..
  · have hPoll : ((engine.watched logBook configuration).onError
        (message.errorContext failure token) fun s => cancel s.1).poll s =
          let answered := ((engine.onFirst []).receiver logBook.watched configuration).onError
            (message.errorContext failure token) (s.1, s.2 ++ called)
          (.finished (.ok answered.1), (answered.2.1, answered.2.2 ++
            [.answered (.ok answered.1) (engine.transport.get answered.2.1)])) := rfl
    rw [hPoll, hTreated]
    simp only [engine.transport.get_set, List.append_assoc]

/-- Handlers log what they like, but not as the attempt. -/
theorem acts_onMessage (context : MessageContext (σ × List (Watched κ)))
    (cancel : CancellationToken (σ × List (Watched κ))) :
    ((engine.watched logBook configuration).onMessage context cancel).Acts LeavesSecond
      fun _ => True := by
  change (((engine.onFirst []).receiver logBook.watched configuration).onMessage context).Acts _ _
  obtain ⟨failure, hFails⟩ | ⟨name, handler, body, work, hHandler, hDecode, hWork⟩ :=
    ((engine.onFirst []).receiver logBook.watched configuration).onMessage_cases context
  · rw [hFails]
    exact acts_done trivial
  · rw [hWork]
    obtain ⟨plain, inner, -, -, rfl⟩ := EngineState.handler_of_onFirst hHandler hDecode
    exact acts_onFirst _

/-- After a failure the error pipeline is called once, and nothing else is seen. -/
theorem reveals_attempt (apart : LogsApart engine.transport logBook) {s t : σ}
    (attempts : engine.AttemptsWatched logBook configuration others message strategy cancel s seen
      outcome t) : Reveals configuration message seen outcome := by
  have opens : strategy.Opens fun _ => True :=
    ⟨fun _ _ _ => trivial, fun _ _ => trivial, fun _ _ _ => trivial⟩
  have run : Runs (Beside others) ((engine.watched logBook configuration).attempt message
      (strategy.onFirst []) fun s => cancel s.1) (s, []) outcome (t, seen) := attempts
  rcases Pipeline.runs_attempt_beside opens run with
    ⟨-, -, rfl⟩ | ⟨token, u, ended, v, middle, -, calls, concludes⟩
  · exact reveals_nil
  · obtain ⟨rfl, -⟩ : middle = [] ∧ _ := ((acts_onMessage _ _).cutBy leavesSecond_refl).runs
      leavesSecond_refl leavesSecond_trans (fun _ _ between => between.2) calls
    cases concludes with
    | cut => exact reveals_nil
    | succeeded => exact reveals_nil
    | unsettled error => exact reveals_nil
    | cancelled cancellation => exact reveals_nil
    | @failed failure token w x _ _ answer _ genuine calls weighs =>
        obtain ⟨call, treatment, host, (treats : Treats configuration message call failure treatment),
          hPoll⟩ := poll_onError_watched apart failure token (w, [])
        obtain ⟨rfl, hEnd⟩ := (runs_iff_of_finished hPoll).mp calls
        obtain rfl : seen = call := congrArg Prod.snd hEnd
        cases weighs with
        | verdict acknowledges => exact treats.reveals acknowledges

/-- A failure that reaches the error pipeline is treated as the settings decide, with
one entry in the log; this is all that an attempt has to do with the log book. -/
theorem attemptsReveal (apart : LogsApart engine.transport logBook) :
    (∀ failure token s, ∃ call treatment u,
      Treats configuration message call failure treatment ∧
        (treatment.verdict = .retryRequired ↔ treatment.after = treatment.before) ∧
        ((engine.watched logBook configuration).onError (message.errorContext failure token)
          fun s => cancel s.1).poll s = (.finished (.ok treatment.verdict), (u, s.2 ++ call))) ∧
    ∀ s outcome t, Runs others
        ((engine.receiver logBook configuration).toPipeline.attempt message strategy cancel)
        s outcome t →
      (∃ seen, engine.AttemptsWatched logBook configuration others message strategy cancel s seen
        outcome t) ∧
      ∀ seen, engine.AttemptsWatched logBook configuration others message strategy cancel s seen
        outcome t → Reveals configuration message seen outcome := by
  refine ⟨?_, ?_⟩
  · intro failure token s
    obtain ⟨call, treatment, u, treats, hPoll⟩ := poll_onError_watched apart failure token s
    exact ⟨call, treatment, u, treats, treats.follows.verdict_iff, hPoll⟩
  · intro s outcome t run
    exact ⟨runs_attempt_iff.mp run, fun _ => reveals_attempt apart⟩

end EngineState

/-- An engine for orders. Whoever handles one cancels the call and fails. -/
def overtaken : EngineState HostState where
  transport := HostState.queues
  starts := HostState.counter "orders"
  handlers := .ofList [("Order", fun _ => .ok fun _ => do
    HostState.cancel "call"
    return .error (.application "broken"))]

def overtakenConfiguration : Configuration :=
  ⟨"orders", "", none, .receiveOnly, { immediateRetries := 0, delayedRetries := 0 }, false⟩

theorem logsApart_overtaken : LogsApart overtaken.transport (HostState.logBook "orders") where
  loggers _ _ := rfl
  deliveries delivery s := by
    change (Sink.deliver HostState.deliveries delivery s).transport = s.transport
    rw [Sink.deliver]
    cases delivery.sink <;> rfl

/-- A message of a type without a handler is put into the error queue, and an entry
tells so. -/
theorem attemptsReveal_moved :
    ∃ (seen : List (Watched Sink)) (t : HostState),
      overtaken.AttemptsWatched (HostState.logBook "orders") overtakenConfiguration Eq
        ⟨"order-1", [], .empty, 1⟩ .none (HostState.isCancelled "call") {} seen
        (.ok .handledFailure) t ∧
      Reveals overtakenConfiguration ⟨"order-1", [], .empty, 1⟩ seen (.ok .handledFailure) ∧
      seen.length = 3 := by
  have watched : ∃ (seen : List (Watched Sink)) (t : HostState),
      overtaken.AttemptsWatched (HostState.logBook "orders") overtakenConfiguration Eq
        ⟨"order-1", [], .empty, 1⟩ .none (HostState.isCancelled "call") {} seen
        (.ok .handledFailure) t ∧ seen.length = 3 :=
    ⟨_, _, .finished rfl, rfl⟩
  obtain ⟨seen, t, watched, hLength⟩ := watched
  have run := EngineState.runs_attempt_iff.mpr ⟨seen, watched⟩
  exact ⟨seen, t, watched,
    ((EngineState.attemptsReveal logsApart_overtaken).2 _ _ _ run).2 seen watched, hLength⟩

/-- The order of a call that is cancelled while it is handled. -/
def overtakenOrder : InboundMessage :=
  ⟨"order-1", Text.utf8 "0", .ofList [(Header.enclosedMessageTypes, "Order")], 1⟩

/-- Transactions of the host that do nothing. -/
def idleTransactions : HostTransactions HostState where
  factory := return ⟨return .ok (), return ()⟩
  completion := none

/-- Whether a run has ended as cancelled. -/
def endsCancelled : Option (Except BusError AttemptOutcome) → Bool
  | some (.error error) => error.isCancelled
  | _ => false

theorem eq_of_endsCancelled {answer : Option (Except BusError AttemptOutcome)}
    (hCancelled : endsCancelled answer = true) : answer = some (.error .cancelled) := by
  obtain _ | (error | outcome) := answer
  · cases hCancelled
  · cases error with
    | cancelled => rfl
    | _ => cases hCancelled
  · cases hCancelled

/-- Its failure is logged and handled before the completion is cancelled. -/
theorem lateCancellation_revealed :
    ¬∀ (seen : List (Watched Sink)) (t : HostState),
      overtaken.AttemptsWatched (HostState.logBook "orders") overtakenConfiguration Eq
        overtakenOrder idleTransactions.strategy (HostState.isCancelled "call") {} seen
        (.error .cancelled) t → seen = [] := by
  intro unseen
  let attempt := (overtaken.watched (HostState.logBook "orders") overtakenConfiguration).attempt
    overtakenOrder (idleTransactions.strategy.onFirst []) fun s => HostState.isCancelled "call" s.1
  have hCancelled : endsCancelled (attempt.run ({}, [])).1 = true := by decide +kernel
  have hSeen : (attempt.run ({}, [])).2.2.length = 3 := by decide +kernel
  have alone : attempt.run ({}, []) = (some (.error .cancelled), (attempt.run ({}, [])).2) :=
    Prod.ext (eq_of_endsCancelled hCancelled) rfl
  have watched : overtaken.AttemptsWatched (HostState.logBook "orders") overtakenConfiguration Eq
      overtakenOrder idleTransactions.strategy (HostState.isCancelled "call") {}
      (attempt.run ({}, [])).2.2 (.error .cancelled) (attempt.run ({}, [])).2.1 :=
    runs_of_run (fun _ => ⟨rfl, rfl⟩) alone
  rw [unseen _ _ watched] at hSeen
  cases hSeen

end InMemory

end BusEndpoint
