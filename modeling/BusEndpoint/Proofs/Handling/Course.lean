import BusEndpoint.Proofs.Handling.Noted
import BusEndpoint.Proofs.Recovery.Account

/-! How an engine in memory handles a message. A message goes to one handler at most,
at once and only once. Whatever it then fails with, found before the handler or by it,
goes to recoverability in the same way. -/

namespace BusEndpoint

open BusEndpoint.Task

/-- What to do with a message whose delivery has failed, by the number of the delivery
and the header for delayed retries alone. -/
def RecoverabilitySettings.actionOn (settings : RecoverabilitySettings) (deliveryCount : UInt32)
    (retries? : Option String) : RecoverabilityAction :=
  settings.action deliveryCount
    (.ofList (retries?.toList.map fun retries => (Header.delayedRetries, retries)))

/-- No other header is looked at. -/
theorem RecoverabilitySettings.action_eq_actionOn (settings : RecoverabilitySettings)
    (deliveryCount : UInt32) (headers : Headers) :
    settings.action deliveryCount headers =
      settings.actionOn deliveryCount (headers.get? Header.delayedRetries) := by
  have hBehind : retriesBehind headers = retriesBehind (.ofList
      ((headers.get? Header.delayedRetries).toList.map fun text => (Header.delayedRetries, text))) := by
    rw [retriesBehind, retriesBehind]
    cases headers.get? Header.delayedRetries <;> rfl
  rw [actionOn, action, action, hBehind]

namespace InMemory

variable {σ κ : Type}

/-- What is seen of handlers that are given a message. -/
structure Invokes (handlers : Dictionary (Handler σ)) (message : InboundMessage)
    (events : List HandlingEvent) : Prop where
  once : (events.filter HandlingEvent.isInvoked).length ≤ 1
  /-- It is the handler of the type of the message, and it is given what the body says. -/
  given : ∀ event ∈ events, event.isInvoked = true → ∃ body, Json.read message.body = .ok body ∧
    event = .invoked (handledType message.headers) body message.id message.headers
  /-- A handler is invoked exactly if there is one for the type of the message, and the body
  can be read and decoded. -/
  invoked_iff : (∃ event ∈ events, event.isInvoked = true) ↔ ∃ handler body work,
    handlers.get? (handledType message.headers) = some handler ∧
      Json.read message.body = .ok body ∧ handler body = .ok work

/-- How a message comes to its result, and what is seen of handlers until then. -/
inductive Dispatches (handlers : Dictionary (Handler σ)) (message : InboundMessage) :
    Except Failure Unit → List HandlingEvent → Prop where
  | unhandled {failure : Failure}
      (selects : Selects handlers (handledType message.headers) message.body (.error failure)) :
      Dispatches handlers message (.error failure) []
  | handled {handler : Handler σ} {json : Json} {work : HandlerWork σ}
      (hHandler : handlers.get? (handledType message.headers) = some handler)
      (hRead : Json.read message.body = .ok json) (hDecode : handler json = .ok work)
      (result : Except Failure Unit) :
      Dispatches handlers message result
        [.invoked (handledType message.headers) json message.id message.headers, .returned result]

/-- Recoverability is asked about a failure once, and decides by the settings, the number
of the delivery and the header for delayed retries. -/
def IsTreated (configuration : Configuration) (message : InboundMessage) (failure : Failure)
    (events : List HandlingEvent) (outcome : Except BusError AttemptOutcome) : Prop :=
  ∃ treatment : Treatment,
    events = [.failed failure treatment.before,
      .decided (.ok treatment.verdict) treatment.after] ∧
    treatment.Follows configuration.endpointName message failure.message
      (configuration.recoverability.actionOn message.deliveryCount
        (message.headers.get? Header.delayedRetries)) ∧
    Acknowledges failure treatment.verdict outcome

/-- What becomes of the result of a message, and what is seen of recoverability. -/
inductive Disposes (configuration : Configuration) (message : InboundMessage) :
    Except Failure Unit → List HandlingEvent → Except BusError AttemptOutcome → Prop where
  | succeeded : Disposes configuration message (.ok ()) [] (.ok .success)
  /-- The transaction of the message cannot be completed or committed. -/
  | unsettled (error : BusError) : Disposes configuration message (.ok ()) [] (.error error)
  | cancelled {failure : Failure} (cancellation : failure.isCancellation = true) :
      Disposes configuration message (.error failure) [] (.error .cancelled)
  | treated {failure : Failure} {events : List HandlingEvent}
      {outcome : Except BusError AttemptOutcome} (genuine : failure.isCancellation = false)
      (treated : IsTreated configuration message failure events outcome) :
      Disposes configuration message (.error failure) events outcome

/-- All that is seen of the handling of a message that has come to its end. -/
structure Handles (handlers : Dictionary (Handler σ)) (configuration : Configuration)
    (message : InboundMessage) (events : List HandlingEvent)
    (outcome : Except BusError AttemptOutcome) : Prop where
  /-- The message comes to a result, and that decides on all that follows. -/
  course : ∃ result dispatched disposed, events = dispatched ++ disposed ∧
    Dispatches handlers message result dispatched ∧
    Disposes configuration message result disposed outcome
  succeeded : outcome = .ok .success → .returned (.ok ()) ∈ events
  /-- Nothing that fails without a handler passes for a cancellation. -/
  unhandled : ∀ failure,
    Selects handlers (handledType message.headers) message.body (.error failure) →
      IsTreated configuration message failure events outcome

section Course

variable {handlers : Dictionary (Handler σ)} {configuration : Configuration}
  {message : InboundMessage} {result : Except Failure Unit} {events : List HandlingEvent}
  {dispatched disposed : List HandlingEvent} {outcome : Except BusError AttemptOutcome}

theorem Invokes.of_none {failure : Failure}
    (selects : Selects handlers (handledType message.headers) message.body (.error failure))
    (hNone : events.filter HandlingEvent.isInvoked = []) : Invokes handlers message events := by
  have hEvents : ¬∃ event ∈ events, event.isInvoked = true := by
    rintro ⟨event, hEvent, hInvoked⟩
    exact List.filter_eq_nil_iff.mp hNone event hEvent hInvoked
  refine ⟨by simp [hNone], fun event hEvent hInvoked => ?_, iff_of_false hEvents ?_⟩
  · exact absurd ⟨event, hEvent, hInvoked⟩ hEvents
  · rintro ⟨handler, body, work, hHandler, hRead, hDecode⟩
    cases selects.unique (.decoded hHandler hRead hDecode)

theorem Invokes.of_one {handler : Handler σ} {body : Json} {work : HandlerWork σ}
    (hHandler : handlers.get? (handledType message.headers) = some handler)
    (hRead : Json.read message.body = .ok body) (hDecode : handler body = .ok work)
    (hOne : events.filter HandlingEvent.isInvoked =
      [.invoked (handledType message.headers) body message.id message.headers]) :
    Invokes handlers message events := by
  have hEvents (event : HandlingEvent) : event ∈ events ∧ event.isInvoked = true ↔
      event = .invoked (handledType message.headers) body message.id message.headers := by
    rw [← List.mem_filter, hOne, List.mem_singleton]
  refine ⟨by simp [hOne], fun event hEvent hInvoked => ?_, iff_of_true ?_ ?_⟩
  · exact ⟨body, hRead, (hEvents event).mp ⟨hEvent, hInvoked⟩⟩
  · exact ⟨_, (hEvents _).mpr rfl⟩
  · exact ⟨handler, body, work, hHandler, hRead, hDecode⟩

/-- The course of a message shows all that is to be known of its handling. -/
theorem Handles.of_course (dispatches : Dispatches handlers message result dispatched)
    (disposes : Disposes configuration message result disposed outcome) :
    Handles handlers configuration message (dispatched ++ disposed) outcome where
  course := ⟨result, dispatched, disposed, rfl, dispatches, disposes⟩
  succeeded := by
    rintro rfl
    cases disposes with
    | succeeded =>
        cases dispatches with
        | handled => simp
    | treated genuine treated =>
        obtain ⟨treatment, -, -, acknowledges⟩ := treated
        generalize treatment.verdict = verdict at acknowledges
        cases acknowledges
  unhandled := by
    intro failure selects
    cases dispatches with
    | unhandled also =>
        obtain rfl := Except.error.inj (selects.unique also)
        cases disposes with
        | cancelled cancellation => cases selects.isCancellation_eq_false.symm.trans cancellation
        | treated genuine treated => exact treated
    | handled hHandler hRead hDecode => cases selects.unique (.decoded hHandler hRead hDecode)

end Course

/-- No handler is invoked. -/
def InvokesNone (s t : σ × List HandlingEvent) : Prop :=
  t.2.filter HandlingEvent.isInvoked = s.2.filter HandlingEvent.isInvoked

theorem LeavesSecond.invokesNone (s t : σ × List HandlingEvent) (leaves : LeavesSecond s t) :
    InvokesNone s t :=
  congrArg (List.filter HandlingEvent.isInvoked) leaves

theorem acts_noteHandling {seen : σ → HandlingEvent} (hSeen : ∀ s, (seen s).isInvoked = false) :
    (perform (noteHandling seen)).Acts InvokesNone fun _ => True := by
  refine acts_perform (fun s => ?_) fun _ => trivial
  change (s.2 ++ [seen s.1]).filter HandlingEvent.isInvoked = _
  simp [hSeen]

theorem allows_invokesNone [Host σ] : Host.Allows (σ := σ × List HandlingEvent) InvokesNone where
  refl _ := rfl
  trans _ _ _ first last := Eq.trans last first
  identifiers _ _ := rfl
  report _ _ _ := rfl

/-- What is left of the work of a handler once it has been noted that it is invoked. -/
def HandlerWork.answered (work : HandlerWork σ) : HandlerWork (σ × List HandlingEvent) :=
  fun context => do
    let result ← HandlerWork.onFirst [] work context
    Task.perform (noteHandling fun _ => .returned result)
    return result

theorem HandlerWork.acts_answered (work : HandlerWork σ)
    (context : HandlerContext (σ × List HandlingEvent)) :
    (answered work context).Acts InvokesNone fun _ => True := by
  refine ((acts_onFirst _).widen LeavesSecond.invokesNone).bind fun result _ => ?_
  exact (acts_noteHandling fun _ => rfl).bind fun _ _ => trivial

/-- A handler that is not stopped before it starts is invoked at once. -/
theorem HandlerWork.poll_noted_cutBy {α : Type} {messageType : String} {body : Json}
    {work : HandlerWork σ} {context : HandlerContext (σ × List HandlingEvent)}
    {follow : Option (Except Failure Unit) → Task (σ × List HandlingEvent) α}
    (stop : σ × List HandlingEvent → Bool) {s : σ × List HandlingEvent} (hGoing : stop s = false) :
    (((noted messageType body work context).cutBy stop).andThen follow).poll s =
      (((answered work context).cutAtResumption stop).andThen follow).poll
        (s.1, s.2 ++ [.invoked messageType body context.messageId context.headers]) := by
  change Task.poll (Task.andThen (if stop s then _ else _) _) _ = _
  rw [if_neg (by simp [hGoing])]
  rfl

namespace EngineState

variable [Host σ] [LogSink κ] {engine : EngineState σ} {logBook : LogBook σ κ}
  {configuration : Configuration} {others : σ → σ → Prop} {message : InboundMessage}
  {strategy : TransactionStrategy σ} {cancel : CancellationToken σ}

/-- Recoverability invokes no handler. -/
theorem acts_onError_handling (context : ErrorContext (σ × List HandlingEvent))
    (cancel : CancellationToken (σ × List HandlingEvent)) :
    ((engine.handling logBook configuration).onError context cancel).Acts InvokesNone
      fun _ => True := by
  let plain : TransportToken σ := ⟨"", none⟩
  let message : InboundMessage :=
    ⟨context.messageId, context.body, context.headers, context.deliveryCount⟩
  have hDecides (s : σ × List HandlingEvent) : LeavesSecond s
      ((engine.noted.receiver logBook.onFirst configuration).onError context s).2 := by
    change LeavesSecond s ((engine.noted.receiver logBook.onFirst configuration).onError
      (message.errorContext context.error context.token) s).2
    rw [onError_noted message context.error context.token plain]
    rfl
  have decides : ((engine.noted.receiver logBook.onFirst configuration).toPipeline.onError context
      cancel).Acts InvokesNone fun _ => True :=
    acts_perform_andThen (fun s => LeavesSecond.invokesNone _ _ (hDecides s)) fun _ => trivial
  refine (acts_noteHandling fun _ => rfl).bind fun _ _ => ?_
  refine decides.bind fun answer _ => ?_
  exact (acts_noteHandling fun _ => rfl).bind fun _ _ => trivial

/-- A message fails at once, or goes to the handler of its type. -/
theorem onMessage_handling_cases (engine : EngineState σ) (logBook : LogBook σ κ)
    (configuration : Configuration) (message : InboundMessage)
    (token : TransportToken (σ × List HandlingEvent))
    (cancel : CancellationToken (σ × List HandlingEvent)) :
    (∃ failure,
      Selects engine.handlers (handledType message.headers) message.body (.error failure) ∧
      (engine.handling logBook configuration).onMessage (message.context token) cancel =
        done (.error failure)) ∨
    ∃ handler body work, engine.handlers.get? (handledType message.headers) = some handler ∧
      Json.read message.body = .ok body ∧ handler body = .ok work ∧
      (engine.handling logBook configuration).onMessage (message.context token) cancel =
        HandlerWork.noted (handledType message.headers) body work
          ⟨message.id, message.headers, engine.noted.session configuration.endpointName⟩ := by
  let plain : TransportToken σ := ⟨"", none⟩
  have selects : Selects engine.handlers (handledType message.headers) message.body
      ((engine.receiver logBook configuration).select (message.context plain)) :=
    (engine.receiver logBook configuration).selects_select (message.context plain)
  obtain ⟨failure, hSelected, carried⟩ | ⟨body, work, hRead, hSelected, carried⟩ :=
    selects.carry get?_handlers_noted
  · exact .inl ⟨failure, hSelected ▸ selects, Receiver.onMessage_of_error carried⟩
  · rw [hSelected] at selects
    cases selects with
    | decoded hHandler hBody hDecode =>
        obtain rfl := Except.ok.inj (hRead.symm.trans hBody)
        exact .inr ⟨_, body, work, hHandler, hRead, hDecode, Receiver.onMessage_of_ok carried⟩

/-- Whenever an attempt has gone on, it has invoked the handler that there is for its
message. This is done in its first poll, and never again. -/
theorem invokes_attempt (opens : strategy.Opens fun s => cancel s = false) {s t : σ}
    (hGoing : cancel s = false) {events : List HandlingEvent}
    (visited : Visits (Beside others)
      (engine.handlingAttempt logBook configuration message strategy cancel) (s, []) (t, events)) :
    Invokes engine.handlers message events := by
  obtain ⟨token, opened, u, hHolds, openedActs, hPoll⟩ :=
    Pipeline.poll_attempt_beside opens (engine.handling logBook configuration) message [] [] hGoing
  have visited := visits_of_poll_eq hPoll visited
  have concludes (ended : Option (Except Failure Unit)) :
      ((engine.handling logBook configuration).conclude message (strategy.onFirst [])
        (fun s => cancel s.1) opened ended).Acts InvokesNone fun _ => True :=
    allows_invokesNone.acts_conclude LeavesSecond.invokesNone
      ((strategy.actsBy_onFirst []).widen LeavesSecond.invokesNone)
      (fun context cancel _ => acts_onError_handling context cancel) openedActs ended
  have unchanged {task : Task (σ × List HandlingEvent) (Except BusError AttemptOutcome)}
      {before : List HandlingEvent} (acts : task.Acts InvokesNone fun _ => True)
      (visited : Visits (Beside others) task (u, before) (t, events)) :
      events.filter HandlingEvent.isInvoked = before.filter HandlingEvent.isInvoked :=
    acts.visits allows_invokesNone.refl allows_invokesNone.trans
      (fun _ _ between => LeavesSecond.invokesNone _ _ between.2) visited
  obtain ⟨failure, selects, hMessage⟩ | ⟨handler, body, work, hHandler, hRead, hDecode, hMessage⟩ :=
    onMessage_handling_cases engine logBook configuration message token fun s => cancel s.1
  · rw [hMessage] at visited
    have fails : (done (.error failure) :
        Task (σ × List HandlingEvent) (Except Failure Unit)).Acts InvokesNone fun _ => True := trivial
    exact .of_none selects (unchanged
      ((fails.cutBy allows_invokesNone.refl).bind fun ended _ => concludes ended) visited)
  · rw [hMessage] at visited
    have visited := visits_of_poll_eq
      (HandlerWork.poll_noted_cutBy (fun s => cancel s.1) (hHolds hGoing)) visited
    exact .of_one hHandler hRead hDecode (unchanged
      (((HandlerWork.acts_answered work _).cutAtResumption allows_invokesNone.refl).bind
        fun ended _ => concludes ended) visited)

/-- A handler is given the message once, and what it returns is the result. -/
theorem dispatches_onMessage {token : TransportToken (σ × List HandlingEvent)}
    {stop : CancellationToken (σ × List HandlingEvent)} {result : Except Failure Unit} {s t : σ}
    {events : List HandlingEvent}
    (run : Runs (Beside others)
      ((engine.handling logBook configuration).onMessage (message.context token) stop)
      (s, []) result (t, events)) :
    Dispatches engine.handlers message result events := by
  obtain ⟨failure, selects, hMessage⟩ | ⟨handler, body, work, hHandler, hRead, hDecode, hMessage⟩ :=
    onMessage_handling_cases engine logBook configuration message token stop
  · rw [hMessage] at run
    obtain ⟨rfl, hEnd⟩ := runs_done_iff.mp run
    obtain rfl : events = [] := congrArg Prod.snd hEnd
    exact .unhandled selects
  · rw [hMessage] at run
    have run := runs_perform_andThen_iff.mp run
    obtain ⟨returned, u, -, run⟩ := (acts_onFirst _).runs_beside run
    have run := runs_perform_andThen_iff.mp run
    obtain ⟨rfl, hEnd⟩ := runs_done_iff.mp run
    obtain rfl : events = _ := congrArg Prod.snd hEnd
    exact .handled hHandler hRead hDecode result

/-- Recoverability treats a failure in one go. -/
theorem poll_onError_handling (apart : LogsApart engine.transport logBook)
    (configuration : Configuration) (message : InboundMessage) (cancel : CancellationToken σ)
    (failure : Failure) (token : TransportToken (σ × List HandlingEvent))
    (s : σ × List HandlingEvent) :
    ∃ (treatment : Treatment) (u : σ),
      treatment.Follows configuration.endpointName message failure.message
        (configuration.recoverability.actionOn message.deliveryCount
          (message.headers.get? Header.delayedRetries)) ∧
      ((engine.handling logBook configuration).onError (message.errorContext failure token)
        fun s => cancel s.1).poll s = (.finished (.ok treatment.verdict),
          (u, s.2 ++ [.failed failure treatment.before,
            .decided (.ok treatment.verdict) treatment.after])) := by
  let plain : TransportToken σ := ⟨"", none⟩
  let action := configuration.recoverability.action message.deliveryCount message.headers
  let entry := Receiver.decisionEntry (message.errorContext failure plain) failure.message action
  let logged := (logBook.log recoverabilityLogger entry s.1).2
  let decided := Receiver.applyDecision configuration.endpointName
    (message.errorContext failure plain) failure.message action (engine.transport.get s.1)
  let called : List HandlingEvent := [.failed failure (engine.transport.get s.1)]
  have hDecided : (engine.noted.receiver logBook.onFirst configuration).onError
      (message.errorContext failure token) (s.1, s.2 ++ called) =
        (decided.1, (engine.transport.set decided.2 logged, s.2 ++ called)) := by
    rw [onError_noted message failure token plain, onError_eq apart]
  refine ⟨⟨entry.level, engine.transport.get s.1, decided.2, decided.1⟩,
    engine.transport.set decided.2 logged, ?_, ?_⟩
  · rw [← RecoverabilitySettings.action_eq_actionOn]
    exact Receiver.follows_applyDecision ..
  · have hPoll : ((engine.handling logBook configuration).onError
        (message.errorContext failure token) fun s => cancel s.1).poll s =
          let answered := (engine.noted.receiver logBook.onFirst configuration).onError
            (message.errorContext failure token) (s.1, s.2 ++ called)
          (.finished (.ok answered.1), (answered.2.1, answered.2.2 ++
            [.decided (.ok answered.1) (engine.transport.get answered.2.1)])) := rfl
    rw [hPoll, hDecided]
    simp only [engine.transport.get_set, List.append_assoc]
    rfl

/-- What follows the message pipeline is decided by the result of the message. -/
theorem disposes_concludes (apart : LogsApart engine.transport logBook)
    {result : Except Failure Unit} {dispatched events : List HandlingEvent}
    {outcome : Except BusError AttemptOutcome}
    (concludes : (engine.handling logBook configuration).Concludes others message cancel
      (some result) dispatched outcome events) :
    ∃ disposed, events = dispatched ++ disposed ∧
      Disposes configuration message result disposed outcome := by
  cases concludes with
  | succeeded => exact ⟨[], (List.append_nil _).symm, .succeeded⟩
  | unsettled error => exact ⟨[], (List.append_nil _).symm, .unsettled error⟩
  | cancelled cancellation => exact ⟨[], (List.append_nil _).symm, .cancelled cancellation⟩
  | @failed failure token w x _ _ answer _ genuine calls weighs =>
      obtain ⟨treatment, host, follows, hPoll⟩ :=
        poll_onError_handling apart configuration message cancel failure token (w, dispatched)
      obtain ⟨rfl, hEnd⟩ := (runs_iff_of_finished hPoll).mp calls
      cases weighs with
      | verdict acknowledges =>
          exact ⟨_, congrArg Prod.snd hEnd, .treated genuine ⟨treatment, rfl, follows, acknowledges⟩⟩

/-- A message goes to one handler at most, and its failure is treated as the settings
decide. -/
theorem handles_attempt (apart : LogsApart engine.transport logBook)
    (opens : strategy.Opens fun s => cancel s = false)
    (hOthers : ∀ u v, others u v → cancel v = false) {s t : σ} (hGoing : cancel s = false)
    {events : List HandlingEvent} {outcome : Except BusError AttemptOutcome}
    (run : Runs (Beside others)
      (engine.handlingAttempt logBook configuration message strategy cancel) (s, []) outcome
      (t, events)) :
    Handles engine.handlers configuration message events outcome := by
  rcases Pipeline.runs_attempt_beside opens run with
    ⟨hCancel, -, -⟩ | ⟨token, u, ended, v, dispatched, hHolds, calls, concludes⟩
  · cases hGoing.symm.trans hCancel
  · have hGoesOn (w x : σ × List HandlingEvent) (between : Beside others w x) :
        cancel x.1 = false := hOthers w.1 x.1 between.1
    obtain ⟨result, rfl, onMessage⟩ := (runs_cutBy_iff hGoesOn (hHolds hGoing)).mp calls
    obtain ⟨disposed, rfl, disposes⟩ := disposes_concludes apart concludes
    exact .of_course (dispatches_onMessage onMessage) disposes

end EngineState

end InMemory

end BusEndpoint
