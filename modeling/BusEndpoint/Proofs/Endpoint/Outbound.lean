import BusEndpoint.Proofs.Delivery.Noting
import BusEndpoint.Proofs.Endpoint.InMemory
import BusEndpoint.Proofs.Endpoint.Invocations
import BusEndpoint.Proofs.Start.Unseen
import BusEndpoint.Proofs.Transport.Operations

/-! Outbound work of an endpoint on an engine in memory. Whatever it fails at, the
gate, the payload, the token or the routes, it fails before anything has been done to
the transport. If neither the token nor the payload stands in its way, it fails only
for want of a destination. -/

namespace BusEndpoint

open BusEndpoint.Task

variable {σ κ ς α β : Type}

/-- Why a payload has no JSON form. -/
def Payload.unserializable? (payload : Payload) : Option String :=
  match payload.body with
  | .error reason => some reason
  | .ok _ => none

/-- What is made of a payload. -/
inductive Payload.Gives (payload : Payload) : Except BusError OutgoingMessage → Prop where
  | reason {reason : String} (hReason : payload.unserializable? = some reason) :
      Gives payload (.error (.serialization reason))
  | message {message : OutgoingMessage} (hSerializable : payload.unserializable? = none)
      (hType : message.messageType = payload.messageType) : Gives payload (.ok message)

/-- An identifier is drawn for every payload. -/
theorem Payload.toMessage_eq [Host σ] (payload : Payload) (s : σ) :
    payload.Gives (payload.toMessage s).1 ∧
      (payload.toMessage s).2 = ((Host.freshIdentifier : StateM σ String) s).2 := by
  cases hBody : payload.body with
  | error reason =>
      simp only [toMessage, hBody]
      exact ⟨.reason (by rw [unserializable?, hBody]), rfl⟩
  | ok body =>
      simp only [toMessage, hBody]
      exact ⟨.message (by rw [unserializable?, hBody]) rfl, rfl⟩

/-- The type of a message for which there is nowhere to go. -/
def SendOptions.unroutable? (options : SendOptions) (routes : Routes) (messageType : String) :
    Option String :=
  if options.destination.isNone && (routes.get? messageType).isNone then some messageType else none

theorem SendOptions.unroutable?_of_resolve {options : SendOptions} {routes : Routes}
    {messageType : String} :
    options.unroutable? routes messageType =
      if (options.resolve routes messageType).isNone then some messageType else none := by
  rw [unroutable?, resolve]
  cases options.destination <;> rfl

/-- An operation on a log book leaves alone what is seen. -/
structure LogBook.Spares (book : LogBook σ κ) (view : σ → β) : Prop where
  loggers : ∀ context s, view (book.context.set context s) = view s
  deliveries : ∀ delivery s, view (book.deliver delivery s) = view s

theorem LogBook.Spares.view_perform {book : LogBook σ κ} {view : σ → β} (spares : book.Spares view)
    (operation : LoggerContext κ → Logged κ α) (s : σ) :
    view (book.perform operation s).2 = view s :=
  LogBook.view_perform spares.loggers spares.deliveries operation s

namespace Request

def unserializable? : Request σ → Option String
  | .send payload _ | .publish payload _ => payload.unserializable?
  | _ => none

def unroutable? (routes : Routes) : Request σ → Option String
  | .send payload options => options.unroutable? routes payload.messageType
  | _ => none

/-- What an outbound request comes to in which neither the token nor the payload stands
in its way. -/
def result (routes : Routes) (request : Request σ) : Except BusError Unit :=
  match request.unroutable? routes with
  | none => .ok ()
  | some messageType =>
    .error (.routing ("no destination configured for message type " ++ messageType))

/-- What an outbound request comes to that is cancelled already. Only a started endpoint
looks at the payload before it looks at the token. -/
def refusal {ι : Type} (request : Request σ) (state : StartState ι) : BusError :=
  if state.started?.isSome then (request.unserializable?.map .serialization).getD .cancelled
  else .cancelled

end Request

namespace InMemory

/-- What an endpoint does to the host on its own account leaves alone what is seen. -/
structure EngineState.Spares [Host σ] (engine : EngineState σ) (logBook : LogBook σ κ)
    (gate : Slot σ (StartGate Instance)) (view : σ → β) : Prop extends logBook.Spares view where
  identifiers : ∀ supply s, view ((Host.identifiers (σ := σ)).set supply s) = view s
  report : ∀ diagnostic s, view (Host.report diagnostic s) = view s
  gate : ∀ value s, view (gate.set value s) = view s
  starts : ∀ number s, view (engine.starts.set number s) = view s

/-- How outbound work may end, and what has become of the transport in the last poll.
Only work that succeeds changes it. -/
inductive Concludes (mayCancel : Prop) (unserializable? unroutable? : Option String)
    (before : Transport) : Except BusError Unit → Transport → Prop where
  | cancelled (hCancel : mayCancel) : Concludes mayCancel unserializable? unroutable? before
      (.error .cancelled) before
  | unserializable {reason : String} (hReason : unserializable? = some reason) :
      Concludes mayCancel unserializable? unroutable? before (.error (.serialization reason)) before
  | unroutable {messageType : String} (hSerializable : unserializable? = none)
      (hNowhere : unroutable? = some messageType) :
      Concludes mayCancel unserializable? unroutable? before
        (.error (.routing ("no destination configured for message type " ++ messageType))) before
  | succeeded {after : Transport} (hSerializable : unserializable? = none)
      (hRoutable : unroutable? = none) :
      Concludes mayCancel unserializable? unroutable? before (.ok ()) after

theorem Concludes.eq_of_error {mayCancel : Prop} {unserializable? unroutable? : Option String}
    {before after : Transport} {error : BusError}
    (concludes : Concludes mayCancel unserializable? unroutable? before (.error error) after) :
    after = before := by
  cases concludes <;> rfl

theorem Concludes.answer_eq {mayCancel : Prop} {routes : Routes} {request : Request σ}
    {before after : Transport} {answer : Except BusError Unit} (hGoing : ¬mayCancel)
    (hSerializable : request.unserializable? = none)
    (concludes : Concludes mayCancel request.unserializable? (request.unroutable? routes) before
      answer after) : answer = request.result routes := by
  cases concludes with
  | cancelled hCancel => exact absurd hCancel hGoing
  | unserializable hReason => cases hSerializable.symm.trans hReason
  | unroutable _ hNowhere =>
      rw [Request.result, hNowhere]
  | succeeded _ hRoutable =>
      rw [Request.result, hRoutable]

/-- The type of a message that a session has nowhere to send to. -/
def Outbound.unroutable? (routes : Routes) : Outbound → Option String
  | .send message options => options.unroutable? routes message.messageType
  | _ => none

section Last

variable [Host σ] {cancel : CancellationToken σ} {invariant : σ → Prop} {s : σ}

/-- Some state in which the work may go on says that the call is cancelled. -/
def MayCancel (invariant : σ → Prop) (cancel : CancellationToken σ) : Prop :=
  ∃ s, invariant s ∧ cancel s = true

theorem Outbound.concludes_change {mayCancel : Prop} (session : SessionState σ) (work : Outbound)
    (s : σ) :
    Concludes mayCancel none (work.unroutable? session.routes) (session.transport.get s)
      (work.change session s).1 (session.transport.get (work.change session s).2) := by
  cases work with
  | send message options =>
      have hNowhere : (send message options).unroutable? session.routes =
          if (options.resolve session.routes message.messageType).isNone
          then some message.messageType else none :=
        SendOptions.unroutable?_of_resolve
      cases hQueue : options.resolve session.routes message.messageType with
      | some queue =>
          have hAnswer : ((send message options).change session s).1 = .ok () := by
            rw [change, SessionState.send, hQueue]
            rfl
          rw [hAnswer]
          rw [hQueue] at hNowhere
          exact .succeeded rfl hNowhere
      | none =>
          rw [change, SessionState.send, hQueue]
          rw [hQueue] at hNowhere
          exact .unroutable rfl hNowhere
  | publish message options => exact .succeeded rfl rfl
  | subscribe event options => exact .succeeded rfl rfl
  | unsubscribe event options => exact .succeeded rfl rfl

/-- A session looks at the token, and then does its work in one go. -/
theorem Outbound.actsLast_perform (session : SessionState σ) (work : Outbound) (hs : invariant s) :
    (work.perform session.toSession cancel).ActsLast invariant session.transport.get
      (fun before answer t => Concludes (MayCancel invariant cancel) none
        (work.unroutable? session.routes) before answer (session.transport.get t))
      (session.transport.get s) s := by
  rw [perform_eq]
  have hCancel : (observe cancel).Rests invariant session.transport.get
      fun cancelled => cancelled = true → MayCancel invariant cancel :=
    rests_observe fun s hs hCancel => ⟨s, hs, hCancel⟩
  apply hCancel.andThen hs
  intro cancelled t ht hMay
  split
  · rename_i hCut
    exact .cancelled (hMay hCut)
  · exact work.concludes_change session t

/-- A payload without a JSON form is given to no session. -/
theorem actsLast_withPayload (session : SessionState σ) (payload : Payload)
    (work : OutgoingMessage → Outbound) {unroutable? : Option String}
    (hWork : ∀ message, message.messageType = payload.messageType →
      (work message).unroutable? session.routes = unroutable?)
    (hFresh : ∀ s : σ, invariant s → invariant ((Host.freshIdentifier : StateM σ String) s).2)
    (hView : ∀ s : σ, session.transport.get ((Host.freshIdentifier : StateM σ String) s).2 =
      session.transport.get s)
    (hs : invariant s) :
    (FunctionEndpoint.withPayload payload fun message =>
        (work message).perform session.toSession cancel).ActsLast invariant session.transport.get
      (fun before answer t => Concludes (MayCancel invariant cancel) payload.unserializable?
        unroutable? before answer (session.transport.get t))
      (session.transport.get s) s := by
  have hMessage : (perform payload.toMessage).Rests invariant session.transport.get
      payload.Gives := by
    apply rests_perform
    · intro s hs
      rw [(payload.toMessage_eq s).2]
      exact hFresh s hs
    · intro s
      rw [(payload.toMessage_eq s).2]
      exact hView s
    · exact fun s _ => (payload.toMessage_eq s).1
  apply hMessage.andThen hs
  intro result t ht gives
  cases gives with
  | reason hReason => exact .unserializable hReason
  | @message message hSerializable hType =>
      rw [hSerializable, ← hWork message hType]
      exact (work message).actsLast_perform session ht

end Last

section Endpoint

variable [Host σ] [LogSink κ] {engine : EngineState σ} {configuration : Configuration}
  {services : ς} {logBook : LogBook σ κ} {gate : Slot σ (StartGate Instance)} {view : σ → β}
  {invocation : Invocation σ κ} {invariant : σ → Prop} {s : σ}

omit [LogSink κ] in
/-- The started instance has a session do outbound work, and makes a message of the
payload if there is one. -/
theorem answer_cases {endpoint : FunctionEndpoint σ κ ς Instance} {started : Instance}
    {session : SessionState σ} (hSession : endpoint.engine.session started = session.toSession)
    (hOutbound : invocation.request.isProcess = false) (fresh : String) :
    (∃ (payload : Payload) (work : OutgoingMessage → Outbound),
      invocation.request.unserializable? = payload.unserializable? ∧
      (∀ message, message.messageType = payload.messageType →
        (work message).unroutable? session.routes =
          invocation.request.unroutable? session.routes) ∧
      endpoint.answer invocation fresh started = FunctionEndpoint.withPayload payload fun message =>
        (work message).perform session.toSession invocation.cancel) ∨
    ∃ work : Outbound, invocation.request.unserializable? = none ∧
      work.unroutable? session.routes = invocation.request.unroutable? session.routes ∧
      endpoint.answer invocation fresh started =
        work.perform session.toSession invocation.cancel := by
  obtain ⟨request, context, cancel⟩ := invocation
  simp only [FunctionEndpoint.answer, hSession]
  cases request with
  | process message strategy => cases hOutbound
  | send payload options =>
      refine .inl ⟨payload, (Outbound.send · options), rfl, ?_, rfl⟩
      intro message hType
      rw [Outbound.unroutable?, hType]
      rfl
  | publish payload options =>
      exact .inl ⟨payload, (Outbound.publish · options), rfl, fun _ _ => rfl, rfl⟩
  | subscribe event options => exact .inr ⟨.subscribe event options, rfl, rfl, rfl⟩
  | unsubscribe event options => exact .inr ⟨.unsubscribe event options, rfl, rfl, rfl⟩

/-- A started instance sends under the name of its endpoint. -/
theorem EngineState.session_endpoint {started : Instance} :
    (engine.endpoint configuration services logBook gate).engine.session started =
      (SessionState.mk engine.transport started.configuration.endpointName
        engine.routes).toSession :=
  rfl

namespace EngineState.Spares

variable (spares : engine.Spares logBook gate view)
include spares

omit [LogSink κ] in
theorem allows : Host.Allows fun s t => view t = view s where
  refl _ := rfl
  trans _ _ _ hFirst hLast := hLast.trans hFirst
  identifiers := spares.identifiers
  report diagnostic s _ := spares.report diagnostic s

theorem lazyActs : LazyStart.ActsBy (fun s t => view t = view s)
    (engine.endpoint configuration services logBook gate).toLazyStart where
  gate := spares.gate
  start := acts_perform_andThen (start_allowed spares.allows spares.starts
    (spares.toSpares.view_perform _) configuration) fun _ => trivial

omit [LogSink κ] in
/-- Two views are spared as one. -/
theorem prod {other : σ → α} (also : engine.Spares logBook gate other) :
    engine.Spares logBook gate fun s => (view s, other s) where
  loggers context s := congrArg₂ Prod.mk (spares.loggers context s) (also.loggers context s)
  deliveries delivery s :=
    congrArg₂ Prod.mk (spares.deliveries delivery s) (also.deliveries delivery s)
  identifiers supply s :=
    congrArg₂ Prod.mk (spares.identifiers supply s) (also.identifiers supply s)
  report diagnostic s := congrArg₂ Prod.mk (spares.report diagnostic s) (also.report diagnostic s)
  gate value s := congrArg₂ Prod.mk (spares.gate value s) (also.gate value s)
  starts number s := congrArg₂ Prod.mk (spares.starts number s) (also.starts number s)

/-- A start always succeeds. -/
theorem acts_start :
    (engine.endpoint configuration services logBook gate).start.Acts
      (fun s t => view t = view s) fun result => ∃ started, result = .ok started := by
  have acts : LazyStart.ActsBy (fun s t => view t = view s)
      (engine.endpoint configuration services logBook gate).toLazyStart := spares.lazyActs
  have hEngine : ((engine.toEngine : Engine σ κ ς Instance).start configuration services
      logBook).Acts (fun s t => view t = view s) fun result => ∃ started, result = .ok started :=
    acts_perform_andThen (start_allowed spares.allows spares.starts
      (spares.toSpares.view_perform _) configuration)
      fun started => ⟨started, rfl⟩
  apply acts.change_andThen
  apply spares.allows.acts_event_andThen
  apply hEngine.bind
  rintro _ ⟨started, rfl⟩
  apply acts.change_andThen
  exact spares.allows.acts_event_andThen ⟨started, rfl⟩

theorem view_entered (s : σ) :
    view ((engine.endpoint configuration services logBook gate).entered invocation s) =
      view s := by
  apply FunctionEndpoint.entered_allowed spares.allows
  intro sink
  exact spares.toSpares.view_perform (LoggerContext.tryAttachSink sink)

variable (hInvariant : ∀ s t, view t = view s → invariant s → invariant t)
  (hTransport : ∀ s t, view t = view s → engine.transport.get t = engine.transport.get s)
include hInvariant hTransport

/-- Whoever asks for the started instance is given one, unless the call is cancelled. -/
theorem rests_ensureStarted :
    ((engine.endpoint configuration services logBook gate).ensureStarted
      invocation.cancel).Rests invariant engine.transport.get fun result =>
        (∃ started, result = .ok started) ∨
          result = .error .cancelled ∧ MayCancel invariant invocation.cancel := by
  apply LazyStart.Unseen.rests_ensureStarted
  · refine ⟨fun _ started _ _ => .inl ⟨started, rfl⟩, ?_, ?_⟩
    · intro α f _
      refine rests_perform ?_ ?_ fun _ _ => trivial
      · exact fun s => hInvariant _ _ (spares.gate _ s)
      · exact fun s => hTransport _ _ (spares.gate _ s)
    · exact (spares.acts_start.mono fun _ => .inl).rests hInvariant hTransport
  · exact fun s hs hCancel => .inr ⟨rfl, s, hs, hCancel⟩

/-- The started instance does its outbound work in one go. -/
theorem actsLast_answer (hOutbound : invocation.request.isProcess = false) (fresh : String)
    (started : Instance) (hs : invariant s) :
    ((engine.endpoint configuration services logBook gate).answer invocation fresh
        started).ActsLast invariant engine.transport.get
      (fun before answer t => Concludes (MayCancel invariant invocation.cancel)
        invocation.request.unserializable? (invocation.request.unroutable? engine.routes) before
        answer (engine.transport.get t)) (engine.transport.get s) s := by
  have hFresh (s : σ) : view ((Host.freshIdentifier : StateM σ String) s).2 = view s :=
    spares.identifiers _ s
  have hKept (s : σ) (hs : invariant s) :
      invariant ((Host.freshIdentifier : StateM σ String) s).2 := hInvariant s _ (hFresh s) hs
  let session : SessionState σ :=
    ⟨engine.transport, started.configuration.endpointName, engine.routes⟩
  rcases answer_cases session_endpoint hOutbound fresh with
    ⟨payload, work, hReason, hWork, hAnswer⟩ | ⟨work, hReason, hWork, hAnswer⟩
  · rw [hAnswer, hReason]
    exact actsLast_withPayload session payload work hWork hKept
      (fun s => hTransport s _ (hFresh s)) hs
  · rw [hAnswer, hReason, ← hWork]
    exact work.actsLast_perform session hs

/-- Outbound work acts on the transport in its last poll only. -/
theorem actsLast_asks (hOutbound : invocation.request.isProcess = false) (fresh : String)
    (hs : invariant s) :
    (((engine.endpoint configuration services logBook gate).ensureStarted
        invocation.cancel).andThen ((engine.endpoint configuration services logBook gate).follow
          invocation fresh)).ActsLast invariant engine.transport.get
      (fun before answer t => Concludes (MayCancel invariant invocation.cancel)
        invocation.request.unserializable? (invocation.request.unroutable? engine.routes) before
        answer (engine.transport.get t)) (engine.transport.get s) s := by
  apply (spares.rests_ensureStarted hInvariant hTransport).andThen hs
  rintro result t ht (⟨started, rfl⟩ | ⟨rfl, hCancel⟩)
  · exact spares.actsLast_answer hInvariant hTransport hOutbound fresh started ht
  · exact .cancelled hCancel

/-- A whole run of it, with others in between. -/
theorem runs_serve {others : σ → σ → Prop} {answer : Except BusError Unit} {t : σ}
    (hOutbound : invocation.request.isProcess = false)
    (hOthers : ∀ s t, others s t → invariant s → invariant t) (hs : invariant s)
    (run : Runs others
      ((engine.endpoint configuration services logBook gate).serve invocation) s answer t) :
    ∃ before, Relation.ReflTransGen (SeenBy others engine.transport.get) (engine.transport.get s)
        before ∧
      Concludes (MayCancel invariant invocation.cancel) invocation.request.unserializable?
        (invocation.request.unroutable? engine.routes) before answer (engine.transport.get t) := by
  have hServes : (engine.endpoint configuration services logBook gate).refuses
      invocation.request = false := FunctionEndpoint.refuses_of_outbound hOutbound
  have hEntered : view ((engine.endpoint configuration services logBook gate).entered invocation
      s) = view s :=
    spares.view_entered s
  rw [runs_of_poll_eq (FunctionEndpoint.poll_serve_asks hServes)] at run
  obtain ⟨before, aside, concludes⟩ := (spares.actsLast_asks hInvariant hTransport hOutbound _
    (hInvariant _ _ hEntered hs)).runs_aside hOthers run
  rw [hTransport _ _ hEntered] at aside
  exact ⟨before, aside, concludes⟩

end EngineState.Spares

section Polls

variable {cancel : CancellationToken σ}

omit [LogSink κ] in
theorem Outbound.ends_perform {others : σ → σ → Prop} (session : SessionState σ)
    (work : Outbound) (s : σ) : Ends others (work.perform session.toSession cancel) s := by
  rw [perform_eq]
  cases hCancel : cancel s with
  | true => exact ends_of_finished (SessionState.poll_guarded_of_cancelled hCancel)
  | false => exact ends_of_finished (SessionState.poll_guarded_of_going hCancel)

omit [LogSink κ] in
/-- A payload is refused, or goes on as a message. -/
theorem poll_withPayload (payload : Payload)
    (work : OutgoingMessage → Task σ (Except BusError Unit)) (s : σ) :
    (∃ reason, payload.unserializable? = some reason ∧
      (FunctionEndpoint.withPayload payload work).poll s =
        (.finished (.error (.serialization reason)),
          ((Host.freshIdentifier : StateM σ String) s).2)) ∨
    ∃ message, payload.unserializable? = none ∧
      (FunctionEndpoint.withPayload payload work).poll s =
        (work message).poll ((Host.freshIdentifier : StateM σ String) s).2 := by
  obtain ⟨gives, hState⟩ := payload.toMessage_eq s
  have hMessage : (perform payload.toMessage : Task σ (Except BusError OutgoingMessage)).poll s =
      (.finished (payload.toMessage s).1, (payload.toMessage s).2) := rfl
  simp only [FunctionEndpoint.withPayload, liftM_eq, bind_eq, poll_andThen, hMessage, hState]
  generalize (payload.toMessage s).1 = result at gives
  cases gives with
  | reason hReason => exact .inl ⟨_, hReason, rfl⟩
  | message hSerializable => exact .inr ⟨_, hSerializable, rfl⟩

omit [LogSink κ] in
/-- The started instance refuses a cancelled call. -/
theorem poll_answer_cancelled {endpoint : FunctionEndpoint σ κ ς Instance} {started : Instance}
    {session : SessionState σ} (hSession : endpoint.engine.session started = session.toSession)
    (hOutbound : invocation.request.isProcess = false)
    (hFresh : ∀ supply s, invocation.cancel ((Host.identifiers (σ := σ)).set supply s) =
      invocation.cancel s) (hCancel : invocation.cancel s = true) (fresh : String) :
    ∃ t, (endpoint.answer invocation fresh started).poll s =
      (.finished (.error ((invocation.request.unserializable?.map .serialization).getD .cancelled)),
        t) := by
  have hRefused {s : σ} (work : Outbound) (hCancel : invocation.cancel s = true) :
      (work.perform session.toSession invocation.cancel).poll s =
        (.finished (.error .cancelled), s) := by
    rw [Outbound.perform_eq]
    exact SessionState.poll_guarded_of_cancelled hCancel
  rcases answer_cases hSession hOutbound fresh with
    ⟨payload, work, hReason, -, hAnswer⟩ | ⟨work, hReason, -, hAnswer⟩
  · rw [hAnswer, hReason]
    rcases poll_withPayload payload
        (fun message => (work message).perform session.toSession invocation.cancel) s with
      ⟨reason, hReason, hPoll⟩ | ⟨message, hSerializable, hPoll⟩
    · rw [hPoll, hReason]
      exact ⟨_, rfl⟩
    · rw [hPoll, hSerializable]
      exact ⟨_, hRefused (work message) ((hFresh _ s).trans hCancel)⟩
  · rw [hAnswer, hReason]
    exact ⟨s, hRefused work hCancel⟩

omit [LogSink κ] in
theorem ends_answer {endpoint : FunctionEndpoint σ κ ς Instance} {started : Instance}
    {session : SessionState σ} (hSession : endpoint.engine.session started = session.toSession)
    (hOutbound : invocation.request.isProcess = false) (fresh : String)
    {others : σ → σ → Prop} : Ends others (endpoint.answer invocation fresh started) s := by
  rcases answer_cases hSession hOutbound fresh with
    ⟨payload, work, -, -, hAnswer⟩ | ⟨work, -, -, hAnswer⟩
  · rw [hAnswer]
    rcases poll_withPayload payload
        (fun message => (work message).perform session.toSession invocation.cancel) s with
      ⟨reason, -, hPoll⟩ | ⟨message, -, hPoll⟩
    · exact ends_of_finished hPoll
    · exact ends_of_poll_eq hPoll ((work message).ends_perform session _)
  · rw [hAnswer]
    exact work.ends_perform session s

end Polls

/-- A start comes to its end at once. -/
theorem ends_start {others : σ → σ → Prop} (s : σ) :
    Ends others (engine.endpoint configuration services logBook gate).start s :=
  ends_of_finished rfl

end Endpoint

section Statement

variable [Host σ] [LogSink κ]

/-- What holds of an outbound invocation that is made on this host, however far the
start of the engine has come. -/
structure EngineState.ServesOutbound (engine : EngineState σ)
    (endpoint : FunctionEndpoint σ κ ς Instance) (invocation : Invocation σ κ) (s : σ) :
    Prop where
  /-- If it fails, then all that has become of the queues, the deferred messages and the
  subscriptions is the doing of others. -/
  failed : ∀ others error t, Runs others (endpoint.serve invocation) s (.error error) t →
    Relation.ReflTransGen (SeenBy others engine.transport.get) (engine.transport.get s)
      (engine.transport.get t)
  /-- If others leave them alone, they are as they were. -/
  unchanged : ∀ others error t,
    (∀ u v, others u v → engine.transport.get v = engine.transport.get u) →
    Runs others (endpoint.serve invocation) s (.error error) t →
      engine.transport.get t = engine.transport.get s
  /-- In a call that is cancelled already it fails at once. -/
  cancelled : engine.Spares endpoint.logBook endpoint.gate invocation.cancel →
    invocation.cancel s = true →
      ∃ t, (endpoint.serve invocation).poll s =
          (.finished (.error (invocation.request.refusal (endpoint.state s))), t) ∧
        engine.transport.get t = engine.transport.get s
  /-- In a call that is not cancelled it succeeds, unless its payload has no JSON form or
  there is no destination. -/
  answered : engine.Spares endpoint.logBook endpoint.gate invocation.cancel →
    invocation.cancel s = false → invocation.request.unserializable? = none →
    ∀ others, (∀ u v, others u v → invocation.cancel u = false → invocation.cancel v = false) →
      ∀ answer t, Runs others (endpoint.serve invocation) s answer t →
        answer = invocation.request.result engine.routes
  /-- It comes back, unless it has to wait at the gate and is never let in. -/
  comesBack : ∀ others, ((∀ started, endpoint.state s ≠ .started started) →
      (endpoint.gate.get s).holder ≠ none →
        endpoint.LetsIn others (endpoint.entered invocation s)) →
    Ends others (endpoint.serve invocation) s

variable {engine : EngineState σ} {configuration : Configuration} {services : ς}
  {logBook : LogBook σ κ} {gate : Slot σ (StartGate Instance)}

/-- An outbound invocation comes to the gate as it was. -/
theorem EngineState.gate_entered (sparesGate : logBook.Spares gate.get)
    {invocation : Invocation σ κ} (hOutbound : invocation.request.isProcess = false) (s : σ) :
    gate.get ((engine.endpoint configuration services logBook gate).entered invocation s) =
      gate.get s := by
  rw [FunctionEndpoint.entered_of_outbound hOutbound]
  rcases (engine.endpoint configuration services logBook gate).attachLogger_cases
      invocation.context s with hSame | ⟨sink, hAttached⟩
  · rw [hSame]
  · rw [hAttached]
    exact sparesGate.view_perform _ s

/-- A call that is cancelled already is refused at once. -/
theorem EngineState.poll_serve_of_cancelled (sparesGate : logBook.Spares gate.get)
    {invocation : Invocation σ κ} (sparesCancel : engine.Spares logBook gate invocation.cancel)
    (hOutbound : invocation.request.isProcess = false) {s : σ}
    (hCancel : invocation.cancel s = true) :
    let endpoint := engine.endpoint configuration services logBook gate
    ∃ t, (endpoint.serve invocation).poll s =
      (.finished (.error (invocation.request.refusal (endpoint.state s))), t) := by
  intro endpoint
  have hServes : endpoint.refuses invocation.request = false :=
    FunctionEndpoint.refuses_of_outbound hOutbound
  have hState : endpoint.state (endpoint.entered invocation s) = endpoint.state s :=
    congrArg StartGate.state (gate_entered sparesGate hOutbound s)
  have hEntered : invocation.cancel (endpoint.entered invocation s) = true :=
    (sparesCancel.view_entered s).trans hCancel
  rw [Request.refusal, ← hState]
  cases hStarted : (endpoint.state (endpoint.entered invocation s)).started? with
  | none => exact ⟨_, FunctionEndpoint.poll_serve_cancelled hServes hStarted hEntered⟩
  | some started =>
      rw [FunctionEndpoint.poll_serve_asks hServes, poll_andThen,
        LazyStart.poll_ensureStarted_of_found hStarted]
      exact poll_answer_cancelled session_endpoint hOutbound sparesCancel.identifiers hEntered _

/-- It is only at the gate that an outbound invocation waits. -/
theorem EngineState.ends_serve (sparesGate : logBook.Spares gate.get)
    {invocation : Invocation σ κ} (hOutbound : invocation.request.isProcess = false) {s : σ}
    {others : σ → σ → Prop} :
    let endpoint := engine.endpoint configuration services logBook gate
    ((∀ started, endpoint.state s ≠ .started started) → (gate.get s).holder ≠ none →
        endpoint.LetsIn others (endpoint.entered invocation s)) →
      Ends others (endpoint.serve invocation) s := by
  intro endpoint hLetsIn
  have hGate : gate.get (endpoint.entered invocation s) = gate.get s :=
    gate_entered sparesGate hOutbound s
  apply ends_of_poll_eq (FunctionEndpoint.poll_serve_asks
    (FunctionEndpoint.refuses_of_outbound hOutbound))
  apply (LazyStart.ends_ensureStarted ends_start _).andThen
  · intro result t _
    cases result with
    | error error => exact ends_of_finished rfl
    | ok started => exact ends_answer session_endpoint hOutbound _
  · intro hUnstarted
    cases hHolder : (gate.get s).holder with
    | none => exact LazyStart.letsIn_of_free ((congrArg StartGate.holder hGate).trans hHolder)
    | some ticket =>
        have hHeld : (gate.get s).holder ≠ none := by simp [hHolder]
        have hState : endpoint.state (endpoint.entered invocation s) = endpoint.state s :=
          congrArg StartGate.state hGate
        exact hLetsIn (fun started hStarted => hUnstarted started (hState.trans hStarted)) hHeld

theorem EngineState.servesOutbound (spares : engine.Spares logBook gate engine.transport.get)
    (sparesGate : logBook.Spares gate.get) {invocation : Invocation σ κ}
    (hOutbound : invocation.request.isProcess = false) (s : σ) :
    engine.ServesOutbound (engine.endpoint configuration services logBook gate) invocation s := by
  let endpoint := engine.endpoint configuration services logBook gate
  have failed (others : σ → σ → Prop) (error : BusError) (t : σ)
      (run : Runs others (endpoint.serve invocation) s (.error error) t) :
      Relation.ReflTransGen (SeenBy others engine.transport.get) (engine.transport.get s)
        (engine.transport.get t) := by
    obtain ⟨before, aside, concludes⟩ := spares.runs_serve
      (fun _ _ _ (_ : True) => trivial) (fun _ _ => id) hOutbound (fun _ _ _ _ => trivial) trivial run
    rw [concludes.eq_of_error]
    exact aside
  have unchanged (others : σ → σ → Prop) (error : BusError) (t : σ)
      (hOthers : ∀ u v, others u v → engine.transport.get v = engine.transport.get u)
      (run : Runs others (endpoint.serve invocation) s (.error error) t) :
      engine.transport.get t = engine.transport.get s :=
    eq_of_seenBy hOthers (failed others error t run)
  refine ⟨failed, unchanged, ?_, ?_, fun _ => ends_serve sparesGate hOutbound⟩
  · intro sparesCancel hCancel
    obtain ⟨t, hPoll⟩ := poll_serve_of_cancelled sparesGate sparesCancel hOutbound hCancel
    exact ⟨t, hPoll, unchanged (fun _ _ => False) _ t (fun _ _ => False.elim) (.finished hPoll)⟩
  · intro sparesCancel hGoing hSerializable others hOthers answer t run
    obtain ⟨before, -, concludes⟩ := (spares.prod sparesCancel).runs_serve
      (fun u v hSame (hGoing : invocation.cancel u = false) =>
        (Prod.mk.inj hSame).2.trans hGoing)
      (fun u v hSame => (Prod.mk.inj hSame).1) hOutbound hOthers hGoing run
    apply concludes.answer_eq _ hSerializable
    rintro ⟨u, hNot, hCancel⟩
    exact Bool.false_ne_true (hNot.symm.trans hCancel)

end Statement

/-- An engine without routes that keeps its state on a host in memory. -/
def EngineState.shop : EngineState HostState where
  transport := HostState.queues
  starts := HostState.counter "shop"

/-- Logging changes neither the transport nor a gate, nor what a token says. -/
theorem HostState.spares_logBook {name : String} {view : HostState → β}
    (hView : ∀ h h', h'.transport = h.transport → h'.gates = h.gates →
      h'.cancelled = h.cancelled → view h' = view h) : (logBook name).Spares view where
  loggers _ _ := hView _ _ rfl rfl rfl
  deliveries delivery h := by
    change view (Sink.deliver HostState.deliveries delivery h) = view h
    rw [Sink.deliver]
    cases delivery.sink <;> exact hView _ _ rfl rfl rfl

theorem EngineState.spares_shop {view : HostState → β}
    (hView : ∀ h h', h'.transport = h.transport → h'.cancelled = h.cancelled → view h' = view h) :
    shop.Spares (HostState.logBook "shop") (HostState.gate "shop") view where
  toSpares := HostState.spares_logBook fun h h' hTransport _ => hView h h' hTransport
  identifiers _ _ := hView _ _ rfl rfl
  report _ _ := hView _ _ rfl rfl
  gate _ _ := hView _ _ rfl rfl
  starts _ _ := hView _ _ rfl rfl

/-- An order that goes nowhere in particular. -/
def orderOut : Invocation HostState Sink where
  request := .send ⟨"order", .ok .null⟩ {}
  context := ⟨"i", "f", none⟩
  cancel := HostState.isCancelled "call"

/-- The first call starts the engine, and fails for want of a destination. -/
theorem EngineState.servesOutbound_shop :
    let endpoint := shop.endpoint ⟨"shop", "", none, .receiveOnly, {}, false⟩ ()
      (HostState.logBook "shop") (HostState.gate "shop")
    shop.ServesOutbound endpoint orderOut {} ∧
      ∃ t, Runs Eq (endpoint.serve orderOut) {}
          (.error (.routing "no destination configured for message type order")) t ∧
        t.transport = {} := by
  intro endpoint
  have sparesGate : (HostState.logBook "shop").Spares (HostState.gate "shop").get := by
    apply HostState.spares_logBook
    intro h h' _ hGates _
    exact congrArg (fun gates => (gates.get? "shop").getD {}) hGates
  have serves : shop.ServesOutbound endpoint orderOut {} :=
    servesOutbound (spares_shop fun _ _ hTransport _ => hTransport) sparesGate rfl {}
  have sparesCancel : shop.Spares (HostState.logBook "shop") (HostState.gate "shop")
      orderOut.cancel :=
    spares_shop fun h h' _ hCancelled => congrArg (List.contains · "call") hCancelled
  obtain ⟨answer, t, run⟩ := (serves.comesBack Eq fun _ hHeld => absurd rfl hHeld).runs
    fun s => ⟨s, rfl⟩
  have hAnswer : answer = .error (.routing "no destination configured for message type order") :=
    serves.answered sparesCancel rfl rfl Eq (fun _ _ hSame => hSame ▸ id) answer t run
  rw [hAnswer] at run
  exact ⟨serves, t, run, serves.unchanged Eq _ t (fun _ _ hSame => hSame ▸ rfl) run⟩

end InMemory

end BusEndpoint
