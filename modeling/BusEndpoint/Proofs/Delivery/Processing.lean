import BusEndpoint.Proofs.Attempt.Protocol
import BusEndpoint.Proofs.Delivery.Traffic
import BusEndpoint.Proofs.Endpoint.Selection
import BusEndpoint.Proofs.Start.Unseen

/-! One call with a message on an engine in memory. Whatever handlers and others
do, the call has no effect on the traffic but in its last poll, and there its
answer, the record and the transport change together. -/

namespace BusEndpoint.InMemory

open BusEndpoint.Task

variable {σ κ ς β : Type} [Host σ] {installation : Installation σ κ ς}
  {see : Traffic → β}

namespace Installation

/-- What a caller is given that asks for the started instance. -/
def IsOwn (installation : Installation σ κ ς) (result : Except BusError Instance) : Prop :=
  ∀ started, result = .ok started → started.configuration = installation.configuration

omit [Host σ] in
theorem unseen_perform {α : Type} {change : StateM σ α} {answers : α → Prop}
    (hFrame : ∀ s, installation.frame (change s).2 = installation.frame s)
    (hAnswers : ∀ s, answers (change s).1) :
    installation.Unseen see answers (perform change) :=
  rests_perform (fun s sound => sound.of_frame (hFrame s))
    (fun s => congrArg see (traffic_of_frame (hFrame s))) fun s _ => hAnswers s

omit [Host σ] in
theorem unseen_observe {α : Type} {read : σ → α} :
    installation.Unseen see (fun _ => True) (observe read) :=
  rests_observe fun _ _ => trivial

namespace Secludes

variable (secludes : installation.Secludes)

include secludes

theorem frame_logBook {α : Type} (operation : LoggerContext κ → Logged κ α) (s : σ) :
    installation.frame (installation.logBook.perform operation s).2 = installation.frame s :=
  LogBook.view_perform secludes.loggers secludes.deliveries operation s

theorem unseen_note (diagnostic : Diagnostic) :
    installation.Unseen see (fun _ => True) (perform (Host.note diagnostic)) :=
  unseen_perform (secludes.report diagnostic) fun _ => trivial

theorem unseen_freshIdentifier :
    installation.Unseen see (fun _ => True) (perform (Host.freshIdentifier : StateM σ String)) :=
  unseen_perform (fun s => secludes.identifiers _ s) fun _ => trivial

/-- A change of the gate makes no instance the started one that is not for this
endpoint. -/
theorem unseen_gate {α : Type} {change : StateM σ α}
    (hChange : ∀ s, ∃ gate, (change s).2 = installation.gate.set gate s ∧
      ∀ started, gate.state = .started started →
        (installation.gate.get s).state = .started started ∨
          started.configuration = installation.configuration) :
    installation.Unseen see (fun _ => True) (perform change) := by
  refine rests_perform ?_ ?_ fun _ _ => trivial
  · intro s sound started hStarted
    obtain ⟨gate, hSet, hGate⟩ := hChange s
    rw [hSet, installation.gate.get_set] at hStarted
    exact (hGate started hStarted).elim (sound started) id
  · intro s
    obtain ⟨gate, hSet, -⟩ := hChange s
    rw [hSet, secludes.gate]

theorem traffic_noted (messageId : String) (result : Except Failure Unit) (s : σ) :
    installation.traffic (installation.record.modify
      (· ++ [⟨messageId, result, installation.engine.transport.get s⟩]) s) =
        (installation.traffic s).noted messageId result := by
  rw [traffic, Slot.modify, installation.record.get_set, secludes.record_transport]
  rfl

theorem isSound_noted {s : σ} (sound : installation.IsSound s) (answers : List Answer) :
    installation.IsSound (installation.record.set answers s) :=
  sound.of_gate (congrArg StartGate.state (secludes.record_gate answers s))

theorem traffic_setTransport (transport : Transport) (s : σ) :
    installation.traffic (installation.engine.transport.set transport s) =
      { installation.traffic s with transport } := by
  rw [traffic, installation.engine.transport.get_set, secludes.transport_record]
  rfl

theorem isSound_setTransport {s : σ} (sound : installation.IsSound s) (transport : Transport) :
    installation.IsSound (installation.engine.transport.set transport s) :=
  sound.of_gate (congrArg StartGate.state (secludes.transport_gate transport s))

variable [LogSink κ]

theorem unseen_attachLogger (context : FunctionContext κ) :
    installation.Unseen see (fun _ => True)
      (perform (installation.endpoint.attachLogger context)) := by
  apply unseen_perform _ fun _ => trivial
  intro s
  cases hLogger : context.logger with
  | none =>
      rw [FunctionEndpoint.attachLogger, hLogger]
      rfl
  | some sink =>
      rw [FunctionEndpoint.attachLogger, hLogger]
      change installation.frame ((if !(installation.logBook.context.get s).isAttached then do
        let _ ← installation.logBook.tryAttachSink sink
        else return () : StateM σ Unit) s).2 = _
      split
      · exact secludes.frame_logBook (LoggerContext.tryAttachSink sink) s
      · rfl

theorem unseen_change {f : StartGate Instance → StartGate Instance}
    (hState : ∀ gate started, (f gate).state = .started started →
      gate.state = .started started ∨ started.configuration = installation.configuration) :
    installation.Unseen see (fun _ => True) (installation.endpoint.change f) :=
  secludes.unseen_gate fun _ => ⟨_, rfl, hState _⟩

theorem frame_start (s : σ) :
    installation.frame
      (installation.engine.start installation.configuration installation.logBook s).2 =
        installation.frame s := by
  cases hSendOnly : installation.configuration.sendOnly with
  | true =>
      simp only [EngineState.start, hSendOnly]
      exact secludes.starts _ s
  | false =>
      simp only [EngineState.start, hSendOnly]
      exact (secludes.frame_logBook _ _).trans (secludes.starts _ s)

/-- An engine that is started for this endpoint says so. -/
theorem unseen_engineStart :
    installation.Unseen see installation.IsOwn
      (installation.endpoint.engine.start installation.endpoint.configuration
        installation.endpoint.services installation.endpoint.logBook) := by
  have hOwn (s : σ) : (installation.engine.start installation.configuration
      installation.logBook s).1.configuration = installation.configuration := by
    cases hSendOnly : installation.configuration.sendOnly with
    | true =>
        simp only [EngineState.start, hSendOnly]
        rfl
    | false =>
        simp only [EngineState.start, hSendOnly]
        rfl
  have hStart : installation.Unseen see
      (fun started => started.configuration = installation.configuration)
      (perform (installation.engine.start installation.configuration installation.logBook)) :=
    unseen_perform secludes.frame_start hOwn
  apply hStart.bind
  intro started hStarted
  apply rests_done
  rintro _ ⟨⟩
  exact hStarted

theorem unseen_start : installation.Unseen see installation.IsOwn installation.endpoint.start := by
  apply (secludes.unseen_change (f := StartGate.setState .starting) ?_).bind
  · intro _ _
    apply (secludes.unseen_note _).bind
    intro _ _
    apply secludes.unseen_engineStart.bind
    intro result hOwn
    cases result with
    | error error =>
        apply (secludes.unseen_change (f := StartGate.setState .notStarted) ?_).bind
        · intro _ _
          apply (secludes.unseen_note _).bind
          exact fun _ _ => rests_done nofun
        · intro gate started hStarted
          cases hStarted
    | ok started =>
        apply (secludes.unseen_change (f := StartGate.setState (.started started)) ?_).bind
        · intro _ _
          apply (secludes.unseen_note _).bind
          exact fun _ _ => rests_done hOwn
        · rintro gate other ⟨⟩
          exact .inr (hOwn started rfl)
  · intro gate started hStarted
    cases hStarted

/-- Whoever asks for the started instance is given none but this endpoint's own. -/
theorem unseen_ensureStarted (cancel : CancellationToken σ) :
    installation.Unseen see installation.IsOwn (installation.endpoint.ensureStarted cancel) := by
  have unseen : installation.endpoint.toLazyStart.Unseen installation.IsSound
      (fun s => see (installation.traffic s)) installation.IsOwn := by
    refine ⟨?_, ?_, secludes.unseen_start⟩
    · rintro s started sound hStarted _ ⟨⟩
      exact sound started hStarted
    · intro α f hState
      apply secludes.unseen_gate
      intro s
      exact ⟨_, rfl, fun started hStarted => .inl ((hState _).symm.trans hStarted)⟩
  exact unseen.rests_ensureStarted fun _ _ _ => nofun

end Secludes

/-- The message pipeline has answered in the last poll, and that was noted. -/
def Answers (installation : Installation σ κ ς) (see : Traffic → β) (messageId : String)
    (seen : β) (result : Except Failure Unit) (s : σ) : Prop :=
  installation.IsSound s ∧ ∃ traffic, see traffic = seen ∧
    installation.traffic s = traffic.noted messageId result

/-- What a call with a message comes to that began its last poll when this was
seen. -/
def Concludes (installation : Installation σ κ ς) (see : Traffic → β) (message : InboundMessage)
    (seen : β) (answer : Except BusError Unit) (s : σ) : Prop :=
  installation.IsSound s ∧ ∃ traffic, see traffic = seen ∧
    Effect installation message traffic answer (installation.traffic s)

section Attempt

variable {message : InboundMessage} {cancel : CancellationToken σ}

theorem endpoint_binding [LogSink κ] {started : Instance}
    (hOwn : started.configuration = installation.configuration)
    (hReceives : installation.configuration.sendOnly = false) :
    installation.endpoint.binding started = .receiving installation.pipeline := by
  simp [LazyStart.binding, Engine.binding, endpoint, Engine.noting, EngineState.toEngine, hOwn,
    hReceives, pipeline]

/-- The handlers decide what the message pipeline does. -/
theorem unseen_onMessage (handlers : installation.HandlersUnseen see)
    (context : MessageContext σ) :
    installation.Unseen see (fun _ => True) ((installation.engine.receiver installation.logBook
      installation.configuration).onMessage context) := by
  obtain ⟨failure, hFails⟩ | ⟨name, handler, body, work, hHandler, hDecode, hWork⟩ :=
    (installation.engine.receiver installation.logBook
      installation.configuration).onMessage_cases context
  · rw [hFails]
    exact rests_done trivial
  · rw [hWork]
    exact handlers name handler body work _ hHandler hDecode

omit [Host σ] in
/-- A change that is not seen may come at any time of a last poll. -/
theorem actsLast_of_frame {α γ : Type} {change : StateM σ α} {follow : α → Task σ γ}
    {ends : β → γ → σ → Prop} {seen : β} {s : σ}
    (hFrame : ∀ s, installation.frame (change s).2 = installation.frame s)
    (later : ∀ t, installation.frame t = installation.frame s →
      (follow (change s).1).ActsLast installation.IsSound (fun s => see (installation.traffic s))
        ends seen t) :
    ((perform change).andThen follow).ActsLast installation.IsSound
      (fun s => see (installation.traffic s)) ends seen s :=
  actsLast_perform_andThen_iff.mpr (later _ (hFrame s))

namespace Secludes

variable [LogSink κ] (secludes : installation.Secludes)
include secludes

/-- The message pipeline acts in its last poll only, in which its answer is
noted. -/
theorem actsLast_onMessage
    (handlers : installation.HandlersUnseen see)
    (context : MessageContext σ) {s : σ} (sound : installation.IsSound s) :
    (installation.pipeline.onMessage context cancel).ActsLast installation.IsSound
      (fun s => see (installation.traffic s)) (installation.Answers see context.messageId)
      (see (installation.traffic s)) s := by
  apply (unseen_onMessage handlers context).andThen sound
  intro result t sound _
  exact ⟨secludes.isSound_noted sound _, _, rfl, secludes.traffic_noted _ result t⟩

/-- The error pipeline decides on the traffic that it finds. -/
theorem onError_spec (message : InboundMessage) (failure : Failure) (token : TransportToken σ)
    (s : σ) :
    let answered := (installation.engine.receiver installation.logBook
      installation.configuration).onError (message.errorContext failure token) s
    let decided := installation.recovery message failure token (installation.traffic s).transport
    answered.1 = decided.1 ∧
      installation.traffic answered.2 = { installation.traffic s with transport := decided.2 } ∧
      installation.gate.get answered.2 = installation.gate.get s := by
  intro answered decided
  let logged := (installation.logBook.log recoverabilityLogger
    (Receiver.decisionEntry (message.errorContext failure token) failure.message
      (installation.configuration.recoverability.action message.deliveryCount message.headers)) s).2
  have hLogged : installation.frame logged = installation.frame s := secludes.frame_logBook _ s
  have hTraffic := traffic_of_frame hLogged
  have hDecided : decided =
      installation.recovery message failure token (installation.traffic logged).transport := by
    rw [hTraffic]
  have hAnswered : answered.2 = installation.engine.transport.set decided.2 logged := by
    rw [hDecided]
    rfl
  refine ⟨?_, ?_, ?_⟩
  · rw [hDecided]
    rfl
  · rw [hAnswered, ← hTraffic, secludes.traffic_setTransport]
  · rw [hAnswered, secludes.transport_gate]
    exact congrArg Prod.fst hLogged

omit secludes in
/-- The error pipeline decides in one go. -/
theorem onError_andThen {α : Type} (context : ErrorContext σ)
    (follow : Except Failure ErrorVerdict → Task σ α) :
    (installation.pipeline.onError context cancel).andThen follow =
      (perform ((installation.engine.receiver installation.logBook
        installation.configuration).onError context)).andThen fun verdict => follow (.ok verdict) :=
  rfl

/-- What is left to be done of an attempt whose message pipeline has failed. -/
theorem actsLast_recover {failure : Failure} {traffic : Traffic} {s : σ}
    (sound : installation.IsSound s)
    (hNoted : installation.traffic s = traffic.noted message.id (.error failure)) :
    (installation.pipeline.recover message failure .none cancel).ActsLast installation.IsSound
      (fun s => see (installation.traffic s))
      (fun seen outcome s => installation.IsSound s ∧ ∃ traffic, see traffic = seen ∧
        Recovers installation message failure traffic (Binding.answer outcome)
          (installation.traffic s))
      (see traffic) s := by
  apply actsLast_of_frame (secludes.report _)
  intro t hReport
  -- Without transactions there is nothing to be opened, committed or discarded.
  apply actsLast_of_frame fun _ => rfl
  intro u hCreated
  apply actsLast_of_frame fun s => secludes.identifiers _ s
  intro v hToken
  have hFrame := hToken.trans (hCreated.trans hReport)
  -- The token is told apart from all others by its identifier only.
  generalize ((TransactionStrategy.none.token (TransactionStrategy.none.create t).1) u).1 = token
  rw [bind_eq, onError_andThen, actsLast_perform_andThen_iff]
  obtain ⟨hVerdict, hTraffic, hGate⟩ := secludes.onError_spec message failure token v
  rw [hVerdict]
  rw [traffic_of_frame hFrame, hNoted] at hTraffic ⊢
  rw [Traffic.transport_noted] at hTraffic ⊢
  have recovers {w : σ}
      (hLast : installation.frame w = installation.frame ((installation.engine.receiver
        installation.logBook installation.configuration).onError
          (message.errorContext failure token) v).2) :
      installation.IsSound w ∧ ∃ other, see other = see traffic ∧
        Recovers installation message failure other (answerTo failure
          (installation.recovery message failure token traffic.transport).1)
          (installation.traffic w) := by
    refine ⟨sound.of_gate ?_, traffic, rfl, token, rfl, (traffic_of_frame hLast).trans hTraffic⟩
    exact congrArg StartGate.state
      ((congrArg Prod.fst hLast).trans (hGate.trans (congrArg Prod.fst hFrame)))
  cases hDecided : (installation.recovery message failure token traffic.transport).1 with
  | handled =>
      rw [hDecided] at recovers
      apply actsLast_of_frame fun _ => rfl
      intro w hCommitted
      apply actsLast_of_frame (secludes.report _)
      intro w' hLast
      exact recovers (hLast.trans hCommitted)
  | retryRequired =>
      rw [hDecided] at recovers
      apply actsLast_of_frame (secludes.report _)
      intro w hReported
      apply actsLast_of_frame fun _ => rfl
      intro w' hLast
      exact recovers (hLast.trans hReported)

/-- What is left to be done of an attempt whose message pipeline has come to its
end, or was given up. -/
theorem actsLast_conclude {ended : Option (Except Failure Unit)} {seen : β} {s : σ}
    (hEnded : OrGivenUp (installation.Answers see message.id) installation.IsSound
      (fun s => see (installation.traffic s)) seen ended s) :
    (installation.pipeline.conclude message .none cancel none ended).ActsLast installation.IsSound
      (fun s => see (installation.traffic s))
      (fun seen outcome => installation.Concludes see message seen (Binding.answer outcome))
      seen s := by
  rcases ended with _ | failure | value
  · obtain ⟨sound, rfl⟩ := hEnded
    apply actsLast_of_frame fun _ => rfl
    intro t hFrame
    refine ⟨sound.of_frame hFrame, _, rfl, ?_⟩
    rw [traffic_of_frame hFrame]
    exact .refused
  · obtain ⟨sound, traffic, rfl, hNoted⟩ := hEnded
    apply actsLast_of_frame fun _ => rfl
    intro t hFrame
    split
    · rename_i cancellation
      refine ⟨sound.of_frame hFrame, traffic, rfl, ?_⟩
      rw [traffic_of_frame hFrame, hNoted]
      exact .cancelled cancellation
    · rename_i genuine
      apply (secludes.actsLast_recover (sound.of_frame hFrame)
        ((traffic_of_frame hFrame).trans hNoted)).mono
      rintro _ outcome u ⟨sound, traffic, rfl, recovers⟩
      exact ⟨sound, traffic, rfl, .failed (Bool.not_eq_true _ ▸ genuine) recovers⟩
  · obtain ⟨sound, traffic, rfl, hNoted⟩ := hEnded
    apply actsLast_of_frame fun _ => rfl
    intro t hCommitted
    apply actsLast_of_frame (secludes.report _)
    intro u hReport
    have hFrame := hReport.trans hCommitted
    refine ⟨sound.of_frame hFrame, traffic, rfl, ?_⟩
    rw [traffic_of_frame hFrame, hNoted]
    exact .succeeded

/-- One attempt acts in its last poll only. -/
theorem actsLast_attempt
    (handlers : installation.HandlersUnseen see)
    {s : σ} (sound : installation.IsSound s) :
    (installation.pipeline.attempt message .none cancel).ActsLast installation.IsSound
      (fun s => see (installation.traffic s))
      (fun seen outcome => installation.Concludes see message seen (Binding.answer outcome))
      (see (installation.traffic s)) s := by
  have hCreate : installation.Unseen see (fun transaction => transaction = none)
      (perform (TransactionStrategy.none (σ := σ)).create) :=
    unseen_perform (fun _ => rfl) fun _ => rfl
  have hToken : installation.Unseen see (fun _ => True)
      (perform ((TransactionStrategy.none (σ := σ)).token none)) :=
    unseen_perform (fun s => secludes.identifiers _ s) fun _ => trivial
  apply unseen_observe.andThen sound
  intro cancelled t sound _
  split
  · exact ⟨sound, _, rfl, .refused⟩
  · apply (secludes.unseen_note _).andThen sound
    intro _ u sound _
    apply hCreate.andThen sound
    rintro transaction v sound rfl
    apply hToken.andThen sound
    intro token w sound _
    apply (ActsLast.cutBy sound (secludes.actsLast_onMessage handlers _ sound)).andThen
    intro seen ended x hEnded
    exact secludes.actsLast_conclude hEnded

/-- A call with a message acts in its last poll only. What others do in between is
not its concern, as long as they start no instance for another endpoint. -/
theorem actsLast_process
    (handlers : installation.HandlersUnseen see)
    (message : WireMessage) (context : FunctionContext κ) {s : σ}
    (sound : installation.IsSound s) :
    (installation.endpoint.process message context cancel).ActsLast installation.IsSound
      (fun s => see (installation.traffic s))
      (fun seen answer t => ∃ fresh,
        installation.Concludes see (InboundMessage.ofWire fresh message) seen answer t)
      (see (installation.traffic s)) s := by
  have hRefused (error : BusError) {t : σ} (sound : installation.IsSound t) :
      (done (.error error)).ActsLast installation.IsSound (fun s => see (installation.traffic s))
        (fun seen answer t => ∃ fresh,
          installation.Concludes see (InboundMessage.ofWire fresh message) seen answer t)
        (see (installation.traffic t)) t :=
    ⟨"", sound, _, rfl, .refused⟩
  apply (secludes.unseen_attachLogger context).andThen sound
  intro _ t sound _
  split
  · exact hRefused _ sound
  · rename_i hReceives
    apply secludes.unseen_freshIdentifier.andThen sound
    intro fresh u sound _
    apply (secludes.unseen_note _).andThen sound
    intro _ v sound _
    apply (secludes.unseen_ensureStarted cancel).andThen sound
    intro started w sound hOwn
    cases started with
    | error error => exact hRefused _ sound
    | ok started =>
        change ((installation.endpoint.binding started).process (.ofWire fresh message) .none
          cancel).ActsLast _ _ _ _ _
        rw [endpoint_binding (hOwn started rfl) (Bool.not_eq_true _ ▸ hReceives)]
        apply (secludes.actsLast_attempt handlers sound).andThen
        intro seen outcome x concludes
        rcases outcome with error | _ | _ | cause
        · exact ⟨fresh, concludes⟩
        · exact ⟨fresh, concludes⟩
        · exact ⟨fresh, concludes⟩
        · exact ⟨fresh, concludes⟩

end Secludes
end Attempt
end Installation
end BusEndpoint.InMemory
