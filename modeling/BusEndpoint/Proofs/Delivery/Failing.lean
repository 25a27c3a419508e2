import BusEndpoint.Proofs.Attempt.Ends
import BusEndpoint.Proofs.Delivery.Retries

/-! Messages that fail. If the handlers of an endpoint come to their end and fail,
then every message can be delivered at any time, and its processing fails. -/

namespace BusEndpoint.InMemory

open BusEndpoint.Task

variable {σ κ ς : Type} [Host σ] [LogSink κ] {installation : Installation σ κ ς}

/-- Whatever message it is given, the message pipeline comes to its end, and
fails. -/
structure Installation.Fails (installation : Installation σ κ ς) : Prop where
  ends : ∀ context s, Ends installation.OthersMay
    ((installation.engine.receiver installation.logBook installation.configuration).onMessage
      context) s
  fails : ∀ context, installation.Unseen Traffic.answers
    (fun result => ∃ failure, result = .error failure ∧ failure.isCancellation = false)
    ((installation.engine.receiver installation.logBook installation.configuration).onMessage
      context)

section Runs

variable {message : InboundMessage} {s : σ}

omit [Host σ] [LogSink κ] in
/-- A change that is not seen is made in a run at once. -/
theorem exists_runs_of_frame {α β : Type} {change : StateM σ α} {follow : α → Task σ β}
    {ends : β → σ → Prop}
    (hFrame : ∀ s, installation.frame (change s).2 = installation.frame s)
    (later : ∀ t, installation.frame t = installation.frame s → ∃ value u,
      Runs installation.OthersMay (follow (change s).1) t value u ∧ ends value u) :
    ∃ value u, Runs installation.OthersMay ((perform change).andThen follow) s value u ∧
      ends value u := by
  obtain ⟨value, u, run, hEnds⟩ := later _ (hFrame s)
  exact ⟨value, u, runs_perform_andThen_iff.mpr run, hEnds⟩

/-- A failure that is no cancellation is noted after these answers. -/
def Installation.NotesFailure (installation : Installation σ κ ς) (answers : List Answer) (t : σ) :
    Prop :=
  ∃ messageId failure transport, failure.isCancellation = false ∧
    (installation.traffic t).answers = answers ++ [⟨messageId, .error failure, transport⟩]

namespace Installation.Fails

variable (secludes : installation.Secludes) (fails : installation.Fails)
include secludes fails

/-- The rest of an attempt that has failed notes nothing more. -/
theorem exists_recovery {failure : Failure} {traffic : Traffic} (sound : installation.IsSound s)
    (genuine : failure.isCancellation = false)
    (hNoted : installation.traffic s = traffic.noted message.id (.error failure)) :
    ∃ outcome t, Runs installation.OthersMay
      (installation.pipeline.recover message failure .none fun _ => false) s outcome t ∧
        installation.NotesFailure traffic.answers t := by
  have parts : installation.pipeline.PartsEnd installation.OthersMay .none fun _ => false := by
    refine Pipeline.partsEnd_of_ends ?_ (fun _ _ => ends_of_finished rfl)
      fun _ _ => ends_of_finished rfl
    intro context s
    exact (fails.ends context s).andThen fun _ _ _ => ends_of_finished rfl
  obtain ⟨outcome, t, run⟩ := (parts.recover message failure s).runs fun s => ⟨s, id, rfl⟩
  have acts : (installation.pipeline.recover message failure .none fun _ => false).ActsLast
      installation.IsSound (fun s => (installation.traffic s).answers) _ traffic.answers s :=
    secludes.actsLast_recover sound hNoted
  obtain ⟨-, before, hAnswers, token, -, hAfter⟩ :=
    acts.runs (fun _ _ between => between.1) (fun _ _ between => between.2) run
  refine ⟨outcome, t, run, message.id, failure, before.transport, genuine, ?_⟩
  rw [hAfter, ← hAnswers]
  rfl

/-- An attempt on the pipeline fails. -/
theorem exists_attempt (message : InboundMessage) (sound : installation.IsSound s) :
    ∃ outcome t, Runs installation.OthersMay
      (installation.pipeline.attempt message .none fun _ => false) s outcome t ∧
        installation.NotesFailure (installation.traffic s).answers t := by
  refine Exists.imp (fun _ => Exists.imp fun _ => And.imp_left runs_observe_andThen_iff.mpr) ?_
  rw [if_neg Bool.false_ne_true]
  apply exists_runs_of_frame (secludes.report _)
  intro t hReported
  apply exists_runs_of_frame (fun _ => rfl)
  intro u hCreated
  apply exists_runs_of_frame (fun s => secludes.identifiers _ s)
  intro v hToken
  have hFrame := hToken.trans (hCreated.trans hReported)
  generalize ((TransactionStrategy.none.token (TransactionStrategy.none.create t).1) u).1 = token
  obtain ⟨result, w, run⟩ := (fails.ends (message.context token) v).runs fun s => ⟨s, id, rfl⟩
  obtain ⟨soundEnd, hAnswers, failure, rfl, genuine⟩ :=
    (fails.fails (message.context token) v (sound.of_frame hFrame)).runs
      (fun _ _ between => between.1) (fun _ _ between => between.2) run
  have noting : Runs installation.OthersMay
      ((installation.pipeline.onMessage (message.context token) fun _ => false).cutBy
        fun _ => false) v (some (.error failure)) (installation.record.modify
          (· ++ [⟨message.id, .error failure, installation.engine.transport.get w⟩]) w) :=
    (runs_cutBy_iff (fun _ _ _ => rfl) rfl).mpr ⟨_, rfl, runs_andThen_iff.mpr
      ⟨_, w, run, runs_perform_andThen_iff.mpr (runs_done_iff.mpr ⟨rfl, rfl⟩)⟩⟩
  have hNoted := secludes.traffic_noted message.id (.error failure) w
  have concluded : ∃ outcome t, Runs installation.OthersMay
      (installation.pipeline.conclude message .none (fun _ => false) none (some (.error failure)))
      (installation.record.modify
        (· ++ [⟨message.id, .error failure, installation.engine.transport.get w⟩]) w) outcome t ∧
      installation.NotesFailure (installation.traffic w).answers t := by
    apply exists_runs_of_frame (fun _ => rfl)
    intro x hDiscarded
    rw [if_neg (by simp [genuine])]
    exact exists_recovery secludes fails
      ((secludes.isSound_noted soundEnd _).of_frame hDiscarded) genuine
      ((traffic_of_frame hDiscarded).trans hNoted)
  obtain ⟨outcome, x, later, hFailure⟩ := concluded
  refine ⟨outcome, x, runs_andThen_iff.mpr ⟨_, _, noting, later⟩, ?_⟩
  have hSame : (installation.traffic w).answers = (installation.traffic v).answers := hAnswers
  rwa [hSame, traffic_of_frame hFrame] at hFailure

/-- A message can be delivered at any time, and its processing fails. -/
theorem exists_process (hReceives : installation.configuration.sendOnly = false)
    (wire : WireMessage) (s : σ) :
    ∃ attempt : Attempt σ, attempt.wire = wire ∧ installation.OthersMay s attempt.start ∧
      attempt.IsMade installation := by
  -- Somebody else may have started the endpoint by then.
  let gate : StartGate Instance := { state := .started ⟨0, installation.configuration⟩ }
  have hGate := installation.gate.get_set gate s
  have hTraffic := secludes.gate gate s
  have soundStart : installation.IsSound (installation.gate.set gate s) := by
    intro started hStarted
    rw [hGate] at hStarted
    cases hStarted
    rfl
  have made : ∃ answer t, Runs installation.OthersMay
      (installation.endpoint.process wire ⟨"", "", none⟩ fun _ => false)
      (installation.gate.set gate s) answer t ∧
        installation.NotesFailure
          (installation.traffic (installation.gate.set gate s)).answers t := by
    apply exists_runs_of_frame fun _ => rfl
    intro t hAttached
    rw [if_neg (by simp [endpoint, hReceives])]
    apply exists_runs_of_frame fun s => secludes.identifiers _ s
    intro u hFresh
    apply exists_runs_of_frame (secludes.report _)
    intro v hReported
    have hFrame := hReported.trans (hFresh.trans hAttached)
    have started : Runs installation.OthersMay
        (installation.endpoint.ensureStarted fun _ => false) v
        (.ok ⟨0, installation.configuration⟩) v := by
      apply runs_observe_andThen_iff.mpr
      have hState : (installation.endpoint.state v).started? =
          some ⟨0, installation.configuration⟩ := by
        change (installation.frame v).1.state.started? = _
        rw [hFrame, frame, hGate]
        rfl
      rw [hState]
      exact .finished rfl
    obtain ⟨outcome, w, run, hFailure⟩ :=
      exists_attempt secludes fails _ (soundStart.of_frame hFrame)
    refine ⟨Binding.answer outcome, w, runs_andThen_iff.mpr ⟨_, v, started, ?_⟩, ?_⟩
    · change Runs _ ((installation.endpoint.binding _).process _ _ _) _ _ _
      rw [endpoint_binding rfl hReceives]
      refine runs_andThen_iff.mpr ⟨outcome, w, run, ?_⟩
      rcases outcome with error | _ | _ | cause
      · exact .finished rfl
      · exact .finished rfl
      · exact .finished rfl
      · exact .finished rfl
    · rwa [traffic_of_frame hFrame] at hFailure
  obtain ⟨answer, t, run, messageId, failure, transport, genuine, hAnswers⟩ := made
  refine ⟨⟨wire, installation.gate.set gate s, failure, transport, answer, t⟩, rfl, ?_, genuine,
    ⟨_, _, run⟩, messageId, hAnswers⟩
  exact ⟨fun _ => soundStart, congrArg Traffic.answers hTraffic⟩

end Installation.Fails

end Runs

end BusEndpoint.InMemory
