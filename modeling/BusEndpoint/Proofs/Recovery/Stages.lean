import BusEndpoint.Proofs.Recovery.Beside

/-! The stages of an attempt on a host beside which something is kept. Transactions
work on the host alone, so that only the two calls of the pipeline reach what is kept;
the attempt begins with the one for the message, and what that answers decides whether
there is one for a failure. -/

namespace BusEndpoint

open BusEndpoint.Task

/-- What an attempt comes to whose failure got a verdict. A failure that counts as
handled is acknowledged unless its transaction cannot be completed or
committed. -/
inductive Acknowledges (failure : Failure) : ErrorVerdict → Except BusError AttemptOutcome → Prop where
  | retryRequired : Acknowledges failure .retryRequired (.ok (.retryRequired failure))
  | handled : Acknowledges failure .handled (.ok .handledFailure)
  | unsettled (error : BusError) : Acknowledges failure .handled (.error error)

/-- What an attempt makes of an answer to a failure. -/
inductive Weighs (failure : Failure) :
    Except Failure ErrorVerdict → Except BusError AttemptOutcome → Prop where
  | broken (error : Failure) : Weighs failure (.error error) (.error (.errorPipeline error))
  | verdict {verdict : ErrorVerdict} {outcome : Except BusError AttemptOutcome}
      (acknowledges : Acknowledges failure verdict outcome) : Weighs failure (.ok verdict) outcome

variable {σ ρ : Type}

/-- Nothing that is done at the beginning of an attempt changes that this holds of the
host. -/
structure TransactionStrategy.Opens [Host σ] (strategy : TransactionStrategy σ)
    (holds : σ → Prop) : Prop where
  report : ∀ diagnostic s, holds s → holds (Host.report diagnostic s)
  create : ∀ s, holds s → holds (strategy.create s).2
  token : ∀ opened s, holds s → holds (strategy.token opened s).2

/-- How an attempt goes on when its message pipeline has come to its end, or was given
up, and what is kept beside the host until then. -/
inductive Pipeline.Concludes (others : σ → σ → Prop) (pipeline : Pipeline (σ × ρ))
    (message : InboundMessage) (cancel : CancellationToken σ) :
    Option (Except Failure Unit) → ρ → Except BusError AttemptOutcome → ρ → Prop where
  | cut {kept : ρ} : Concludes others pipeline message cancel none kept (.error .cancelled) kept
  | succeeded {kept : ρ} :
      Concludes others pipeline message cancel (some (.ok ())) kept (.ok .success) kept
  | unsettled {kept : ρ} (error : BusError) :
      Concludes others pipeline message cancel (some (.ok ())) kept (.error error) kept
  | cancelled {failure : Failure} {kept : ρ} (cancellation : failure.isCancellation = true) :
      Concludes others pipeline message cancel (some (.error failure)) kept (.error .cancelled) kept
  | failed {failure : Failure} {token : TransportToken (σ × ρ)} {u v : σ} {kept last : ρ}
      {answer : Except Failure ErrorVerdict} {outcome : Except BusError AttemptOutcome}
      (genuine : failure.isCancellation = false)
      (calls : Runs (Beside others) (pipeline.onError (message.errorContext failure token)
        fun s => cancel s.1) (u, kept) answer (v, last))
      (weighs : Weighs failure answer outcome) :
      Concludes others pipeline message cancel (some (.error failure)) kept outcome last

section Attempts

variable [Host σ] {others : σ → σ → Prop} {pipeline : Pipeline (σ × ρ)}
  {message : InboundMessage} {strategy : TransactionStrategy σ} {cancel : CancellationToken σ}
  {alone kept last : ρ} {s t : σ} {outcome : Except BusError AttemptOutcome}

omit [Host σ] in
/-- What is left of an attempt does not reach what is kept. -/
theorem Task.Acts.runs_aside {answers : Except BusError AttemptOutcome → Prop}
    {task : Task (σ × ρ) (Except BusError AttemptOutcome)} (acts : task.Acts LeavesSecond answers)
    (run : Runs (Beside others) task (s, kept) outcome (t, last)) :
    last = kept ∧ answers outcome :=
  acts.runs leavesSecond_refl leavesSecond_trans (fun _ _ between => between.2) run

theorem Transaction.acts_discardAny_beside {opened : Option (Transaction (σ × ρ))}
    (openedActs : Transaction.ActsBy LeavesSecond opened) :
    (perform (Transaction.discardAny opened)).Acts LeavesSecond fun _ => True :=
  allows_leavesSecond.acts_discardAny (fun _ _ own => own) openedActs

theorem TransactionStrategy.acts_settle_beside {opened : Option (Transaction (σ × ρ))}
    (openedActs : Transaction.ActsBy LeavesSecond opened)
    {cancel : CancellationToken (σ × ρ)} :
    ((strategy.onFirst alone).settle opened cancel).Acts LeavesSecond fun _ => True :=
  allows_leavesSecond.acts_settle (fun _ _ own => own) (strategy.actsBy_onFirst alone) openedActs

theorem Pipeline.runs_recover_beside {failure : Failure}
    (run : Runs (Beside others)
      (pipeline.recover message failure (strategy.onFirst alone) fun s => cancel s.1) (s, kept)
      outcome (t, last)) :
    ∃ token u answer v, Runs (Beside others)
        (pipeline.onError (message.errorContext failure token) fun s => cancel s.1) (u, kept)
        answer (v, last) ∧ Weighs failure answer outcome := by
  have strategyActs := strategy.actsBy_onFirst alone
  obtain ⟨-, u, -, run⟩ := (acts_report _).runs_beside run
  obtain ⟨opened, u, openedActs, run⟩ := strategyActs.create.runs_beside run
  obtain ⟨token, u, -, run⟩ := (strategyActs.token opened openedActs).runs_beside run
  obtain ⟨answer, ⟨v, middle⟩, calls, run⟩ := runs_andThen_iff.mp run
  have hRest : last = middle ∧ Weighs failure answer outcome := by
    refine Acts.runs_aside ?_ run
    rcases answer with error | _ | _
    · refine (acts_report _).bind fun _ _ => ?_
      exact (Transaction.acts_discardAny_beside openedActs).bind fun _ _ =>
        acts_done (.broken error)
    · refine (TransactionStrategy.acts_settle_beside openedActs).bind fun settled _ => ?_
      cases settled with
      | error error => exact acts_done (.verdict (.unsettled error))
      | ok done => exact (acts_report _).bind fun _ _ => acts_done (.verdict .handled)
    · refine (acts_report _).bind fun _ _ => ?_
      exact (Transaction.acts_discardAny_beside openedActs).bind fun _ _ =>
        acts_done (.verdict .retryRequired)
  obtain ⟨rfl, weighs⟩ := hRest
  exact ⟨token, u, answer, v, calls, weighs⟩

theorem Pipeline.runs_conclude_beside {opened : Option (Transaction (σ × ρ))}
    (openedActs : Transaction.ActsBy LeavesSecond opened) {ended : Option (Except Failure Unit)}
    (run : Runs (Beside others)
      (pipeline.conclude message (strategy.onFirst alone) (fun s => cancel s.1) opened ended)
      (s, kept) outcome (t, last)) :
    pipeline.Concludes others message cancel ended kept outcome last := by
  rcases ended with _ | ⟨failure | value⟩
  · have acts : (pipeline.conclude message (strategy.onFirst alone) (fun s => cancel s.1) opened
        none).Acts LeavesSecond (· = .error .cancelled) :=
      (Transaction.acts_discardAny_beside openedActs).bind fun _ _ => acts_done rfl
    obtain ⟨rfl, rfl⟩ := acts.runs_aside run
    exact .cut
  · obtain ⟨-, u, -, run⟩ := (Transaction.acts_discardAny_beside openedActs).runs_beside run
    cases hCancellation : failure.isCancellation with
    | true =>
        rw [if_pos hCancellation] at run
        obtain ⟨rfl, hEnd⟩ := runs_done_iff.mp run
        obtain rfl : last = kept := congrArg Prod.snd hEnd
        exact .cancelled hCancellation
    | false =>
        rw [if_neg (by simp [hCancellation])] at run
        obtain ⟨token, u, answer, v, calls, weighs⟩ := runs_recover_beside run
        exact .failed hCancellation calls weighs
  · have acts : (pipeline.conclude message (strategy.onFirst alone) (fun s => cancel s.1) opened
        (some (.ok value))).Acts LeavesSecond fun outcome =>
          outcome = .ok .success ∨ ∃ error, outcome = .error error := by
      refine (TransactionStrategy.acts_settle_beside openedActs).bind fun settled _ => ?_
      cases settled with
      | error error => exact acts_done (.inr ⟨error, rfl⟩)
      | ok done => exact (acts_report _).bind fun _ _ => acts_done (.inl rfl)
    obtain ⟨rfl, rfl | ⟨error, rfl⟩⟩ := acts.runs_aside run
    · exact .succeeded
    · exact .unsettled error

/-- An attempt that is not cancelled opens a transaction, and goes on with the message
pipeline. -/
theorem Pipeline.poll_attempt_beside {holds : σ → Prop} (opens : strategy.Opens holds)
    (pipeline : Pipeline (σ × ρ)) (message : InboundMessage) (alone kept : ρ)
    (hGoing : cancel s = false) :
    ∃ token opened u, (holds s → holds u) ∧ Transaction.ActsBy LeavesSecond opened ∧
      (pipeline.attempt message (strategy.onFirst alone) fun s => cancel s.1).poll (s, kept) =
        (((pipeline.onMessage (message.context token) fun s => cancel s.1).cutBy
          fun s => cancel s.1).andThen (pipeline.conclude message (strategy.onFirst alone)
            (fun s => cancel s.1) opened)).poll (u, kept) := by
  let reported : σ := Host.report (.event .debug
    [("message_id", .text message.id), ("delivery_count", .count message.deliveryCount.toNat)]
    "processing message") s
  let created := (strategy.onFirst alone).create (reported, kept)
  let shown := (strategy.onFirst alone).token created.1 created.2
  refine ⟨shown.1, created.1, shown.2.1,
    fun hs => opens.token _ _ (opens.create _ (opens.report _ _ hs)),
    ((strategy.actsBy_onFirst alone).create (reported, kept)).2, ?_⟩
  simp only [attempt, bind_eq, poll_observe_andThen]
  rw [if_neg (by simp [hGoing])]
  rfl

/-- An attempt is refused, or calls the message pipeline and goes on from its answer. -/
theorem Pipeline.runs_attempt_beside {holds : σ → Prop} (opens : strategy.Opens holds)
    (run : Runs (Beside others)
      (pipeline.attempt message (strategy.onFirst alone) fun s => cancel s.1) (s, kept) outcome
      (t, last)) :
    (cancel s = true ∧ outcome = .error .cancelled ∧ last = kept) ∨
      ∃ token u ended v middle, (holds s → holds u) ∧
        Runs (Beside others) ((pipeline.onMessage (message.context token)
          fun s => cancel s.1).cutBy fun s => cancel s.1) (u, kept) ended (v, middle) ∧
        pipeline.Concludes others message cancel ended middle outcome last := by
  cases hCancel : cancel s with
  | true =>
      have run := runs_observe_andThen_iff.mp run
      rw [if_pos hCancel] at run
      obtain ⟨rfl, hEnd⟩ := runs_done_iff.mp run
      exact .inl ⟨rfl, rfl, congrArg Prod.snd hEnd⟩
  | false =>
      obtain ⟨token, opened, u, hHolds, openedActs, hPoll⟩ :=
        poll_attempt_beside opens pipeline message alone kept hCancel
      obtain ⟨ended, ⟨v, middle⟩, calls, run⟩ :=
        runs_andThen_iff.mp ((runs_of_poll_eq hPoll).mp run)
      exact .inr ⟨token, u, ended, v, middle, hHolds, calls, runs_conclude_beside openedActs run⟩

end Attempts

end BusEndpoint
