import BusEndpoint.Proofs.Settlement.Recording

/-! The course of a call under host transactions. Each part of a call adds to the
record in one of a few ways, whatever the pipeline, the completion step and the
transactions answer, and whatever others do to the host while the call has given up
control. Nothing is cut once the message pipeline has come to its end. -/

namespace BusEndpoint

open BusEndpoint.Task

namespace NativeRecord

/-- What is added when a transaction is completed. -/
inductive Completes (hasStep : Bool) (number : Nat) :
    NativeRecord → Except BusError Unit → Prop where
  | late : Completes hasStep number [.completing (some number) true] (.error .cancelled)
  | stepless (hStep : hasStep = false) :
      Completes hasStep number [.completing (some number) false] (.ok ())
  | stepped (hStep : hasStep = true) (result : Except BusError Unit) :
      Completes hasStep number
        [.completing (some number) false, .stepBegun (some number), .stepEnded (some number) result]
        result

/-- What is added when a completed transaction is committed. -/
inductive Commits (number : Nat) : NativeRecord → Except BusError Unit → Prop where
  | accepted : Commits number [.committed number (.ok ())] (.ok ())
  | rejected (failure : Failure) :
      Commits number [.committed number (.error failure), .rolledBack number]
        (.error (.transaction failure.message))

/-- What is added when a transaction is completed and committed. -/
inductive Settles (hasStep : Bool) (number : Nat) : NativeRecord → Except BusError Unit → Prop where
  | incomplete {part : NativeRecord} {error : BusError}
      (completes : Completes hasStep number part (.error error)) :
      Settles hasStep number (part ++ [.rolledBack number]) (.error error)
  | completed {part last : NativeRecord} {result : Except BusError Unit}
      (completes : Completes hasStep number part (.ok ())) (commits : Commits number last result) :
      Settles hasStep number (part ++ last) result

/-- What is added once the error pipeline has come to its end. -/
inductive Recovers (hasStep : Bool) (number : Nat) (failure : Failure) :
    NativeRecord → Except BusError AttemptOutcome → Prop where
  | broken (error : Failure) :
      Recovers hasStep number failure [.treated (.error error), .rolledBack number]
        (.error (.errorPipeline error))
  | retryRequired :
      Recovers hasStep number failure [.treated (.ok .retryRequired), .rolledBack number]
        (.ok (.retryRequired failure))
  | handled {part : NativeRecord} {result : Except BusError Unit}
      (settles : Settles hasStep number part result) :
      Recovers hasStep number failure (.treated (.ok .handled) :: part)
        (result.map fun _ => .handledFailure)

/-- The record of one attempt, whose first transaction has the given number. -/
inductive IsAttempt (hasStep : Bool) (number : Nat) :
    NativeRecord → Except BusError AttemptOutcome → Prop where
  | refused (error : BusError) : IsAttempt hasStep number [] (.error error)
  | cut : IsAttempt hasStep number [.begun number, .rolledBack number] (.error .cancelled)
  | succeeded {part : NativeRecord} {result : Except BusError Unit}
      (settles : Settles hasStep number part result) :
      IsAttempt hasStep number (.begun number :: .processed (.ok ()) :: part)
        (result.map fun _ => .success)
  | cancelled {failure : Failure} (cancellation : failure.isCancellation = true) :
      IsAttempt hasStep number
        [.begun number, .processed (.error failure), .rolledBack number] (.error .cancelled)
  | failed {failure : Failure} {part : NativeRecord} {outcome : Except BusError AttemptOutcome}
      (genuine : failure.isCancellation = false)
      (recovers : Recovers hasStep (number + 1) failure part outcome) :
      IsAttempt hasStep number
        (.begun number :: .processed (.error failure) :: .rolledBack number ::
          .begun (number + 1) :: part) outcome

end NativeRecord

open NativeRecord

variable {σ α : Type} {others : σ → σ → Prop} {cancel : CancellationToken σ} {s t : σ}
  {past after : NativeRecord}

theorem runs_record_andThen_iff {event : NativeEvent} {follow : Unit → Task (σ × NativeRecord) α}
    {result : α} {last : σ × NativeRecord} :
    Runs (Beside others) ((perform event.record).andThen follow) (s, past) result last ↔
      Runs (Beside others) (follow ()) (s, past ++ [event]) result last :=
  runs_act_iff

/-- Work on the host whose answer is noted. -/
theorem Task.runs_onFirst_record {task : Task σ α} {answered : α → NativeEvent} {answer : α}
    (run : Runs (Beside others)
      (task.onFirst.andThen fun answer =>
        (perform (answered answer).record).andThen fun _ => done answer)
      (s, past) answer (t, after)) :
    after = past ++ [answered answer] := by
  obtain ⟨value, u, -, later⟩ := (acts_onFirst task).runs_beside run
  have later := runs_record_andThen_iff.mp later
  obtain ⟨rfl, hEnd⟩ := runs_done_iff.mp later
  exact congrArg Prod.snd hEnd

namespace Pipeline

variable {pipeline : Pipeline σ}

/-- The message pipeline is cut, or it comes to its end with an answer. -/
theorem runs_onMessage_recorded {context : MessageContext (σ × NativeRecord)}
    {result : Option (Except Failure Unit)}
    (run : Runs (Beside others)
      ((pipeline.recorded.onMessage context fun s => cancel s.1).cutBy fun s => cancel s.1)
      (s, past) result (t, after)) :
    (result = none ∧ after = past) ∨
      ∃ answer, result = some answer ∧ after = past ++ [.processed answer] := by
  have run := runs_act_iff.mp run
  split at run
  · obtain ⟨rfl, hEnd⟩ := runs_done_iff.mp run
    exact .inl ⟨rfl, congrArg Prod.snd hEnd⟩
  · have run : Runs (Beside others) (Task.cutAtResumption (fun s => cancel s.1)
        (Task.andThen (Task.onFirst (pipeline.onMessage (context.alone []) cancel)) fun answer =>
          (perform (NativeEvent.processed answer).record).andThen fun _ => done answer))
        (s, past) result (t, after) := run
    rw [cutAtResumption_andThen] at run
    obtain ⟨ended, u, -, later⟩ :=
      ((acts_onFirst _).cutAtResumption leavesSecond_refl).runs_beside run
    cases ended with
    | none =>
        obtain ⟨rfl, hEnd⟩ := runs_done_iff.mp later
        exact .inl ⟨rfl, congrArg Prod.snd hEnd⟩
    | some answer =>
        have later : Runs (Beside others) (done (some answer)) (u, past ++ [.processed answer])
          result (t, after) := runs_act_iff.mp later
        obtain ⟨rfl, hEnd⟩ := runs_done_iff.mp later
        exact .inr ⟨answer, rfl, congrArg Prod.snd hEnd⟩

theorem runs_onError_recorded {context : ErrorContext (σ × NativeRecord)}
    {answer : Except Failure ErrorVerdict}
    (run : Runs (Beside others) (pipeline.recorded.onError context fun s => cancel s.1)
      (s, past) answer (t, after)) : after = past ++ [.treated answer] :=
  runs_onFirst_record run

end Pipeline

section Host

variable [Host σ] {transactions : HostTransactions σ} {number : Nat} {transaction : Transaction σ}

omit [Host σ] in
theorem Transaction.recordedNumber?_recorded (transaction : Transaction σ) (number : Nat) (s : σ) :
    (transaction.recorded number).recordedNumber? s = some number :=
  rfl

namespace HostTransactions

theorem create_recorded (transactions : HostTransactions σ) (s : σ) (past : NativeRecord) :
    ∃ (transaction : Transaction σ) (u : σ), transactions.recordedStrategy.create (s, past) =
      (some (transaction.recorded past.begins.length), u, past ++ [.begun past.begins.length]) :=
  ⟨⟨_, (transactions.factory s).1⟩, _, rfl⟩

theorem runs_complete_recorded {result : Except BusError Unit}
    (run : Runs (Beside others)
      (transactions.recordedStrategy.complete (some (transaction.recorded number))
        fun s => cancel s.1) (s, past) result (t, after)) :
    ∃ part, Completes transactions.completion.isSome number part result ∧ after = past ++ part := by
  simp only [recordedStrategy, complete, bind_eq, pure_eq, runs_observe_andThen_iff,
    Option.bind_some, transaction.recordedNumber?_recorded] at run
  have run := runs_observe_andThen_iff.mp (runs_record_andThen_iff.mp run)
  cases hCancel : cancel s with
  | true =>
      simp only [hCancel, if_true, runs_done_iff] at run
      obtain ⟨rfl, hEnd⟩ := run
      exact ⟨_, .late, congrArg Prod.snd hEnd⟩
  | false =>
      simp only [hCancel, Bool.false_eq_true, if_false] at run
      rcases hStep : transactions.completion with _ | step
      · simp only [recorded, hStep, Option.map_none, runs_done_iff] at run
        obtain ⟨rfl, hEnd⟩ := run
        exact ⟨_, .stepless rfl, congrArg Prod.snd hEnd⟩
      · simp only [recorded, hStep, Option.map_some, bind_eq, pure_eq, runs_observe_andThen_iff,
          transaction.recordedNumber?_recorded] at run
        have run := runs_onFirst_record (runs_record_andThen_iff.mp run)
        refine ⟨_, .stepped rfl result, run.trans ?_⟩
        simp only [List.append_assoc, List.cons_append, List.nil_append]

/-- A transaction that is opened is begun, and has the next number. -/
theorem runs_create_recorded {follow : Option (Transaction (σ × NativeRecord)) →
      Task (σ × NativeRecord) α} {result : α} {last : σ × NativeRecord}
    (run : Runs (Beside others) ((perform transactions.recordedStrategy.create).andThen follow)
      (s, past) result last) :
    ∃ (transaction : Transaction σ) (u : σ),
      Runs (Beside others) (follow (some (transaction.recorded past.begins.length)))
        (u, past ++ [.begun past.begins.length]) result last := by
  obtain ⟨transaction, u, hCreate⟩ := transactions.create_recorded s past
  have run := runs_perform_andThen_iff.mp run
  rw [hCreate] at run
  exact ⟨transaction, u, run⟩

theorem acts_token_recorded (opened : Option (Transaction (σ × NativeRecord))) :
    (perform (transactions.recordedStrategy.token opened)).Acts LeavesSecond fun _ => True := by
  cases opened with
  | none => exact acts_perform (fun _ => rfl) fun _ => trivial
  | some opened => exact acts_perform (fun _ => rfl) fun _ => trivial

end HostTransactions

theorem Transaction.runs_discard_recorded {follow : Unit → Task (σ × NativeRecord) α} {result : α}
    {last : σ × NativeRecord}
    (run : Runs (Beside others)
      ((perform (Transaction.discardAny (some (transaction.recorded number)))).andThen follow)
      (s, past) result last) :
    ∃ u, Runs (Beside others) (follow ()) (u, past ++ [.rolledBack number]) result last :=
  ⟨_, runs_perform_andThen_iff.mp run⟩

theorem HostTransactions.runs_settle_recorded {result : Except BusError Unit}
    (run : Runs (Beside others)
      (transactions.recordedStrategy.settle (some (transaction.recorded number))
        fun s => cancel s.1) (s, past) result (t, after)) :
    ∃ part, Settles transactions.completion.isSome number part result ∧ after = past ++ part := by
  obtain ⟨completed, ⟨u, middle⟩, completing, later⟩ := runs_andThen_iff.mp run
  obtain ⟨part, completes, rfl⟩ := runs_complete_recorded completing
  cases completed with
  | error error =>
      obtain ⟨v, later⟩ := Transaction.runs_discard_recorded later
      obtain ⟨rfl, hEnd⟩ := runs_done_iff.mp later
      exact ⟨_, .incomplete completes, (congrArg Prod.snd hEnd).trans (List.append_assoc ..)⟩
  | ok value =>
      obtain ⟨hResult, hEnd⟩ := runs_perform_iff.mp later
      change result = ((transaction.recorded number).commit (u, past ++ part)).1 at hResult
      change (t, after) = ((transaction.recorded number).commit (u, past ++ part)).2 at hEnd
      obtain ⟨v, -, hCommit⟩ | ⟨failure, v, -, hCommit⟩ :=
        transaction.commit_recorded number (u, past ++ part)
      · rw [hCommit] at hResult hEnd
        subst hResult
        exact ⟨_, .completed completes .accepted,
          (congrArg Prod.snd hEnd).trans (List.append_assoc ..)⟩
      · rw [hCommit] at hResult hEnd
        subst hResult
        exact ⟨_, .completed completes (.rejected failure),
          (congrArg Prod.snd hEnd).trans (List.append_assoc ..)⟩

/-- A transaction that is settled decides what the attempt comes to. -/
theorem HostTransactions.runs_settle_andThen_recorded {fields : List (String × FieldValue)}
    {text : String} {outcome : AttemptOutcome} {result : Except BusError AttemptOutcome}
    (run : Runs (Beside others)
      ((transactions.recordedStrategy.settle (some (transaction.recorded number))
        fun s => cancel s.1).andThen fun
        | .error error => done (.error error)
        | .ok () => (event .debug fields text).andThen fun _ => done (.ok outcome))
      (s, past) result (t, after)) :
    ∃ part settled, Settles transactions.completion.isSome number part settled ∧
      result = settled.map (fun _ => outcome) ∧ after = past ++ part := by
  obtain ⟨settled, ⟨u, middle⟩, settling, later⟩ := runs_andThen_iff.mp run
  obtain ⟨part, settles, rfl⟩ := runs_settle_recorded settling
  refine ⟨part, settled, settles, ?_⟩
  cases settled with
  | error error =>
      obtain ⟨rfl, hEnd⟩ := runs_done_iff.mp later
      exact ⟨rfl, congrArg Prod.snd hEnd⟩
  | ok value =>
      obtain ⟨-, v, -, later⟩ := (Task.acts_report _).runs_beside later
      obtain ⟨rfl, hEnd⟩ := runs_done_iff.mp later
      exact ⟨rfl, congrArg Prod.snd hEnd⟩

namespace Pipeline

variable {pipeline : Pipeline σ} {message : InboundMessage} {failure : Failure}
  {outcome : Except BusError AttemptOutcome}

/-- The error pipeline runs under the next transaction, and its verdict decides what
becomes of it. -/
theorem runs_recover_recorded
    (run : Runs (Beside others)
      (pipeline.recorded.recover message failure transactions.recordedStrategy fun s => cancel s.1)
      (s, past) outcome (t, after)) :
    ∃ part, Recovers transactions.completion.isSome past.begins.length failure part outcome ∧
      after = past ++ .begun past.begins.length :: part := by
  obtain ⟨-, u, -, run⟩ := (Task.acts_report _).runs_beside run
  obtain ⟨transaction, u, run⟩ := HostTransactions.runs_create_recorded run
  obtain ⟨token, u, -, run⟩ := (HostTransactions.acts_token_recorded _).runs_beside run
  obtain ⟨answer, ⟨u, middle⟩, treating, run⟩ := runs_andThen_iff.mp run
  obtain rfl := runs_onError_recorded treating
  have hPart (part : NativeRecord) :
      past ++ [.begun past.begins.length] ++ [.treated answer] ++ part =
        past ++ .begun past.begins.length :: .treated answer :: part := by simp
  rcases answer with error | _ | _
  · obtain ⟨-, u, -, run⟩ := (Task.acts_report _).runs_beside run
    obtain ⟨u, run⟩ := Transaction.runs_discard_recorded run
    obtain ⟨rfl, hEnd⟩ := runs_done_iff.mp run
    exact ⟨_, .broken error, (congrArg Prod.snd hEnd).trans (hPart _)⟩
  · obtain ⟨part, settled, settles, rfl, rfl⟩ :=
      HostTransactions.runs_settle_andThen_recorded run
    exact ⟨_, .handled settles, hPart part⟩
  · obtain ⟨-, u, -, run⟩ := (Task.acts_report _).runs_beside run
    obtain ⟨u, run⟩ := Transaction.runs_discard_recorded run
    obtain ⟨rfl, hEnd⟩ := runs_done_iff.mp run
    exact ⟨_, .retryRequired, (congrArg Prod.snd hEnd).trans (hPart _)⟩

/-- Every attempt adds one of the records of attempts. -/
theorem runs_attempt_recorded
    (run : Runs (Beside others)
      (pipeline.recorded.attempt message transactions.recordedStrategy fun s => cancel s.1)
      (s, past) outcome (t, after)) :
    ∃ block, NativeRecord.IsAttempt transactions.completion.isSome past.begins.length block
        outcome ∧ after = past ++ block := by
  have run := runs_observe_andThen_iff.mp run
  split at run
  · obtain ⟨rfl, hEnd⟩ := runs_done_iff.mp run
    exact ⟨[], .refused _, (congrArg Prod.snd hEnd).trans (List.append_nil _).symm⟩
  · obtain ⟨-, u, -, run⟩ := (Task.acts_report _).runs_beside run
    obtain ⟨transaction, u, run⟩ := HostTransactions.runs_create_recorded run
    obtain ⟨token, u, -, run⟩ := (HostTransactions.acts_token_recorded _).runs_beside run
    obtain ⟨ended, ⟨u, middle⟩, processing, run⟩ := runs_andThen_iff.mp run
    obtain ⟨rfl, rfl⟩ | ⟨answer, rfl, rfl⟩ := runs_onMessage_recorded processing
    · obtain ⟨u, run⟩ := Transaction.runs_discard_recorded run
      obtain ⟨rfl, hEnd⟩ := runs_done_iff.mp run
      exact ⟨_, .cut, (congrArg Prod.snd hEnd).trans (List.append_assoc ..)⟩
    · rcases answer with failure | value
      · obtain ⟨u, run⟩ := Transaction.runs_discard_recorded run
        cases hCancellation : failure.isCancellation with
        | true =>
            rw [if_pos hCancellation] at run
            obtain ⟨rfl, hEnd⟩ := runs_done_iff.mp run
            exact ⟨_, .cancelled hCancellation, by simpa using congrArg Prod.snd hEnd⟩
        | false =>
            rw [if_neg (by simp [hCancellation])] at run
            obtain ⟨part, recovers, rfl⟩ := runs_recover_recorded run
            have hNext : (past ++ [.begun past.begins.length] ++ [.processed (.error failure)] ++
                [.rolledBack past.begins.length] : NativeRecord).begins.length =
                  past.begins.length + 1 := by
              simp
            rw [hNext] at recovers ⊢
            exact ⟨_, .failed hCancellation recovers, by simp⟩
      · obtain ⟨part, settled, settles, rfl, rfl⟩ :=
          HostTransactions.runs_settle_andThen_recorded run
        exact ⟨_, .succeeded settles, by simp⟩

end Pipeline

end Host

end BusEndpoint
