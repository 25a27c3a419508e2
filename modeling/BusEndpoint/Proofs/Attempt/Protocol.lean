import BusEndpoint.Proofs.Attempt.Work

/-! The journals that attempts can have. Each part of an attempt adds a journal
of a known form, whatever the pipeline and the strategy answer, wherever they
give up control, and whatever others do to the host meanwhile. -/

namespace BusEndpoint

open BusEndpoint.Task

variable {σ α : Type}

namespace Journal

/-- The rollback of a transaction, if there is one. -/
def rollback : Option Nat → Journal σ
  | some handle => [.rolledBack handle]
  | none => []

@[simp] theorem handles_rollback (handle : Option Nat) :
    (rollback handle : Journal σ).handles = [] := by
  cases handle with
  | none => rfl
  | some handle => rfl

/-- A transaction that is opened has the next number. -/
def IsNext (opened : Nat) (handle : Option Nat) : Prop :=
  handle = none ∨ handle = some opened

theorem IsNext.of_map {β : Type} (opened : Nat) (transaction : Option β) :
    IsNext opened (transaction.map fun _ => opened) := by
  cases transaction with
  | none => exact .inl rfl
  | some transaction => exact .inr rfl

/-- What is added when a transaction is completed and committed. -/
inductive Settles : Option Nat → Journal σ → Except BusError Unit → Prop where
  | incomplete {handle : Option Nat} {work : Journal σ} {error : BusError} (hWork : work.IsWork) :
      Settles handle
        (.completionBegun handle :: work ++ .completionEnded handle (.error error) :: rollback handle)
        (.error error)
  | withoutTransaction {work : Journal σ} (hWork : work.IsWork) :
      Settles none (.completionBegun none :: work ++ [.completionEnded none (.ok ())]) (.ok ())
  | committed {handle : Nat} {work : Journal σ} (hWork : work.IsWork) :
      Settles (some handle)
        (.completionBegun (some handle) :: work ++
          [.completionEnded (some handle) (.ok ()), .committed handle (.ok ())])
        (.ok ())
  | rejected {handle : Nat} {work : Journal σ} {failure : Failure} (hWork : work.IsWork) :
      Settles (some handle)
        (.completionBegun (some handle) :: work ++
          [.completionEnded (some handle) (.ok ()), .committed handle (.error failure),
            .rolledBack handle])
        (.error (.transaction failure.message))

/-- What is added once the error pipeline has been begun. -/
inductive Recovers (failure : Failure) (handle : Option Nat) :
    Journal σ → Except BusError AttemptOutcome → Prop where
  | broken {work : Journal σ} {error : Failure} (hWork : work.IsWork) :
      Recovers failure handle (work ++ .errorEnded (.error error) :: rollback handle)
        (.error (.errorPipeline error))
  | retryRequired {work : Journal σ} (hWork : work.IsWork) :
      Recovers failure handle (work ++ .errorEnded (.ok .retryRequired) :: rollback handle)
        (.ok (.retryRequired failure))
  | handled {work settlement : Journal σ} {result : Except BusError Unit} (hWork : work.IsWork)
      (settles : Settles handle settlement result) :
      Recovers failure handle (work ++ .errorEnded (.ok .handled) :: settlement)
        (result.map fun _ => .handledFailure)

/-- What is added once the message pipeline has been begun under a
transaction. -/
inductive Concludes (message : InboundMessage) (handle : Option Nat) :
    Journal σ → Except BusError AttemptOutcome → Prop where
  | cut {work : Journal σ} (uncut : work.IsUncutWork) :
      Concludes message handle (work ++ .resumed true :: rollback handle) (.error .cancelled)
  | succeeded {work settlement : Journal σ} {result : Except BusError Unit}
      (uncut : work.IsUncutWork) (settles : Settles handle settlement result) :
      Concludes message handle (work ++ .messageEnded (.ok ()) :: settlement)
        (result.map fun _ => .success)
  | cancelled {work : Journal σ} {failure : Failure} (uncut : work.IsUncutWork)
      (cancellation : failure.isCancellation = true) :
      Concludes message handle (work ++ .messageEnded (.error failure) :: rollback handle)
        (.error .cancelled)
  | failed (cancelled : Bool) (token : TransportToken σ) {work recovery : Journal σ}
      {failure : Failure} {next : Option Nat} {outcome : Except BusError AttemptOutcome}
      (uncut : work.IsUncutWork) (genuine : failure.isCancellation = false)
      (isNext : IsNext handle.toList.length next) (recovers : Recovers failure next recovery outcome) :
      Concludes message handle
        (work ++ .messageEnded (.error failure) :: rollback handle ++
          .opened next :: .enlisted cancelled :: .errorBegun (message.errorContext failure token) ::
            recovery)
        outcome

/-- The journals of whole attempts on a pipeline. The flag tells whether the
call was cancelled before it was made. -/
inductive IsAttempt (message : InboundMessage) :
    Bool → Journal σ → Except BusError AttemptOutcome → Prop where
  | refused : IsAttempt message true [] (.error .cancelled)
  | unbegun {handle : Option Nat} (isNext : IsNext 0 handle) :
      IsAttempt message false (.opened handle :: .enlisted true :: rollback handle)
        (.error .cancelled)
  | begun {handle : Option Nat} {token : TransportToken σ} {rest : Journal σ}
      {outcome : Except BusError AttemptOutcome} (isNext : IsNext 0 handle)
      (concludes : Concludes message handle rest outcome) :
      IsAttempt message false
        (.opened handle :: .enlisted false :: .messageBegun (message.context token) :: rest)
        outcome

end Journal

section Parts

variable {others : σ → σ → Prop} {cancel : CancellationToken σ}

theorem Transaction.number?_observed (transaction : Option (Transaction σ)) (handle : Nat)
    (s : σ) :
    ((transaction.map fun t => t.observed handle).bind fun t => t.number? s) =
      transaction.map fun _ => handle := by
  cases transaction with
  | none => rfl
  | some transaction => rfl

theorem TransactionStrategy.runs_complete_observed {strategy : TransactionStrategy σ}
    {transaction : Option (Transaction σ)} {handle : Nat} {s t : σ} {journal after : Journal σ}
    {result : Except BusError Unit}
    (run : Runs (Journal.Between others cancel)
      ((strategy.observed cancel).complete (transaction.map fun t => t.observed handle)
        cancel.alongside) (s, journal) result (t, after)) :
    ∃ work : Journal σ, work.IsWork ∧
      after = journal ++ .completionBegun (transaction.map fun _ => handle) :: work ++
        [.completionEnded (transaction.map fun _ => handle) result] := by
  simp only [observed, bind_eq, pure_eq, runs_observe_andThen_iff, runs_note_andThen_iff,
    Transaction.number?_observed] at run
  obtain ⟨value, ⟨u, middle⟩, first, last⟩ := runs_andThen_iff.mp run
  obtain ⟨work, hWork, rfl⟩ := runs_noting first
  rw [runs_note_andThen_iff] at last
  obtain ⟨rfl, hEnd⟩ := runs_done_iff.mp last
  exact ⟨work, hWork, by simpa using congrArg Prod.snd hEnd⟩

theorem TransactionStrategy.create_observed (strategy : TransactionStrategy σ) (s : σ)
    (journal : Journal σ) :
    (strategy.observed cancel).create (s, journal) =
      ((strategy.create s).1.map fun t => t.observed journal.handles.length,
        ((strategy.create s).2,
          journal ++ [.opened ((strategy.create s).1.map fun _ => journal.handles.length)])) :=
  rfl

theorem TransactionStrategy.token_observed (strategy : TransactionStrategy σ)
    (transaction : Option (Transaction σ)) (handle : Nat) (s : σ) (journal : Journal σ) :
    (strategy.observed cancel).token (transaction.map fun t => t.observed handle) (s, journal) =
      ((strategy.token transaction s).1.alongside, ((strategy.token transaction s).2,
        journal ++ [.enlisted (cancel (strategy.token transaction s).2)])) := by
  cases transaction with
  | none => rfl
  | some transaction => rfl

theorem Pipeline.runs_onError_observed {pipeline : Pipeline σ} {message : InboundMessage}
    {failure : Failure} {token : TransportToken σ} {s t : σ} {journal after : Journal σ}
    {result : Except Failure ErrorVerdict}
    (run : Runs (Journal.Between others cancel)
      (pipeline.observed.onError (message.errorContext failure token.alongside) cancel.alongside)
      (s, journal) result (t, after)) :
    ∃ work : Journal σ, work.IsWork ∧
      after = journal ++ .errorBegun (message.errorContext failure token) :: work ++
        [.errorEnded result] := by
  simp only [observed, bind_eq, pure_eq, runs_note_andThen_iff] at run
  obtain ⟨value, ⟨u, middle⟩, first, last⟩ := runs_andThen_iff.mp run
  obtain ⟨work, hWork, rfl⟩ := runs_noting first
  rw [runs_note_andThen_iff] at last
  obtain ⟨rfl, hEnd⟩ := runs_done_iff.mp last
  refine ⟨work, hWork, (congrArg Prod.snd hEnd).trans ?_⟩
  rw [InboundMessage.forgetful_errorContext]
  simp

/-- The message pipeline is begun unless the call has been cancelled by then.
Once begun, it is cut exactly when it is resumed in a cancelled call. -/
theorem Pipeline.runs_onMessage_observed {pipeline : Pipeline σ} {message : InboundMessage}
    {token : TransportToken σ} {s t : σ} {journal after : Journal σ}
    {result : Option (Except Failure Unit)}
    (run : Runs (Journal.Between others cancel)
      ((pipeline.observed.onMessage (message.context token.alongside) cancel.alongside).cutBy
        cancel.alongside) (s, journal) result (t, after)) :
    (cancel s = true ∧ result = none ∧ after = journal) ∨
      cancel s = false ∧ ∃ work : Journal σ, work.IsUncutWork ∧
        ((result = none ∧
            after = journal ++ .messageBegun (message.context token) :: work ++ [.resumed true]) ∨
          ∃ value, result = some value ∧
            after = journal ++ .messageBegun (message.context token) :: work ++
              [.messageEnded value]) := by
  have run := runs_act_iff.mp run
  cases hCancel : cancel s with
  | true =>
      simp only [CancellationToken.alongside, hCancel, if_true, id, runs_done_iff] at run
      exact .inl ⟨rfl, run.1, congrArg Prod.snd run.2⟩
  | false =>
      refine .inr ⟨rfl, ?_⟩
      simp only [CancellationToken.alongside, hCancel, Bool.false_eq_true, if_false, id] at run
      simp only [observed, bind_eq, pure_eq, InboundMessage.forgetful_context] at run
      have run := runs_note_cut_iff.mp run
      rw [cutAtResumption_andThen] at run
      obtain ⟨ended, ⟨u, middle⟩, first, last⟩ := runs_andThen_iff.mp run
      obtain ⟨work, hWork, ⟨rfl, rfl⟩ | ⟨value, rfl, rfl⟩⟩ := runs_noting_cut first
      · obtain ⟨rfl, hEnd⟩ := runs_done_iff.mp last
        exact ⟨work, hWork, .inl ⟨rfl, by simpa using congrArg Prod.snd hEnd⟩⟩
      · obtain ⟨rfl, hEnd⟩ := runs_done_iff.mp (runs_note_cut_iff.mp last)
        exact ⟨work, hWork, .inr ⟨value, rfl, by simpa using congrArg Prod.snd hEnd⟩⟩

end Parts

section Transactions

variable [Host σ]

/-- An observed transaction notes its number when it is discarded. -/
theorem Transaction.discard_observed (transaction : Transaction σ) (handle : Nat) (s : σ)
    (journal : Journal σ) :
    ∃ t, (transaction.observed handle).discard (s, journal) =
      ((), (t, journal ++ [.rolledBack handle])) :=
  ⟨_, rfl⟩

theorem Transaction.discardAny_observed (transaction : Option (Transaction σ)) (handle : Nat)
    (s : σ) (journal : Journal σ) :
    ∃ t, Transaction.discardAny (transaction.map fun t => t.observed handle) (s, journal) =
      ((), (t, journal ++ Journal.rollback (transaction.map fun _ => handle))) := by
  cases transaction with
  | none => exact ⟨s, by simp [discardAny, Journal.rollback]; rfl⟩
  | some transaction => exact transaction.discard_observed handle s journal

/-- A rejected commit is followed by a rollback, and an accepted one by
nothing. -/
theorem Transaction.commit_observed (transaction : Transaction σ) (handle : Nat) (s : σ)
    (journal : Journal σ) :
    ∃ answers : Journal σ, (transaction.observed handle).commit (s, journal) =
        ((transaction.commit s).1, ((transaction.commit s).2, journal ++ answers)) ∧
      (((transaction.commit s).1 = .ok () ∧ answers = [.committed handle (.ok ())]) ∨
        ∃ failure, (transaction.commit s).1 = .error (.transaction failure.message) ∧
          answers = [.committed handle (.error failure), .rolledBack handle]) := by
  have hCommit : (transaction.observed handle).native.commit (s, journal) =
      ((transaction.native.commit s).1, ((transaction.native.commit s).2,
        journal ++ [.committed handle (transaction.native.commit s).1])) := rfl
  simp only [commit, bind, StateT.bind, hCommit]
  rcases transaction.native.commit s with ⟨failure | value, t⟩
  · refine ⟨_, ?_, .inr ⟨failure, rfl, rfl⟩⟩
    rw [List.append_cons journal _ [.rolledBack handle]]
    rfl
  · exact ⟨_, rfl, .inl ⟨rfl, rfl⟩⟩

end Transactions

section Attempt

variable [Host σ] {others : σ → σ → Prop} {cancel : CancellationToken σ}

/-- A report to the host is not noted. -/
theorem runs_event_andThen_iff {severity : Severity} {fields : List (String × FieldValue)}
    {text : String} {follow : Unit → Task (σ × Journal σ) α} {result : α} {s : σ}
    {journal : Journal σ} {after : σ × Journal σ} :
    Runs (Journal.Between others cancel) ((event severity fields text).andThen follow)
        (s, journal) result after ↔
      Runs (Journal.Between others cancel) (follow ())
        (Host.report (.event severity fields text) s, journal) result after :=
  runs_act_iff

theorem runs_discardAny_andThen {transaction : Option (Transaction σ)} {handle : Nat}
    {follow : Unit → Task (σ × Journal σ) α} {result : α} {s : σ} {journal : Journal σ}
    {after : σ × Journal σ}
    (run : Runs (Journal.Between others cancel)
      ((perform (Transaction.discardAny (transaction.map fun t => t.observed handle))).andThen follow)
      (s, journal) result after) :
    ∃ t, Runs (Journal.Between others cancel) (follow ())
      (t, journal ++ Journal.rollback (transaction.map fun _ => handle)) result after := by
  obtain ⟨t, hDiscard⟩ := Transaction.discardAny_observed transaction handle s journal
  rw [runs_perform_andThen_iff, hDiscard] at run
  exact ⟨t, run⟩

/-- Completing and committing a transaction leaves one of four journals. -/
theorem TransactionStrategy.runs_settle_observed {strategy : TransactionStrategy σ}
    {transaction : Option (Transaction σ)} {handle : Nat} {s t : σ} {journal after : Journal σ}
    {result : Except BusError Unit}
    (run : Runs (Journal.Between others cancel)
      ((strategy.observed cancel).settle (transaction.map fun t => t.observed handle)
        cancel.alongside) (s, journal) result (t, after)) :
    ∃ settlement, Journal.Settles (transaction.map fun _ => handle) settlement result ∧
      after = journal ++ settlement := by
  simp only [settle, bind_eq, pure_eq, liftM_eq] at run
  obtain ⟨completion, ⟨u, middle⟩, first, last⟩ := runs_andThen_iff.mp run
  obtain ⟨work, hWork, rfl⟩ := runs_complete_observed first
  cases completion with
  | error error =>
      obtain ⟨v, last⟩ := runs_discardAny_andThen last
      obtain ⟨rfl, hEnd⟩ := runs_done_iff.mp last
      exact ⟨_, .incomplete hWork, by simpa using congrArg Prod.snd hEnd⟩
  | ok done =>
      cases done
      obtain ⟨hResult, hEnd⟩ := runs_perform_iff.mp last
      cases transaction with
      | none =>
          subst hResult
          refine ⟨_, .withoutTransaction hWork, (congrArg Prod.snd hEnd).trans ?_⟩
          simp only [Transaction.commitAny, Option.map_none, List.append_assoc, List.cons_append]
          rfl
      | some transaction =>
          rw [Option.map_some, Transaction.commitAny] at hResult hEnd
          obtain ⟨answers, hCommit, ⟨hAnswer, rfl⟩ | ⟨failure, hAnswer, rfl⟩⟩ :=
            transaction.commit_observed handle u _
          · rw [hCommit, hAnswer] at hResult
            rw [hCommit] at hEnd
            subst hResult
            exact ⟨_, .committed hWork, by simpa using congrArg Prod.snd hEnd⟩
          · rw [hCommit, hAnswer] at hResult
            rw [hCommit] at hEnd
            subst hResult
            exact ⟨_, .rejected hWork, by simpa using congrArg Prod.snd hEnd⟩

/-- An attempt that settles its transaction reports it and ends with the
outcome, or it ends with the failure of the settlement. -/
theorem TransactionStrategy.runs_settle_andThen_observed {strategy : TransactionStrategy σ}
    {transaction : Option (Transaction σ)} {handle : Nat} {fields : List (String × FieldValue)}
    {text : String} {outcome : AttemptOutcome} {s t : σ} {journal after : Journal σ}
    {result : Except BusError AttemptOutcome}
    (run : Runs (Journal.Between others cancel)
      (((strategy.observed cancel).settle (transaction.map fun t => t.observed handle)
          cancel.alongside).andThen fun
        | .error error => done (.error error)
        | .ok () => (event .debug fields text).andThen fun _ => done (.ok outcome))
      (s, journal) result (t, after)) :
    ∃ settlement settled, Journal.Settles (transaction.map fun _ => handle) settlement settled ∧
      result = settled.map (fun _ => outcome) ∧ after = journal ++ settlement := by
  obtain ⟨settled, ⟨u, middle⟩, settling, last⟩ := runs_andThen_iff.mp run
  obtain ⟨settlement, settles, rfl⟩ := runs_settle_observed settling
  refine ⟨settlement, settled, settles, ?_⟩
  cases settled with
  | error error =>
      obtain ⟨rfl, hEnd⟩ := runs_done_iff.mp last
      exact ⟨rfl, congrArg Prod.snd hEnd⟩
  | ok value =>
      cases value
      dsimp only at last
      rw [runs_event_andThen_iff] at last
      obtain ⟨rfl, hEnd⟩ := runs_done_iff.mp last
      exact ⟨rfl, congrArg Prod.snd hEnd⟩

omit [Host σ] in
/-- Opening a transaction and making a token for it leaves two events. -/
theorem TransactionStrategy.runs_open_observed {strategy : TransactionStrategy σ}
    {follow : Option (Transaction (σ × Journal σ)) → TransportToken (σ × Journal σ) →
      Task (σ × Journal σ) α}
    {result : α} {s : σ} {journal : Journal σ} {after : σ × Journal σ}
    (run : Runs (Journal.Between others cancel)
      ((perform (strategy.observed cancel).create).andThen fun transaction =>
        (perform ((strategy.observed cancel).token transaction)).andThen fun token =>
          follow transaction token) (s, journal) result after) :
    ∃ (transaction : Option (Transaction σ)) (token : TransportToken σ) (t : σ),
      Runs (Journal.Between others cancel)
        (follow (transaction.map fun t => t.observed journal.handles.length) token.alongside)
        (t, journal ++
          [.opened (transaction.map fun _ => journal.handles.length), .enlisted (cancel t)])
        result after := by
  rw [runs_perform_andThen_iff, create_observed, runs_perform_andThen_iff, token_observed] at run
  exact ⟨_, _, _, by simpa only [List.append_assoc, List.cons_append, List.nil_append] using run⟩

/-- The error pipeline runs under a transaction of its own, and its verdict
decides what is added. -/
theorem Pipeline.runs_recover_observed {pipeline : Pipeline σ} {strategy : TransactionStrategy σ}
    {message : InboundMessage} {failure : Failure} {s t : σ} {journal after : Journal σ}
    {outcome : Except BusError AttemptOutcome}
    (run : Runs (Journal.Between others cancel)
      (pipeline.observed.recover message failure (strategy.observed cancel) cancel.alongside)
      (s, journal) outcome (t, after)) :
    ∃ (next : Option Nat) (cancelled : Bool) (token : TransportToken σ) (recovery : Journal σ),
      Journal.IsNext journal.handles.length next ∧ Journal.Recovers failure next recovery outcome ∧
        after = journal ++ .opened next :: .enlisted cancelled ::
          .errorBegun (message.errorContext failure token) :: recovery := by
  simp only [recover, bind_eq, pure_eq, liftM_eq, runs_event_andThen_iff] at run
  obtain ⟨transaction, token, u, run⟩ := TransactionStrategy.runs_open_observed run
  have isNext := Journal.IsNext.of_map journal.handles.length transaction
  obtain ⟨answer, ⟨v, middle⟩, first, last⟩ := runs_andThen_iff.mp run
  obtain ⟨work, hWork, rfl⟩ := runs_onError_observed first
  refine ⟨transaction.map fun _ => journal.handles.length, cancel u, token, ?_⟩
  cases answer with
  | error error =>
      obtain ⟨w, last⟩ := runs_discardAny_andThen (runs_event_andThen_iff.mp last)
      obtain ⟨rfl, hEnd⟩ := runs_done_iff.mp last
      exact ⟨_, isNext, .broken hWork, by simpa using congrArg Prod.snd hEnd⟩
  | ok verdict =>
      cases verdict with
      | retryRequired =>
          obtain ⟨w, last⟩ := runs_discardAny_andThen (runs_event_andThen_iff.mp last)
          obtain ⟨rfl, hEnd⟩ := runs_done_iff.mp last
          exact ⟨_, isNext, .retryRequired hWork, by simpa using congrArg Prod.snd hEnd⟩
      | handled =>
          obtain ⟨settlement, result, settles, rfl, rfl⟩ :=
            TransactionStrategy.runs_settle_andThen_observed last
          exact ⟨_, isNext, .handled hWork settles, by simp⟩

/-- What follows the message pipeline depends on how it ended, and on nothing
else: a token that is cancelled later cuts nothing. -/
theorem Pipeline.runs_conclude_observed {pipeline : Pipeline σ} {strategy : TransactionStrategy σ}
    {message : InboundMessage} {transaction : Option (Transaction σ)} {handle : Nat} {s t : σ}
    {past after work : Journal σ} {ended : Except Failure Unit}
    {outcome : Except BusError AttemptOutcome} (uncut : work.IsUncutWork)
    (hPast : past.handles = (transaction.map fun _ => handle).toList)
    (run : Runs (Journal.Between others cancel)
      (pipeline.observed.conclude message (strategy.observed cancel) cancel.alongside
        (transaction.map fun t => t.observed handle) (some ended))
      (s, past ++ work ++ [.messageEnded ended]) outcome (t, after)) :
    ∃ rest, Journal.Concludes message (transaction.map fun _ => handle) rest outcome ∧
      after = past ++ rest := by
  cases ended with
  | ok value =>
      cases value
      obtain ⟨settlement, settled, settles, rfl, rfl⟩ :=
        TransactionStrategy.runs_settle_andThen_observed run
      exact ⟨_, .succeeded uncut settles, by simp⟩
  | error failure =>
      simp only [conclude, bind_eq, pure_eq, liftM_eq] at run
      obtain ⟨u, run⟩ := runs_discardAny_andThen run
      cases hCancellation : failure.isCancellation with
      | true =>
          rw [hCancellation] at run
          obtain ⟨rfl, hEnd⟩ := runs_done_iff.mp run
          exact ⟨_, .cancelled uncut hCancellation, by simpa using congrArg Prod.snd hEnd⟩
      | false =>
          rw [hCancellation] at run
          obtain ⟨next, cancelled, token, recovery, isNext, recovers, rfl⟩ :=
            runs_recover_observed run
          have isNext : Journal.IsNext (transaction.map fun _ => handle).toList.length next := by
            simpa [hPast, uncut.isWork.handles_eq] using isNext
          exact ⟨_, .failed cancelled token uncut hCancellation isNext recovers, by simp⟩

/-- Every attempt on a pipeline leaves one of the journals of attempts, and has
the outcome that belongs to it. -/
theorem Pipeline.runs_attempt_observed {pipeline : Pipeline σ} {strategy : TransactionStrategy σ}
    {message : InboundMessage} {s t : σ} {journal : Journal σ}
    {outcome : Except BusError AttemptOutcome}
    (run : Runs (Journal.Between others cancel)
      (pipeline.observed.attempt message (strategy.observed cancel) cancel.alongside)
      (s, []) outcome (t, journal)) :
    Journal.IsAttempt message (cancel s) journal outcome := by
  simp only [attempt, bind_eq, pure_eq, liftM_eq, runs_observe_andThen_iff] at run
  cases hCancel : cancel s with
  | true =>
      simp only [CancellationToken.alongside, hCancel, if_true, runs_done_iff] at run
      obtain ⟨rfl, hEnd⟩ := run
      obtain rfl : journal = [] := congrArg Prod.snd hEnd
      exact .refused
  | false =>
      simp only [CancellationToken.alongside, hCancel, Bool.false_eq_true, if_false,
        runs_event_andThen_iff] at run
      obtain ⟨transaction, token, u, run⟩ := TransactionStrategy.runs_open_observed run
      rw [Journal.handles_nil, List.length_nil] at run
      have isNext := Journal.IsNext.of_map 0 transaction
      obtain ⟨ended, ⟨v, middle⟩, first, last⟩ := runs_andThen_iff.mp run
      rcases runs_onMessage_observed first with
        ⟨hToken, rfl, rfl⟩ | ⟨hToken, work, uncut, ⟨rfl, rfl⟩ | ⟨value, rfl, rfl⟩⟩
      · simp only [conclude, bind_eq, pure_eq, liftM_eq] at last
        obtain ⟨w, last⟩ := runs_discardAny_andThen last
        obtain ⟨rfl, hEnd⟩ := runs_done_iff.mp last
        obtain rfl := congrArg Prod.snd hEnd
        rw [hToken]
        exact .unbegun isNext
      · simp only [conclude, bind_eq, pure_eq, liftM_eq] at last
        obtain ⟨w, last⟩ := runs_discardAny_andThen last
        obtain ⟨rfl, hEnd⟩ := runs_done_iff.mp last
        obtain rfl := congrArg Prod.snd hEnd
        rw [hToken]
        simpa using Journal.IsAttempt.begun isNext (.cut uncut)
      · rw [hToken] at last
        have last : Runs (Journal.Between others cancel)
            (pipeline.observed.conclude message (strategy.observed cancel) cancel.alongside
              (transaction.map fun t => t.observed 0) (some value))
            (v, [.opened (transaction.map fun _ => 0), .enlisted false,
              .messageBegun (message.context token)] ++ work ++ [.messageEnded value])
            outcome (t, journal) := by
          simpa using last
        obtain ⟨rest, concludes, rfl⟩ := runs_conclude_observed uncut (by simp) last
        exact .begun isNext concludes

/-- A pipeline that gives up control once and then answers the same every
time. -/
def Pipeline.answering (ended : Except Failure Unit) (verdict : Except Failure ErrorVerdict) :
    Pipeline σ where
  onMessage _ _ := .pause (.done ended)
  onError _ _ := .done verdict

namespace Binding

/-- What the host is told of an attempt. -/
def answer : Except BusError AttemptOutcome → Except BusError Unit
  | .error error => .error error
  | .ok .success => .ok ()
  | .ok .handledFailure => .ok ()
  | .ok (.retryRequired cause) => .error (.pipeline cause)

/-- An outcome that is acknowledged leaves the result of the settlement. -/
theorem answer_map {outcome : AttemptOutcome} (hConsumed : outcome.isConsumed = true)
    (result : Except BusError Unit) : answer (result.map fun _ => outcome) = result := by
  cases result with
  | error error => rfl
  | ok value =>
      cases outcome with
      | success => rfl
      | handledFailure => rfl
      | retryRequired cause => cases hConsumed

/-- Processing a message is one attempt, and nothing is done after it. -/
theorem runs_process_iff_attempt {τ : Type} [Host τ] {others : τ → τ → Prop} {binding : Binding τ}
    {message : InboundMessage} {strategy : TransactionStrategy τ} {cancel : CancellationToken τ}
    {s t : τ} {result : Except BusError Unit} :
    Runs others (binding.process message strategy cancel) s result t ↔
      ∃ outcome, Runs others (binding.attempt message strategy cancel) s outcome t ∧
        result = answer outcome := by
  rw [process, bind_eq, runs_andThen_iff]
  constructor
  · rintro ⟨outcome, state, run, told⟩
    have hTold : result = answer outcome ∧ t = state := by
      cases outcome with
      | error error => exact runs_done_iff.mp told
      | ok outcome => cases outcome <;> exact runs_done_iff.mp told
    obtain ⟨hResult, rfl⟩ := hTold
    exact ⟨outcome, run, hResult⟩
  · rintro ⟨outcome, run, rfl⟩
    refine ⟨outcome, t, run, ?_⟩
    cases outcome with
    | error error => exact runs_done_iff.mpr ⟨rfl, rfl⟩
    | ok outcome => cases outcome <;> exact runs_done_iff.mpr ⟨rfl, rfl⟩

theorem processes_iff {binding : Binding σ} {message : InboundMessage}
    {strategy : TransactionStrategy σ} {s t : σ} {journal : Journal σ}
    {result : Except BusError Unit} :
    binding.Processes others message strategy cancel s journal result t ↔
      ∃ outcome, binding.Attempts others message strategy cancel s journal outcome t ∧
        result = answer outcome :=
  runs_process_iff_attempt

/-- A call with a message that has left a journal, for one attempt or to
process the message, and the error with which it has come back, if any. -/
inductive Called (others : σ → σ → Prop) (binding : Binding σ) (message : InboundMessage)
    (strategy : TransactionStrategy σ) (cancel : CancellationToken σ) (s : σ)
    (journal : Journal σ) : Option BusError → Prop where
  | refused {error : BusError} {t : σ}
      (run : binding.Attempts others message strategy cancel s journal (.error error) t) :
      Called others binding message strategy cancel s journal (some error)
  | attempted {outcome : AttemptOutcome} {t : σ}
      (run : binding.Attempts others message strategy cancel s journal (.ok outcome) t) :
      Called others binding message strategy cancel s journal none
  | unprocessed {error : BusError} {t : σ}
      (run : binding.Processes others message strategy cancel s journal (.error error) t) :
      Called others binding message strategy cancel s journal (some error)
  | processed {t : σ}
      (run : binding.Processes others message strategy cancel s journal (.ok ()) t) :
      Called others binding message strategy cancel s journal none

/-- A call with a message to a bound pipeline is one attempt on it, and an
attempt that fails is a call that fails in the same way. -/
theorem Called.isAttempt {pipeline : Pipeline σ} {message : InboundMessage}
    {strategy : TransactionStrategy σ} {s : σ} {journal : Journal σ} {error : Option BusError}
    (called : (receiving pipeline).Called others message strategy cancel s journal error) :
    ∃ outcome, Journal.IsAttempt message (cancel s) journal outcome ∧
      ∀ failed, outcome = .error failed → error = some failed := by
  cases called with
  | refused run =>
      exact ⟨_, Pipeline.runs_attempt_observed run, by rintro failed ⟨⟩; rfl⟩
  | attempted run =>
      exact ⟨_, Pipeline.runs_attempt_observed run, by rintro failed ⟨⟩⟩
  | unprocessed run =>
      obtain ⟨outcome, run, hAnswer⟩ := processes_iff.mp run
      refine ⟨outcome, Pipeline.runs_attempt_observed run, ?_⟩
      rintro failed rfl
      exact congrArg some (Except.error.inj hAnswer)
  | processed run =>
      obtain ⟨outcome, run, hAnswer⟩ := processes_iff.mp run
      refine ⟨outcome, Pipeline.runs_attempt_observed run, ?_⟩
      rintro failed rfl
      cases hAnswer

end Binding

end Attempt

end BusEndpoint

