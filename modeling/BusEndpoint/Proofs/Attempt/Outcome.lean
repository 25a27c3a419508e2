import BusEndpoint.InMemory.HostState
import BusEndpoint.Proofs.Attempt.Calls
import BusEndpoint.Proofs.Attempt.Erasure
import BusEndpoint.Proofs.Attempt.Ledger

/-! What the host is told of a message. Its pipeline comes to its end unless the
call is cancelled. The five parts of an attempt that can fail are the two
pipelines, the completion, the commit, and the caller who cancels; what they
answered decides the result, and which parts are called at all. -/

namespace BusEndpoint

variable {σ : Type}

namespace Journal

/-- A transaction was completed and committed. Where there is none there is
nothing to commit. -/
def Commits (journal : Journal σ) (handle : Option Nat) : Prop :=
  .completionEnded handle (.ok ()) ∈ journal ∧
    ∀ number, handle = some number → .committed number (.ok ()) ∈ journal

/-- How a cancellation leaves a call before its message pipeline has come to an
end. -/
inductive IsCut (message : InboundMessage) : Journal σ → Prop where
  /-- The token is cancelled by what opens the transaction. -/
  | unbegun (handle : Option Nat) :
      IsCut message (.opened handle :: .enlisted true :: rollback handle)
  /-- The message pipeline is resumed when the token is cancelled. -/
  | resumed {handle : Option Nat} {token : TransportToken σ} {work : Journal σ}
      (uncut : work.IsUncutWork) :
      IsCut message (.opened handle :: .enlisted false ::
        .messageBegun (message.context token) :: (work ++ .resumed true :: rollback handle))

/-- The message pipeline was called with the message under the first transaction,
and went on until it ended with this answer. -/
def Answers (message : InboundMessage) (ended : Except Failure Unit) (journal : Journal σ) :
    Prop :=
  ∃ handle token work later, IsUncutWork work ∧ journal = .opened handle :: .enlisted false ::
    .messageBegun (message.context token) :: (work ++ .messageEnded ended :: later)

/-- What is to be said of a message on which the message pipeline ended with an
answer. -/
structure Decides (message : InboundMessage) (ended : Except Failure Unit) (journal : Journal σ)
    (result : Except BusError Unit) : Prop where
  endedOnce : ∀ other, .messageEnded other ∈ journal → other = ended
  ok_iff : result = .ok () ↔
    (ended = .ok () ∧ ∃ first, journal.openings = [first] ∧ journal.Commits first) ∨
      ∃ failure first second, ended = .error failure ∧ failure.isCancellation = false ∧
        journal.openings = [first, second] ∧ .errorEnded (.ok .handled) ∈ journal ∧
        journal.Commits second
  error_iff : ∀ error, result = .error error ↔
    (∃ handle, .completionEnded handle (.error error) ∈ journal) ∨
    (∃ handle failure, .committed handle (.error failure) ∈ journal ∧
      error = .transaction failure.message) ∨
    (∃ failure, ended = .error failure ∧ .errorEnded (.ok .retryRequired) ∈ journal ∧
      error = .pipeline failure) ∨
    (∃ failure, .errorEnded (.error failure) ∈ journal ∧ error = .errorPipeline failure) ∨
    ∃ failure, ended = .error failure ∧ failure.isCancellation = true ∧ error = .cancelled
  errorCall_iff : (∃ context, .errorBegun context ∈ journal) ↔
    ∃ failure, ended = .error failure ∧ failure.isCancellation = false
  errorCalledOnce : journal.errorCalls ≤ 1
  errorContext : ∀ context, .errorBegun context ∈ journal →
    ended = .error context.error ∧ context.messageId = message.id ∧
      context.headers = message.headers ∧ context.body = message.body ∧
      context.deliveryCount = message.deliveryCount
  completion_iff : (∃ handle, .completionBegun handle ∈ journal) ↔
    ended = .ok () ∨ .errorEnded (.ok .handled) ∈ journal
  completedOnce : journal.completions ≤ 1

variable {message : InboundMessage} {failure : Failure} {handle : Option Nat} {part : Journal σ}
  {event : AttemptEvent σ}

/-- A settlement that succeeds is one that commits. -/
theorem Settles.ok_iff {result : Except BusError Unit} (settles : Settles handle part result) :
    result = .ok () ↔ part.Commits handle := by
  cases settles with
  | incomplete hWork => simp [Commits, hWork.not_mem]
  | withoutTransaction hWork => simp [Commits]
  | committed hWork => simp [Commits]
  | rejected hWork => simp [Commits, hWork.not_mem]

/-- A settlement fails with what its completion or its commit failed with. -/
theorem Settles.error_iff {result : Except BusError Unit} (settles : Settles handle part result)
    (error : BusError) :
    result = .error error ↔
      (∃ handle, .completionEnded handle (.error error) ∈ part) ∨
        ∃ handle failure, .committed handle (.error failure) ∈ part ∧
          error = .transaction failure.message := by
  cases settles with
  | incomplete hWork => simp [hWork.not_mem, eq_comm]
  | withoutTransaction hWork => simp [hWork.not_mem]
  | committed hWork => simp [hWork.not_mem]
  | rejected hWork => simp [hWork.not_mem, eq_comm, and_assoc]

section Recovers

variable {outcome : Except BusError AttemptOutcome}

/-- A failure is acknowledged if it was handled and its settlement committed. -/
theorem Recovers.ok_iff (recovers : Recovers failure handle part outcome) :
    Binding.answer outcome = .ok () ↔ .errorEnded (.ok .handled) ∈ part ∧ part.Commits handle := by
  cases recovers with
  | broken hWork => simp [Binding.answer, hWork.not_mem]
  | retryRequired hWork => simp [Binding.answer, hWork.not_mem]
  | @handled work settlement result hWork settles =>
      have hCommits : (work ++ .errorEnded (.ok .handled) :: settlement).Commits handle ↔
          settlement.Commits handle := by
        simp [Commits, hWork.not_mem]
      rw [hCommits, ← settles.ok_iff]
      cases result <;> simp [Binding.answer, Except.map]

theorem Recovers.error_iff (recovers : Recovers failure handle part outcome) (error : BusError) :
    Binding.answer outcome = .error error ↔
      (∃ handle, .completionEnded handle (.error error) ∈ part) ∨
      (∃ handle failure, .committed handle (.error failure) ∈ part ∧
        error = .transaction failure.message) ∨
      (.errorEnded (.ok .retryRequired) ∈ part ∧ error = .pipeline failure) ∨
      ∃ failure, .errorEnded (.error failure) ∈ part ∧ error = .errorPipeline failure := by
  cases recovers with
  | broken hWork => simp [Binding.answer, hWork.not_mem, eq_comm]
  | retryRequired hWork => simp [Binding.answer, hWork.not_mem, eq_comm]
  | @handled work settlement result hWork settles =>
      have hError : Binding.answer (result.map fun _ => .handledFailure) = .error error ↔
          result = .error error := by
        cases result <;> simp [Binding.answer, Except.map]
      have hEnded (answer : Except Failure ErrorVerdict) : .errorEnded answer ∉ settlement :=
        not_mem_of_all settles.all_isOfSettlement rfl
      rw [hError, settles.error_iff]
      simp [hWork.not_mem, hEnded]

theorem Recovers.completion_iff (recovers : Recovers failure handle part outcome) :
    (∃ handle, .completionBegun handle ∈ part) ↔ .errorEnded (.ok .handled) ∈ part := by
  cases recovers with
  | broken hWork => simp [hWork.not_mem]
  | retryRequired hWork => simp [hWork.not_mem]
  | handled hWork settles =>
      have hBegun := settles.completionBegun_mem
      simp only [List.mem_append, List.mem_cons, true_or, or_true, iff_true]
      exact ⟨_, .inr (.inr hBegun)⟩

end Recovers

section Decides

variable {ended : Except Failure Unit} {outcome : Except BusError AttemptOutcome}

@[simp] theorem answer_map_success (result : Except BusError Unit) :
    Binding.answer (result.map fun _ => .success) = result :=
  Binding.answer_map rfl result

/-- A message whose pipeline succeeded is settled, and its result is that of
the settlement. -/
theorem Settles.decides {token : TransportToken σ} {work settlement : Journal σ}
    {result : Except BusError Unit} (hWork : work.IsWork) (settles : Settles handle settlement result)
    (hCompletions : completions (.opened handle :: .enlisted false ::
      .messageBegun (message.context token) :: (work ++ .messageEnded (.ok ()) :: settlement)) ≤ 1) :
    Decides message (.ok ()) (.opened handle :: .enlisted false ::
      .messageBegun (message.context token) :: (work ++ .messageEnded (.ok ()) :: settlement))
      result := by
  have hSettlement := settles.all_isOfSettlement
  have hMessage (answer : Except Failure Unit) : .messageEnded answer ∉ settlement :=
    not_mem_of_all hSettlement rfl
  have hBegun (context : ErrorContext σ) : .errorBegun context ∉ settlement :=
    not_mem_of_all hSettlement rfl
  have hAnswer (answer : Except Failure ErrorVerdict) : .errorEnded answer ∉ settlement :=
    not_mem_of_all hSettlement rfl
  have hWorking := hWork.all_isOfRecovery
  have hSettling := settles.all_isOfRecovery
  refine ⟨?_, ?_, ?_, ?_, ?_, ?_, ?_, hCompletions⟩
  · simp [hWork.not_mem, hMessage]
  · rw [settles.ok_iff]
    simp [Commits, hWork.not_mem, openings_eq_nil hWorking, openings_eq_nil hSettling]
  · intro error
    rw [settles.error_iff]
    simp [hWork.not_mem, hAnswer]
  · simp [hWork.not_mem, hBegun]
  · simp [errorCalls_eq_zero hWorking, errorCalls_eq_zero hSettling]
  · simp [hWork.not_mem, hBegun]
  · simp [hWork.not_mem, hAnswer]
    exact ⟨_, settles.completionBegun_mem⟩

/-- A message whose pipeline ended with a cancellation is cancelled. -/
theorem decides_cancelled {token : TransportToken σ} {work : Journal σ} (hWork : work.IsWork)
    (cancellation : failure.isCancellation = true)
    (hCompletions : completions (.opened handle :: .enlisted false ::
      .messageBegun (message.context token) ::
        (work ++ .messageEnded (.error failure) :: rollback handle)) ≤ 1) :
    Decides message (.error failure) (.opened handle :: .enlisted false ::
      .messageBegun (message.context token) ::
        (work ++ .messageEnded (.error failure) :: rollback handle)) (.error .cancelled) := by
  have hWorking := hWork.all_isOfRecovery
  have hRollback : (rollback handle : Journal σ).errorCalls = 0 :=
    errorCalls_eq_zero all_isOfRecovery_rollback
  refine ⟨?_, ?_, ?_, ?_, ?_, ?_, ?_, hCompletions⟩
  · simp [hWork.not_mem]
  · simp [cancellation]
  · intro error
    simpa [hWork.not_mem, cancellation] using eq_comm
  · simp [hWork.not_mem, cancellation]
  · simp [errorCalls_eq_zero hWorking, hRollback]
  · simp [hWork.not_mem]
  · simp [hWork.not_mem]

/-- A message whose pipeline failed has the result of its recovery. -/
theorem Recovers.decides {token next : TransportToken σ} {cancelled : Bool} {second : Option Nat}
    {work recovery : Journal σ} {outcome : Except BusError AttemptOutcome}
    (hWork : work.IsWork) (genuine : failure.isCancellation = false)
    (recovers : Recovers failure second recovery outcome)
    (hCompletions : completions (.opened handle :: .enlisted false ::
      .messageBegun (message.context token) ::
        (work ++ .messageEnded (.error failure) :: rollback handle ++ .opened second ::
          .enlisted cancelled :: .errorBegun (message.errorContext failure next) :: recovery)) ≤ 1) :
    Decides message (.error failure) (.opened handle :: .enlisted false ::
      .messageBegun (message.context token) ::
        (work ++ .messageEnded (.error failure) :: rollback handle ++ .opened second ::
          .enlisted cancelled :: .errorBegun (message.errorContext failure next) :: recovery))
      (Binding.answer outcome) := by
  have hRecovery := recovers.all_isOfRecovery
  have hMessage (answer : Except Failure Unit) : .messageEnded answer ∉ recovery :=
    not_mem_of_all hRecovery rfl
  have hBegun (context : ErrorContext σ) : .errorBegun context ∉ recovery :=
    not_mem_of_all hRecovery rfl
  have hWorking := hWork.all_isOfRecovery
  have hRollback : (rollback handle : Journal σ).all AttemptEvent.isOfRecovery = true :=
    all_isOfRecovery_rollback
  refine ⟨?_, ?_, ?_, ?_, ?_, ?_, ?_, hCompletions⟩
  · simp [hWork.not_mem, hMessage]
  · rw [recovers.ok_iff]
    simp [Commits, hWork.not_mem, genuine, openings_eq_nil hWorking, openings_eq_nil hRecovery,
      openings_eq_nil hRollback, and_assoc]
  · intro error
    rw [recovers.error_iff]
    simp [hWork.not_mem, genuine]
  · simp [hWork.not_mem, hBegun, genuine]
  · simp [errorCalls_eq_zero hWorking, errorCalls_eq_zero hRecovery, errorCalls_eq_zero hRollback]
  · simp [hWork.not_mem, hBegun, InboundMessage.errorContext]
  · simp [hWork.not_mem, ← recovers.completion_iff]

/-- An attempt that is not refused is cut, or its message pipeline answers. -/
theorem IsAttempt.isCut_or_answers (attempt : IsAttempt message false part outcome) :
    part.IsCut message ∧ outcome = .error .cancelled ∨ ∃ ended, part.Answers message ended := by
  cases attempt with
  | unbegun isNext => exact .inl ⟨.unbegun _, rfl⟩
  | begun isNext concludes =>
      cases concludes with
      | cut uncut => exact .inl ⟨.resumed uncut, rfl⟩
      | succeeded uncut settles => exact .inr ⟨_, _, _, _, _, uncut, rfl⟩
      | cancelled uncut cancellation => exact .inr ⟨_, _, _, _, _, uncut, rfl⟩
      | failed cancelled token uncut genuine isNext recovers =>
          rw [List.append_assoc, List.cons_append]
          exact .inr ⟨_, _, _, _, _, uncut, rfl⟩

theorem Answers.messageEnded_mem (answers : part.Answers message ended) :
    .messageEnded ended ∈ part := by
  obtain ⟨handle, token, work, later, -, rfl⟩ := answers
  simp

theorem IsAttempt.decides {cancelled : Bool} {ended : Except Failure Unit}
    {outcome : Except BusError AttemptOutcome} (attempt : IsAttempt message cancelled part outcome)
    (hEnded : .messageEnded ended ∈ part) :
    part.Decides message ended (Binding.answer outcome) := by
  have hCompletions := attempt.completions_le
  cases attempt with
  | refused => simp at hEnded
  | unbegun isNext => simp at hEnded
  | begun isNext concludes =>
      cases concludes with
      | cut uncut => simp [uncut.isWork.not_mem] at hEnded
      | succeeded uncut settles =>
          have decides := settles.decides uncut.isWork hCompletions
          rw [answer_map_success, decides.endedOnce ended hEnded]
          exact decides
      | cancelled uncut cancellation =>
          have decides := decides_cancelled uncut.isWork cancellation hCompletions
          rw [decides.endedOnce ended hEnded]
          exact decides
      | failed cancelled token uncut genuine isNext recovers =>
          have decides := recovers.decides uncut.isWork genuine hCompletions
          rw [decides.endedOnce ended hEnded]
          exact decides

end Decides

end Journal

namespace Binding

open BusEndpoint.Task

variable [Host σ] {others : σ → σ → Prop} {pipeline : Pipeline σ} {message : InboundMessage}
  {strategy : TransactionStrategy σ} {cancel : CancellationToken σ} {s : σ}

/-- A call to process a message comes back if its parts do, and each of its runs leaves
a journal. Unless it is cancelled when it is made, or cut by a cancellation, its
message pipeline is called and comes to its end, and what the parts answer decides its
result. -/
theorem processes_decides :
    (pipeline.PartsEnd others strategy cancel →
      Ends others ((receiving pipeline).process message strategy cancel) s) ∧
    (∀ result t, Runs others ((receiving pipeline).process message strategy cancel) s result t ↔
      ∃ journal,
        (receiving pipeline).Processes others message strategy cancel s journal result t) ∧
    (cancel s = false → ∀ journal result t,
      (receiving pipeline).Processes others message strategy cancel s journal result t →
      journal.IsCut message ∧ result = .error .cancelled ∨
        ∃ ended, journal.Answers message ended ∧ journal.Decides message ended result) ∧
    ∀ journal result t ended,
      (receiving pipeline).Processes others message strategy cancel s journal result t →
      .messageEnded ended ∈ journal → journal.Decides message ended result := by
  have decides (journal : Journal σ) (result : Except BusError Unit) (t : σ)
      (ended : Except Failure Unit)
      (run : (receiving pipeline).Processes others message strategy cancel s journal result t)
      (hEnded : .messageEnded ended ∈ journal) : journal.Decides message ended result := by
    obtain ⟨outcome, attempts, rfl⟩ := processes_iff.mp run
    exact (Pipeline.runs_attempt_observed attempts).decides hEnded
  refine ⟨fun parts => (comesBack (.inr parts)).process, fun _ _ => runs_process_iff, ?_, decides⟩
  intro hGoing journal result t run
  obtain ⟨outcome, attempts, rfl⟩ := processes_iff.mp run
  have attempt := Pipeline.runs_attempt_observed attempts
  rw [hGoing] at attempt
  rcases attempt.isCut_or_answers with ⟨isCut, rfl⟩ | ⟨ended, answers⟩
  · exact .inl ⟨isCut, rfl⟩
  · exact .inr ⟨ended, answers, decides journal _ t ended run answers.messageEnded_mem⟩

/-- A failing message whose failure counts as handled is acknowledged. -/
theorem processes_decides_handled :
    (∀ s, Ends Eq
      ((receiving (Pipeline.answering (.error (.application "down")) (.ok .handled))).process
        ⟨"order-1", [123, 125], .empty, 2⟩
        (RecordingTransactions.strategy ⟨InMemory.HostState.transactionRecord "recorded", false⟩)
        (InMemory.HostState.isCancelled "call")) s) ∧
    ∃ (journal : Journal InMemory.HostState) (t : InMemory.HostState),
      (receiving (Pipeline.answering (.error (.application "down")) (.ok .handled))).Processes
        Eq ⟨"order-1", [123, 125], .empty, 2⟩
        (RecordingTransactions.strategy ⟨InMemory.HostState.transactionRecord "recorded", false⟩)
        (InMemory.HostState.isCancelled "call") {} journal (.ok ()) t ∧
      journal.Answers ⟨"order-1", [123, 125], .empty, 2⟩ (.error (.application "down")) ∧
      journal.Decides ⟨"order-1", [123, 125], .empty, 2⟩ (.error (.application "down"))
        (.ok ()) := by
  have parts : (Pipeline.answering (.error (.application "down")) (.ok .handled)).PartsEnd Eq
      (RecordingTransactions.strategy ⟨InMemory.HostState.transactionRecord "recorded", false⟩)
      (InMemory.HostState.isCancelled "call") := by
    apply Pipeline.partsEnd_of_ends
    · intro _ _
      exact ends_pause_iff.mpr fun _ _ => ends_of_finished rfl
    · intro _ _
      exact ends_of_finished rfl
    · intro transaction s
      exact RecordingTransactions.complete_ends _ transaction s
  have processed : ∃ journal t,
      (receiving (Pipeline.answering (.error (.application "down")) (.ok .handled))).Processes
        Eq ⟨"order-1", [123, 125], .empty, 2⟩
        (RecordingTransactions.strategy ⟨InMemory.HostState.transactionRecord "recorded", false⟩)
        (InMemory.HostState.isCancelled "call") {} journal (.ok ()) t ∧
      ∃ opened enlisted begun resumed rest, journal = opened :: enlisted :: begun :: resumed ::
        .messageEnded (.error (.application "down")) :: rest :=
    ⟨_, _, .resumed rfl (Journal.between_intro rfl) (.finished rfl), _, _, _, _, _, rfl⟩
  obtain ⟨journal, t, run, opened, enlisted, begun, resumed, rest, hJournal⟩ := processed
  have hEnded : .messageEnded (.error (.application "down")) ∈ journal := by simp [hJournal]
  have decides := processes_decides.2.2.2 journal _ t _ run hEnded
  refine ⟨fun s => processes_decides.1 parts, journal, t, run, ?_, decides⟩
  obtain ⟨-, hResult⟩ | ⟨ended, answers, -⟩ := processes_decides.2.2.1 rfl journal _ t run
  · cases hResult
  · rw [← decides.endedOnce ended answers.messageEnded_mem]
    exact answers

end Binding

end BusEndpoint
