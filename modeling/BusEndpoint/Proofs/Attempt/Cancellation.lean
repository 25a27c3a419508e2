import BusEndpoint.InMemory.HostState
import BusEndpoint.Proofs.Attempt.Calls
import BusEndpoint.Proofs.Attempt.Ends
import BusEndpoint.Proofs.Failure
import Mathlib.Data.List.Basic

/-! What a cancelled token does to a call. It cuts the call before anything is
done, or when the message pipeline is resumed; from the end of the message
pipeline on only the answers of the parts count. -/

namespace BusEndpoint

variable {σ : Type}

namespace Journal

/-- The message pipeline has been begun and has not come to its end. -/
def IsHandling (journal : Journal σ) : Prop :=
  (∃ context, .messageBegun context ∈ journal) ∧ ∀ ended, .messageEnded ended ∉ journal

/-- Neither a completion nor the error pipeline is called, and what was opened
for the message pipeline is rolled back. -/
def IsAbandoned (journal : Journal σ) : Prop :=
  (∀ context, .errorBegun context ∉ journal) ∧ (∀ handle, .completionBegun handle ∉ journal) ∧
    ∃ handle, journal.openings = [handle] ∧ ∀ number, handle = some number →
      .rolledBack number ∈ journal

/-- What a cancelled token does to a call, and what it does not. -/
structure HeedsCancellation (cancelled : Bool) (journal : Journal σ) (error : Option BusError) :
    Prop where
  refused : cancelled = true → journal = [] ∧ error = some .cancelled
  /-- The message pipeline is begun unless the token is cancelled by what opens
  the transaction. -/
  begun : cancelled = false → (∃ context, .messageBegun context ∈ journal) ∨
    .enlisted true ∈ journal ∧ journal.IsAbandoned ∧ error = some .cancelled
  /-- A call is left in the middle of the message pipeline exactly when the
  pipeline is resumed and the token is cancelled by then. -/
  cut_iff : journal.IsHandling ↔
    ∃ past rest : Journal σ, journal = past ++ .resumed true :: rest ∧ past.IsHandling
  /-- From then on there is nothing but the rollback. -/
  cut : ∀ past rest : Journal σ, journal = past ++ .resumed true :: rest → past.IsHandling →
    error = some .cancelled ∧ journal.IsAbandoned ∧ ∃ handle, rest = rollback handle
  cancellation : ∀ failure, .messageEnded (.error failure) ∈ journal →
    .bus .cancelled ∈ failure :: failure.sources → error = some .cancelled ∧ journal.IsAbandoned
  succeeded : .messageEnded (.ok ()) ∈ journal → ∃ handle, .completionBegun handle ∈ journal
  failed : ∀ failure, .messageEnded (.error failure) ∈ journal →
    .bus .cancelled ∉ failure :: failure.sources →
      ∃ context, .errorBegun context ∈ journal ∧ context.error = failure
  /-- The error pipeline always comes to its end. -/
  errorUncut : ∀ context, .errorBegun context ∈ journal → ∃ answer, .errorEnded answer ∈ journal

variable {message : InboundMessage} {handle : Option Nat} {journal begun part past rest : Journal σ}
  {outcome : Except BusError AttemptOutcome} {error : Option BusError}

theorem IsUncutWork.resumed_not_mem {work : Journal σ} (uncut : work.IsUncutWork) :
    .resumed true ∉ work := by
  intro hResumed
  rcases uncut _ hResumed with hActed | hFalse
  · cases hActed
  · cases hFalse

/-- A pipeline that came to its end was not resumed in a cancelled call
before. -/
theorem ended_mem_of_resumed {ended : Except Failure Unit} (hBegun : .resumed true ∉ begun)
    (hJournal : begun ++ .messageEnded ended :: part = past ++ .resumed true :: rest) :
    .messageEnded ended ∈ past := by
  rcases List.append_eq_append_iff.mp hJournal with ⟨more, rfl, hMore⟩ | ⟨more, rfl, hMore⟩
  · cases more with
    | nil => cases hMore
    | cons event more =>
        obtain ⟨rfl, -⟩ := List.cons.inj hMore
        simp
  · cases more with
    | nil => cases hMore
    | cons event more =>
        obtain ⟨rfl, -⟩ := List.cons.inj hMore
        simp at hBegun

theorem isAbandoned_of_rollback (handle : Option Nat) (past : Journal σ)
    (hJournal : journal = .opened handle :: (past ++ rollback handle))
    (hError : ∀ context, .errorBegun context ∉ past)
    (hCompletion : ∀ handle, .completionBegun handle ∉ past) (hOpenings : past.openings = []) :
    journal.IsAbandoned := by
  subst hJournal
  have hRollback : (rollback handle : Journal σ).openings = [] :=
    openings_eq_nil all_isOfRecovery_rollback
  refine ⟨?_, ?_, handle, ?_, ?_⟩
  · simp [hError]
  · simp [hCompletion]
  · simp [hOpenings, hRollback]
  · rintro number rfl
    simp

/-- A call whose message pipeline came to its end was not cut, and only what
was answered counts. -/
theorem HeedsCancellation.of_ended {token : TransportToken σ} {ended : Except Failure Unit}
    {work : Journal σ} (uncut : work.IsUncutWork)
    (hJournal : journal = .opened handle :: .enlisted false ::
      .messageBegun (message.context token) :: (work ++ .messageEnded ended :: part))
    (cancellation : ∀ failure, .messageEnded (.error failure) ∈ journal →
      .bus .cancelled ∈ failure :: failure.sources → error = some .cancelled ∧ journal.IsAbandoned)
    (succeeded : .messageEnded (.ok ()) ∈ journal → ∃ handle, .completionBegun handle ∈ journal)
    (failed : ∀ failure, .messageEnded (.error failure) ∈ journal →
      .bus .cancelled ∉ failure :: failure.sources →
        ∃ context, .errorBegun context ∈ journal ∧ context.error = failure)
    (errorUncut : ∀ context, .errorBegun context ∈ journal →
      ∃ answer, .errorEnded answer ∈ journal) :
    journal.HeedsCancellation false error := by
  have hBegun : .resumed true ∉ .opened handle :: .enlisted false ::
      .messageBegun (message.context token) :: work := by
    simp [uncut.resumed_not_mem]
  have hUncut (past rest : Journal σ) (hCut : journal = past ++ .resumed true :: rest) :
      ¬past.IsHandling := by
    intro isHandling
    exact isHandling.2 ended (ended_mem_of_resumed hBegun (hJournal.symm.trans hCut))
  refine ⟨nofun, ?_, ?_, ?_, cancellation, succeeded, failed, errorUncut⟩
  · intro _
    exact .inl ⟨message.context token, by simp [hJournal]⟩
  · constructor
    · rintro ⟨-, hUnended⟩
      exact absurd (by simp [hJournal]) (hUnended ended)
    · rintro ⟨past, rest, hCut, isHandling⟩
      exact absurd isHandling (hUncut past rest hCut)
  · intro past rest hCut isHandling
    exact absurd isHandling (hUncut past rest hCut)

/-- A call whose token is cancelled while its transaction is opened is abandoned
before the message pipeline is begun. -/
theorem HeedsCancellation.of_unbegun (hError : error = some .cancelled) :
    HeedsCancellation false (.opened handle :: .enlisted true :: rollback handle : Journal σ)
      error := by
  have abandoned : IsAbandoned
      (.opened handle :: .enlisted true :: rollback handle : Journal σ) := by
    apply isAbandoned_of_rollback handle [.enlisted true]
    · simp
    · simp
    · simp
    · rfl
  have hUnbegun (context : MessageContext σ) :
      .messageBegun context ∉ .opened handle :: .enlisted true :: rollback handle := by
    simp
  have hUncut (past rest : Journal σ)
      (hCut : .opened handle :: .enlisted true :: rollback handle =
        past ++ .resumed true :: rest) : ¬past.IsHandling := by
    rintro ⟨⟨context, hContext⟩, -⟩
    exact hUnbegun context (hCut ▸ List.mem_append_left _ hContext)
  refine ⟨nofun, ?_, ?_, ?_, ?_, ?_, ?_, ?_⟩
  · intro _
    exact .inr ⟨by simp, abandoned, hError⟩
  · constructor
    · rintro ⟨⟨context, hContext⟩, -⟩
      exact absurd hContext (hUnbegun context)
    · rintro ⟨past, rest, hCut, isHandling⟩
      exact absurd isHandling (hUncut past rest hCut)
  · intro past rest hCut isHandling
    exact absurd isHandling (hUncut past rest hCut)
  · simp
  · simp
  · simp
  · simp

/-- A call that is cut is abandoned at the first resumption that finds its token
cancelled. -/
theorem HeedsCancellation.of_cut {token : TransportToken σ} {work : Journal σ}
    (uncut : work.IsUncutWork) (hError : error = some .cancelled) :
    HeedsCancellation false (.opened handle :: .enlisted false ::
      .messageBegun (message.context token) :: (work ++ .resumed true :: rollback handle)) error := by
  have hWork := uncut.isWork
  have hWorking := hWork.all_isOfRecovery
  have abandoned : IsAbandoned (.opened handle :: .enlisted false ::
      .messageBegun (message.context token) :: (work ++ .resumed true :: rollback handle)) := by
    apply isAbandoned_of_rollback handle
      (.enlisted false :: .messageBegun (message.context token) :: (work ++ [.resumed true]))
    · simp
    · simp [hWork.not_mem]
    · simp [hWork.not_mem]
    · simp [openings_eq_nil hWorking]
  -- The token was not seen cancelled before, and the rollback is no resumption.
  have hPast : .resumed true ∉ .opened handle :: .enlisted false ::
      .messageBegun (message.context token) :: work := by
    simp [uncut.resumed_not_mem]
  have hRest : .resumed true ∉ (rollback handle : Journal σ) := by simp
  refine ⟨nofun, ?_, ?_, ?_, ?_, ?_, ?_, ?_⟩
  · intro _
    exact .inl ⟨message.context token, by simp⟩
  · constructor
    · intro _
      refine ⟨.opened handle :: .enlisted false :: .messageBegun (message.context token) :: work,
        rollback handle, rfl, ⟨message.context token, by simp⟩, by simp [hWork.not_mem]⟩
    · intro _
      exact ⟨⟨message.context token, by simp⟩, by simp [hWork.not_mem]⟩
  · intro past rest hCut _
    obtain ⟨-, -, rfl⟩ := (List.append_cons_inj_of_notMem hPast hRest).mp hCut
    exact ⟨hError, abandoned, handle, rfl⟩
  · simp [hWork.not_mem]
  · simp [hWork.not_mem]
  · simp [hWork.not_mem]
  · simp [hWork.not_mem]

/-- A message pipeline that succeeded is settled. -/
theorem HeedsCancellation.of_succeeded {token : TransportToken σ} {work settlement : Journal σ}
    {result : Except BusError Unit} (uncut : work.IsUncutWork)
    (settles : Settles handle settlement result) :
    HeedsCancellation false (.opened handle :: .enlisted false ::
      .messageBegun (message.context token) :: (work ++ .messageEnded (.ok ()) :: settlement))
      error := by
  have hWork := uncut.isWork
  have hMessage (answer : Except Failure Unit) : .messageEnded answer ∉ settlement :=
    not_mem_of_all settles.all_isOfSettlement rfl
  have hBegun (context : ErrorContext σ) : .errorBegun context ∉ settlement :=
    not_mem_of_all settles.all_isOfSettlement rfl
  apply of_ended uncut rfl
  · simp [hWork.not_mem, hMessage]
  · intro _
    exact ⟨handle, by simp [settles.completionBegun_mem]⟩
  · simp [hWork.not_mem, hMessage]
  · simp [hWork.not_mem, hBegun]

/-- A message pipeline that ended with a cancellation is abandoned, whatever has
become of the token. -/
theorem HeedsCancellation.of_cancelled {token : TransportToken σ} {work : Journal σ}
    {failure : Failure} (uncut : work.IsUncutWork) (cancellation : failure.isCancellation = true)
    (hError : error = some .cancelled) :
    HeedsCancellation false (.opened handle :: .enlisted false ::
      .messageBegun (message.context token) ::
        (work ++ .messageEnded (.error failure) :: rollback handle)) error := by
  have hWork := uncut.isWork
  have abandoned : IsAbandoned (.opened handle :: .enlisted false ::
      .messageBegun (message.context token) ::
        (work ++ .messageEnded (.error failure) :: rollback handle)) := by
    apply isAbandoned_of_rollback handle (.enlisted false ::
      .messageBegun (message.context token) :: (work ++ [.messageEnded (.error failure)]))
    · simp
    · simp [hWork.not_mem]
    · simp [hWork.not_mem]
    · simp [openings_eq_nil hWork.all_isOfRecovery]
  apply of_ended uncut rfl
  · intro _ _ _
    exact ⟨hError, abandoned⟩
  · simp [hWork.not_mem]
  · intro other hOther genuine
    obtain rfl : other = failure := by simpa [hWork.not_mem] using hOther
    exact absurd (Failure.isCancellation_iff.mp cancellation) genuine
  · simp [hWork.not_mem]

/-- Any other failure reaches the error pipeline, cancelled token or not, and the
error pipeline comes to its end. -/
theorem HeedsCancellation.of_failed {token second : TransportToken σ} {cancelled : Bool}
    {work recovery : Journal σ} {failure : Failure} {next : Option Nat} (uncut : work.IsUncutWork)
    (genuine : failure.isCancellation = false) (recovers : Recovers failure next recovery outcome) :
    HeedsCancellation false (.opened handle :: .enlisted false ::
      .messageBegun (message.context token) ::
        (work ++ .messageEnded (.error failure) :: (rollback handle ++ .opened next ::
          .enlisted cancelled :: .errorBegun (message.errorContext failure second) :: recovery)))
      error := by
  have hWork := uncut.isWork
  have hMessage (answer : Except Failure Unit) : .messageEnded answer ∉ recovery :=
    not_mem_of_all recovers.all_isOfRecovery rfl
  obtain ⟨answer, hAnswer⟩ := recovers.errorEnded_mem
  apply of_ended uncut rfl
  · intro other hOther cancellation
    obtain rfl : other = failure := by simpa [hWork.not_mem, hMessage] using hOther
    rw [Failure.isCancellation_iff.mpr cancellation] at genuine
    cases genuine
  · simp [hWork.not_mem, hMessage]
  · intro other hOther _
    obtain rfl : other = failure := by simpa [hWork.not_mem, hMessage] using hOther
    exact ⟨message.errorContext other second, by simp, rfl⟩
  · intro _ _
    exact ⟨answer, by simp [hAnswer]⟩

theorem IsAttempt.heedsCancellation {cancelled : Bool}
    (attempt : IsAttempt message cancelled journal outcome)
    (hError : ∀ failed, outcome = .error failed → error = some failed) :
    journal.HeedsCancellation cancelled error := by
  cases attempt with
  | refused =>
      have hError := hError .cancelled rfl
      exact ⟨fun _ => ⟨rfl, hError⟩, nofun, by simp [IsHandling], by simp, by simp, by simp, by simp,
        by simp⟩
  | unbegun isNext => exact .of_unbegun (hError .cancelled rfl)
  | begun isNext concludes =>
      cases concludes with
      | cut uncut => exact .of_cut uncut (hError .cancelled rfl)
      | succeeded uncut settles => exact .of_succeeded uncut settles
      | cancelled uncut cancellation => exact .of_cancelled uncut cancellation (hError .cancelled rfl)
      | failed cancelled second uncut genuine isNext recovers =>
          rw [List.append_assoc, List.cons_append]
          exact .of_failed uncut genuine recovers

end Journal

namespace Binding

open BusEndpoint.Task

variable [Host σ] {others : σ → σ → Prop} {pipeline : Pipeline σ} {message : InboundMessage}
  {strategy : TransactionStrategy σ} {cancel : CancellationToken σ} {s : σ}

/-- Every call with a message to a bound pipeline heeds the cancellation of its
token, whenever and by whomever it is cancelled. It comes back if it is refused,
and otherwise if its parts do. -/
theorem called_heedsCancellation :
    (cancel s = true ∨ pipeline.PartsEnd others strategy cancel →
      (receiving pipeline).ComesBack others message strategy cancel s) ∧
    ∀ journal error,
      (receiving pipeline).Called others message strategy cancel s journal error →
      journal.HeedsCancellation (cancel s) error := by
  refine ⟨comesBack, ?_⟩
  intro journal error called
  obtain ⟨outcome, attempt, hError⟩ := called.isAttempt
  exact attempt.heedsCancellation hError

/-- A call that is cancelled while its message pipeline has given up control. -/
theorem called_heedsCancellation_cut :
    (∀ s, (receiving (Pipeline.answering (.ok ()) (.ok .handled))).ComesBack
      (fun h h' => h' = { h with cancelled := ["call"] }) ⟨"order-1", [], .empty, 1⟩
      (RecordingTransactions.strategy ⟨InMemory.HostState.transactionRecord "recorded", false⟩)
      (InMemory.HostState.isCancelled "call") s) ∧
    ∃ journal : Journal InMemory.HostState,
      (receiving (Pipeline.answering (.ok ()) (.ok .handled))).Called
        (fun h h' => h' = { h with cancelled := ["call"] }) ⟨"order-1", [], .empty, 1⟩
        (RecordingTransactions.strategy ⟨InMemory.HostState.transactionRecord "recorded", false⟩)
        (InMemory.HostState.isCancelled "call") {} journal (some .cancelled) ∧
      journal.HeedsCancellation false (some .cancelled) := by
  have parts : (Pipeline.answering (.ok ()) (.ok .handled)).PartsEnd
      (fun h h' => h' = { h with cancelled := ["call"] })
      (RecordingTransactions.strategy ⟨InMemory.HostState.transactionRecord "recorded", false⟩)
      (InMemory.HostState.isCancelled "call") := by
    apply Pipeline.partsEnd_of_cancelled
    · rintro _ _ rfl
      rfl
    · intro _ _
      exact ends_of_finished rfl
    · intro transaction s
      exact RecordingTransactions.complete_ends _ transaction s
  have called : ∃ journal : Journal InMemory.HostState,
      (receiving (Pipeline.answering (.ok ()) (.ok .handled))).Called
        (fun h h' => h' = { h with cancelled := ["call"] }) ⟨"order-1", [], .empty, 1⟩
        (RecordingTransactions.strategy ⟨InMemory.HostState.transactionRecord "recorded", false⟩)
        (InMemory.HostState.isCancelled "call") {} journal (some .cancelled) :=
    ⟨_, .refused (.resumed rfl (Journal.between_intro rfl) (.finished rfl))⟩
  obtain ⟨journal, called⟩ := called
  exact ⟨fun s => called_heedsCancellation.1 (.inr parts),
    journal, called, called_heedsCancellation.2 journal _ called⟩

end Binding

end BusEndpoint
