import BusEndpoint.InMemory.HostState
import BusEndpoint.Proofs.Attempt.Ledger

/-! What becomes of the transactions of a call. Whatever the pipelines and the
strategy answer, wherever the call is cut, and whatever happens to the host
meanwhile, every transaction is released exactly once before the call comes
back, and there are never two of them at a time. -/

namespace BusEndpoint

variable {σ : Type}

/-- How a call keeps its transactions. What is said of a journal up to some
event is said of every moment of the call. -/
structure Journal.KeepsTransactions (journal : Journal σ) : Prop where
  atMostTwo : journal.handles.length ≤ 2
  distinct : journal.handles.Nodup
  releasedOnce : ∀ handle ∈ journal.handles, journal.ReleasedOnce handle
  /-- Nothing is released that has not been opened. -/
  releasedAfterOpened : ∀ past rest : Journal σ, journal = past ++ rest → ∀ handle ∉ past.handles,
    past.commits handle = [] ∧ past.rollbacks handle = 0
  neverTwoOpen : ∀ past rest : Journal σ, journal = past ++ rest → past.openHandles.length ≤ 1
  /-- Whatever was opened before another attempt has been rolled back by
  then, without a commit. -/
  rolledBackBefore : ∀ (past : Journal σ) next rest, journal = past ++ .opened next :: rest →
    ∀ handle ∈ past.handles, past.commits handle = [] ∧ past.rollbacks handle = 1
  completedOnce : journal.completions ≤ 1
  committedAfterCompletion : ∀ (past : Journal σ) handle answer rest,
    journal = past ++ .committed handle answer :: rest →
      .completionEnded (some handle) (.ok ()) ∈ past
  /-- No commit of a transaction follows its rollback or another commit of it. -/
  committedFirst : ∀ (past : Journal σ) handle answer rest,
    journal = past ++ .committed handle answer :: rest →
      past.commits handle = [] ∧ past.rollbacks handle = 0

namespace Ledger

variable {ledger last : Ledger} {journal : Journal σ}

/-- Only the transaction that holds the ledger is open. -/
theorem Tracks.length_openHandles_le (tracks : Tracks ledger journal) :
    journal.openHandles.length ≤ 1 := by
  have hHolder (handle : Nat) (hOpen : handle ∈ journal.openHandles) :
      ledger.holder = some handle := by
    obtain ⟨hHandle, hUnreleased⟩ := List.mem_filter.mp hOpen
    rw [tracks.handles_eq, List.mem_range] at hHandle
    refine Decidable.byContradiction fun hOther => ?_
    have hReleased := (tracks.released handle hHandle hOther).isReleased
    simp [hReleased] at hUnreleased
  have hNodup : journal.openHandles.Nodup := by
    rw [Journal.openHandles, tracks.handles_eq]
    exact List.nodup_range.filter _
  rcases hList : journal.openHandles with _ | ⟨first, _ | ⟨second, others⟩⟩
  · exact Nat.zero_le 1
  · exact Nat.le_refl 1
  · rw [hList] at hHolder hNodup
    have hSame : some first = some second := by
      rw [← hHolder first (by simp), hHolder second (by simp)]
    simp [Option.some.inj hSame] at hNodup

theorem Tracks.mem_handles_iff (tracks : Tracks ledger journal) {handle : Nat} :
    handle ∈ journal.handles ↔ handle < ledger.opened := by
  rw [tracks.handles_eq, List.mem_range]

theorem Tracks.rolledBack_of_opens {next : Option Nat} (tracks : Tracks ledger journal)
    (step : Step ledger (.opened next : AttemptEvent σ) last) {handle : Nat}
    (hHandle : handle ∈ journal.handles) :
    journal.commits handle = [] ∧ journal.rollbacks handle = 1 := by
  have hOpened := tracks.mem_handles_iff.mp hHandle
  cases step with
  | opens isNext =>
      have hCommits := tracks.uncompleted rfl handle
      rcases tracks.released handle hOpened (by simp) with ⟨hCommitted, -⟩ | ⟨-, hRollbacks⟩
      · simp [hCommits] at hCommitted
      · exact ⟨hCommits, hRollbacks⟩
  | aside isAside => simp at isAside

theorem Tracks.completed_of_commits {handle : Nat} {answer : Except Failure Unit}
    (tracks : Tracks ledger journal)
    (step : Step ledger (.committed handle answer : AttemptEvent σ) last) :
    .completionEnded (some handle) (.ok ()) ∈ journal := by
  cases step with
  | commits => exact tracks.completed handle rfl rfl
  | rejects => exact tracks.completed handle rfl rfl
  | aside isAside => simp at isAside

theorem Tracks.unreleased_of_commits {handle : Nat} {answer : Except Failure Unit}
    (tracks : Tracks ledger journal)
    (step : Step ledger (.committed handle answer : AttemptEvent σ) last) :
    journal.commits handle = [] ∧ journal.rollbacks handle = 0 := by
  have unreleased {opened : Nat} (tracks : Tracks ⟨opened, some handle, .completed, 1⟩ journal) :
      journal.commits handle = [] ∧ journal.rollbacks handle = 0 := by
    obtain ⟨-, hRollbacks, hCommits⟩ := tracks.held handle rfl
    exact ⟨hCommits, hRollbacks⟩
  cases step with
  | commits => exact unreleased tracks
  | rejects => exact unreleased tracks
  | aside isAside => simp at isAside

/-- At every moment along a journal there is a ledger that tracks it. -/
theorem Entered.tracks_past {past rest : Journal σ} (entered : Entered initial (past ++ rest) last) :
    ∃ ledger, Tracks ledger past ∧ Entered ledger rest last := by
  obtain ⟨ledger, first, second⟩ := entered_append_iff.mp entered
  exact ⟨ledger, by simpa using tracks_initial.entered first, second⟩

theorem Entered.keepsTransactions (entered : Entered initial journal last) (closed : last.Closed) :
    journal.KeepsTransactions := by
  have tracks : Tracks last journal := by simpa using tracks_initial.entered entered
  constructor
  · rw [tracks.handles_eq, List.length_range]
    exact closed.opened_le
  · rw [tracks.handles_eq]
    exact List.nodup_range
  · intro handle hHandle
    exact tracks.released handle (tracks.mem_handles_iff.mp hHandle) (by simp [closed.unheld])
  · rintro past rest rfl handle hHandle
    obtain ⟨ledger, pastTracks, -⟩ := entered.tracks_past
    exact pastTracks.unopened handle (Nat.le_of_not_lt (mt pastTracks.mem_handles_iff.mpr hHandle))
  · rintro past rest rfl
    obtain ⟨ledger, pastTracks, -⟩ := entered.tracks_past
    exact pastTracks.length_openHandles_le
  · rintro past next rest rfl handle hHandle
    obtain ⟨ledger, pastTracks, later⟩ := entered.tracks_past
    cases later with
    | cons step later => exact pastTracks.rolledBack_of_opens step hHandle
  · rw [tracks.completions_eq]
    exact closed.completions_le
  · rintro past handle answer rest rfl
    obtain ⟨ledger, pastTracks, later⟩ := entered.tracks_past
    cases later with
    | cons step later => exact pastTracks.completed_of_commits step
  · rintro past handle answer rest rfl
    obtain ⟨ledger, pastTracks, later⟩ := entered.tracks_past
    cases later with
    | cons step later => exact pastTracks.unreleased_of_commits step

end Ledger

namespace Binding

variable [Host σ] {others : σ → σ → Prop} {pipeline : Pipeline σ} {message : InboundMessage}
  {strategy : TransactionStrategy σ} {cancel : CancellationToken σ} {s : σ} {journal : Journal σ}
  {error : Option BusError}

/-- Every call with a message to a bound pipeline keeps its transactions. -/
theorem called_keepsTransactions
    (called : (receiving pipeline).Called others message strategy cancel s journal error) :
    journal.KeepsTransactions := by
  obtain ⟨outcome, attempt, -⟩ := called.isAttempt
  obtain ⟨last, closed, entered⟩ := attempt.entered
  exact entered.keepsTransactions closed

/-- A failing message whose failure counts as handled, with transactions that
reject their commits: two are opened. -/
theorem called_keepsTransactions_rejected :
    ∃ (journal : Journal InMemory.HostState) (error : Option BusError),
      (receiving (Pipeline.answering (.error (.application "down")) (.ok .handled))).Called
        Eq ⟨"order-1", [], .empty, 1⟩
        (RecordingTransactions.strategy ⟨InMemory.HostState.transactionRecord "recorded", true⟩)
        (InMemory.HostState.isCancelled "call") {} journal error ∧
      journal.handles = [0, 1] ∧ journal.KeepsTransactions := by
  have called : ∃ journal error,
      (receiving (Pipeline.answering (.error (.application "down")) (.ok .handled))).Called
        Eq ⟨"order-1", [], .empty, 1⟩
        (RecordingTransactions.strategy ⟨InMemory.HostState.transactionRecord "recorded", true⟩)
        (InMemory.HostState.isCancelled "call") {} journal error ∧ journal.handles = [0, 1] :=
    ⟨_, _, .unprocessed (.resumed rfl (Journal.between_intro rfl) (.finished rfl)), rfl⟩
  obtain ⟨journal, error, called, hHandles⟩ := called
  exact ⟨journal, error, called, hHandles, called_keepsTransactions called⟩

end Binding

end BusEndpoint
