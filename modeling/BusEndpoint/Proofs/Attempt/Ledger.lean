import BusEndpoint.Proofs.Attempt.Protocol

/-! A ledger of the transactions of an attempt. It is kept along a journal, and
it has no entry for an event that the transactions do not allow when it
happens. The journals of attempts can be entered, whatever their parts
answered. -/

namespace BusEndpoint

variable {σ : Type}

namespace AttemptEvent

/-- An event that is no matter of transactions. -/
@[simp] def isAside : AttemptEvent σ → Bool
  | opened _ | completionBegun _ | completionEnded _ _ | committed _ _ | rolledBack _ => false
  | _ => true

/-- An event at which nothing is opened or released. -/
@[simp] def isQuiet : AttemptEvent σ → Bool
  | opened _ | committed _ _ | rolledBack _ => false
  | _ => true

theorem isQuiet_of_isAside {event : AttemptEvent σ} (isAside : event.isAside = true) :
    event.isQuiet = true ∧ event.isCompletion = false := by
  cases event <;> simp at isAside ⊢

end AttemptEvent

namespace Journal

/-- A transaction is released in one of two ways: it was committed and never
rolled back, or it was rolled back once and none of its commits was accepted, of
which there was one at most. -/
def ReleasedOnce (journal : Journal σ) (handle : Nat) : Prop :=
  (journal.commits handle = [.ok ()] ∧ journal.rollbacks handle = 0) ∨
    ((journal.commits handle = [] ∨ ∃ failure, journal.commits handle = [.error failure]) ∧
      journal.rollbacks handle = 1)

theorem ReleasedOnce.isReleased {journal : Journal σ} {handle : Nat}
    (released : journal.ReleasedOnce handle) : journal.isReleased handle = true := by
  rcases released with ⟨hCommits, -⟩ | ⟨-, hRollbacks⟩
  · rw [Journal.isReleased, hCommits]
    rfl
  · rw [Journal.isReleased, hRollbacks]
    exact Bool.or_true _

section Quiet

variable {journal : Journal σ} {event : AttemptEvent σ}

theorem handles_concat_quiet (isQuiet : event.isQuiet = true) :
    (journal ++ [event]).handles = journal.handles := by
  cases event <;> simp at isQuiet ⊢

theorem commits_concat_quiet (isQuiet : event.isQuiet = true) (handle : Nat) :
    (journal ++ [event]).commits handle = journal.commits handle := by
  cases event <;> simp at isQuiet ⊢

theorem rollbacks_concat_quiet (isQuiet : event.isQuiet = true) (handle : Nat) :
    (journal ++ [event]).rollbacks handle = journal.rollbacks handle := by
  cases event <;> simp at isQuiet ⊢

end Quiet

theorem releasedOnce_concat_iff {journal : Journal σ} {event : AttemptEvent σ} {handle : Nat}
    (hAnswer : event.answerTo? handle = none) (hRollback : event.isRollbackOf handle = false) :
    (journal ++ [event]).ReleasedOnce handle ↔ journal.ReleasedOnce handle := by
  have hCommits : (journal ++ [event]).commits handle = journal.commits handle := by
    rw [commits_append, commits_cons, hAnswer]
    exact List.append_nil _
  have hRollbacks : (journal ++ [event]).rollbacks handle = journal.rollbacks handle := by
    rw [rollbacks_append, rollbacks_cons, hRollback]
    rfl
  rw [ReleasedOnce, ReleasedOnce, hCommits, hRollbacks]

end Journal

/-- How far the open transaction has come. -/
inductive Stage where
  | fresh
  /-- Its completion has succeeded, and it has not been committed. -/
  | completed
  /-- Its commit was rejected. -/
  | rejected
deriving DecidableEq

/-- What the commits of an open transaction have answered so far. -/
def Stage.Admits : Stage → List (Except Failure Unit) → Prop
  | rejected, answers => ∃ failure, answers = [.error failure]
  | _, answers => answers = []

structure Ledger where
  /-- How many transactions have been opened. -/
  opened : Nat
  /-- The transaction that is open. -/
  holder : Option Nat
  stage : Stage
  completions : Nat

namespace Ledger

def initial : Ledger := ⟨0, none, .fresh, 0⟩

/-- The entries of a ledger. A transaction is opened while none is open and
none has been completed, it is committed after its completion has succeeded,
and it is rolled back unless it waits for its commit. -/
inductive Step : Ledger → AttemptEvent σ → Ledger → Prop where
  | opens {opened : Nat} {handle : Option Nat} (isNext : Journal.IsNext opened handle) :
      Step ⟨opened, none, .fresh, 0⟩ (.opened handle)
        ⟨opened + handle.toList.length, handle, .fresh, 0⟩
  | completes {opened : Nat} {holder : Option Nat} :
      Step ⟨opened, holder, .fresh, 0⟩ (.completionBegun holder) ⟨opened, holder, .fresh, 1⟩
  | completed {opened : Nat} {holder : Option Nat} :
      Step ⟨opened, holder, .fresh, 1⟩ (.completionEnded holder (.ok ()))
        ⟨opened, holder, .completed, 1⟩
  | incomplete {opened : Nat} {holder : Option Nat} {error : BusError} :
      Step ⟨opened, holder, .fresh, 1⟩ (.completionEnded holder (.error error))
        ⟨opened, holder, .fresh, 1⟩
  | commits {opened handle : Nat} :
      Step ⟨opened, some handle, .completed, 1⟩ (.committed handle (.ok ()))
        ⟨opened, none, .completed, 1⟩
  | rejects {opened handle : Nat} {failure : Failure} :
      Step ⟨opened, some handle, .completed, 1⟩ (.committed handle (.error failure))
        ⟨opened, some handle, .rejected, 1⟩
  | rollsBack {opened handle completions : Nat} {stage : Stage}
      (notCompleted : stage ≠ .completed) :
      Step ⟨opened, some handle, stage, completions⟩ (.rolledBack handle)
        ⟨opened, none, stage, completions⟩
  | aside {ledger : Ledger} {event : AttemptEvent σ} (isAside : event.isAside = true) :
      Step ledger event ledger

/-- The entries that are made for a journal. -/
inductive Entered : Ledger → Journal σ → Ledger → Prop where
  | nil {ledger : Ledger} : Entered ledger [] ledger
  | cons {ledger middle last : Ledger} {event : AttemptEvent σ} {rest : Journal σ}
      (step : Step ledger event middle) (later : Entered middle rest last) :
      Entered ledger (event :: rest) last

variable {ledger middle last : Ledger} {event : AttemptEvent σ} {journal rest : Journal σ}

theorem entered_append_iff :
    Entered ledger (journal ++ rest) last ↔
      ∃ middle, Entered ledger journal middle ∧ Entered middle rest last := by
  induction journal generalizing ledger with
  | nil =>
      constructor
      · intro entered
        exact ⟨ledger, .nil, entered⟩
      · rintro ⟨middle, entered, later⟩
        cases entered with
        | nil => exact later
  | cons event journal ih =>
      constructor
      · intro entered
        cases entered with
        | cons step later =>
            obtain ⟨middle, first, second⟩ := ih.mp later
            exact ⟨middle, .cons step first, second⟩
      · rintro ⟨middle, entered, later⟩
        cases entered with
        | cons step first => exact .cons step (ih.mpr ⟨middle, first, later⟩)

theorem Entered.append (first : Entered ledger journal middle) (second : Entered middle rest last) :
    Entered ledger (journal ++ rest) last :=
  entered_append_iff.mpr ⟨middle, first, second⟩

/-- What a ledger tells of the journal along which it was kept. -/
structure Tracks (ledger : Ledger) (journal : Journal σ) : Prop where
  handles_eq : journal.handles = List.range ledger.opened
  completions_eq : journal.completions = ledger.completions
  held : ∀ handle, ledger.holder = some handle → handle < ledger.opened ∧
    journal.rollbacks handle = 0 ∧ ledger.stage.Admits (journal.commits handle)
  completed : ∀ handle, ledger.holder = some handle → ledger.stage = .completed →
    .completionEnded (some handle) (.ok ()) ∈ journal
  released : ∀ handle < ledger.opened, ledger.holder ≠ some handle → journal.ReleasedOnce handle
  unopened : ∀ handle, ledger.opened ≤ handle →
    journal.commits handle = [] ∧ journal.rollbacks handle = 0
  uncompleted : ledger.completions = 0 → ∀ handle, journal.commits handle = []

theorem tracks_initial : Tracks initial ([] : Journal σ) where
  handles_eq := rfl
  completions_eq := rfl
  held := by simp [initial]
  completed := by simp [initial]
  released := by simp [initial]
  unopened := by simp
  uncompleted := by simp

section Entries

variable {opened handle completions : Nat} {next : Option Nat} {stage : Stage}

/-- A transaction that is opened has been neither committed nor rolled back. -/
theorem Tracks.opens (tracks : Tracks ⟨opened, none, .fresh, 0⟩ journal)
    (isNext : Journal.IsNext opened next) :
    Tracks ⟨opened + next.toList.length, next, .fresh, 0⟩ (journal ++ [.opened next]) := by
  obtain ⟨hHandles, hCompletions, -, -, released, unopened, uncompleted⟩ := tracks
  dsimp only at *
  refine ⟨?_, by simpa using hCompletions, ?_, by simp, ?_, ?_, by simpa using uncompleted⟩
  · rcases isNext with rfl | rfl
    · simpa using hHandles
    · simp [hHandles, List.range_succ]
  · intro other hOther
    obtain rfl : next = some other := hOther
    obtain rfl : other = opened := by simpa [Journal.IsNext] using isNext
    simpa [Stage.Admits] using (unopened other (Nat.le_refl _)).symm
  · intro other hLt hOther
    rw [Journal.releasedOnce_concat_iff rfl rfl]
    refine released other ?_ (by simp)
    rcases isNext with rfl | rfl
    · exact hLt
    · simp at hLt hOther
      omega
  · intro other hLe
    simpa using unopened other (Nat.le_trans (Nat.le_add_right _ _) hLe)

/-- A quiet event leaves every transaction as it is. -/
theorem Tracks.quiet (tracks : Tracks ledger journal) (event : AttemptEvent σ)
    (isQuiet : event.isQuiet = true) :
    Tracks { ledger with completions := ledger.completions + if event.isCompletion then 1 else 0 }
      (journal ++ [event]) := by
  obtain ⟨hHandles, hCompletions, held, completed, released, unopened, uncompleted⟩ := tracks
  have hCommits (handle : Nat) : (journal ++ [event]).commits handle = journal.commits handle :=
    Journal.commits_concat_quiet isQuiet handle
  have hRollbacks (handle : Nat) :
      (journal ++ [event]).rollbacks handle = journal.rollbacks handle :=
    Journal.rollbacks_concat_quiet isQuiet handle
  constructor
  · rw [Journal.handles_concat_quiet isQuiet, hHandles]
  · simp [hCompletions]
  · intro handle hHolder
    rw [hCommits, hRollbacks]
    exact held handle hHolder
  · intro handle hHolder hStage
    exact List.mem_append_left _ (completed handle hHolder hStage)
  · intro handle hLt hHolder
    rw [Journal.ReleasedOnce, hCommits, hRollbacks]
    exact released handle hLt hHolder
  · intro handle hLe
    rw [hCommits, hRollbacks]
    exact unopened handle hLe
  · intro hNone handle
    rw [hCommits]
    exact uncompleted (Nat.eq_zero_of_add_eq_zero_right hNone) handle

/-- A completion that succeeds leaves its transaction to be committed. -/
theorem Tracks.completes (tracks : Tracks ⟨opened, next, .fresh, 1⟩ journal) :
    Tracks ⟨opened, next, .completed, 1⟩ (journal ++ [.completionEnded next (.ok ())]) := by
  have later := tracks.quiet (.completionEnded next (.ok ())) rfl
  refine ⟨later.handles_eq, later.completions_eq, later.held, ?_, later.released, later.unopened,
    later.uncompleted⟩
  intro handle hHolder _
  obtain rfl : next = some handle := hHolder
  simp

/-- A commit that is accepted releases its transaction. -/
theorem Tracks.commits (tracks : Tracks ⟨opened, some handle, .completed, 1⟩ journal) :
    Tracks ⟨opened, none, .completed, 1⟩ (journal ++ [.committed handle (.ok ())]) := by
  obtain ⟨hHandles, hCompletions, held, -, released, unopened, -⟩ := tracks
  obtain ⟨hLt, hRollbacks, hCommits⟩ := held handle rfl
  dsimp only at *
  refine ⟨by simpa using hHandles, by simpa using hCompletions, by simp, by simp, ?_, ?_, by simp⟩
  · intro other hOther _
    by_cases hSame : handle = other
    · subst hSame
      exact .inl (by simpa [Stage.Admits, hRollbacks] using hCommits)
    · rw [Journal.releasedOnce_concat_iff (by simp [hSame]) rfl]
      exact released other hOther (by simpa using hSame)
  · intro other hLe
    have hSame : handle ≠ other := Nat.ne_of_lt (Nat.lt_of_lt_of_le hLt hLe)
    simpa [hSame] using unopened other hLe

/-- A commit that is rejected releases nothing. -/
theorem Tracks.rejects {failure : Failure}
    (tracks : Tracks ⟨opened, some handle, .completed, 1⟩ journal) :
    Tracks ⟨opened, some handle, .rejected, 1⟩ (journal ++ [.committed handle (.error failure)]) := by
  obtain ⟨hHandles, hCompletions, held, -, released, unopened, -⟩ := tracks
  obtain ⟨hLt, hRollbacks, hCommits⟩ := held handle rfl
  dsimp only at *
  refine ⟨by simpa using hHandles, by simpa using hCompletions, ?_, by simp, ?_, ?_, by simp⟩
  · intro other hOther
    obtain rfl : handle = other := by simpa using hOther
    exact ⟨hLt, by simpa using hRollbacks, failure, by simpa [Stage.Admits] using hCommits⟩
  · intro other hOther hNe
    have hSame : handle ≠ other := by simpa using hNe
    rw [Journal.releasedOnce_concat_iff (by simp [hSame]) rfl]
    exact released other hOther hNe
  · intro other hLe
    have hSame : handle ≠ other := Nat.ne_of_lt (Nat.lt_of_lt_of_le hLt hLe)
    simpa [hSame] using unopened other hLe

/-- A rollback releases its transaction, which has not been committed. -/
theorem Tracks.rollsBack (tracks : Tracks ⟨opened, some handle, stage, completions⟩ journal)
    (notCompleted : stage ≠ .completed) :
    Tracks ⟨opened, none, stage, completions⟩ (journal ++ [.rolledBack handle]) := by
  obtain ⟨hHandles, hCompletions, held, -, released, unopened, uncompleted⟩ := tracks
  obtain ⟨hLt, hRollbacks, hCommits⟩ := held handle rfl
  dsimp only at *
  refine ⟨by simpa using hHandles, by simpa using hCompletions, by simp, by simp, ?_, ?_,
    by simpa using uncompleted⟩
  · intro other hOther _
    by_cases hSame : handle = other
    · subst hSame
      refine .inr ⟨?_, by simp [hRollbacks]⟩
      cases stage with
      | fresh => exact .inl (by simpa [Stage.Admits] using hCommits)
      | completed => exact absurd rfl notCompleted
      | rejected => exact .inr (by simpa [Stage.Admits] using hCommits)
    · rw [Journal.releasedOnce_concat_iff rfl (by simp [hSame])]
      exact released other hOther (by simpa using hSame)
  · intro other hLe
    have hSame : handle ≠ other := Nat.ne_of_lt (Nat.lt_of_lt_of_le hLt hLe)
    simpa [hSame] using unopened other hLe

end Entries

/-- An entry keeps what the ledger tells. -/
theorem Tracks.step (tracks : Tracks ledger journal) (step : Step ledger event last) :
    Tracks last (journal ++ [event]) := by
  cases step with
  | opens isNext => exact tracks.opens isNext
  | @completes opened holder => exact tracks.quiet (.completionBegun holder) rfl
  | completed => exact tracks.completes
  | @incomplete opened holder error =>
      exact tracks.quiet (.completionEnded holder (.error error)) rfl
  | commits => exact tracks.commits
  | rejects => exact tracks.rejects
  | rollsBack notCompleted => exact tracks.rollsBack notCompleted
  | aside isAside =>
      obtain ⟨isQuiet, hCompletion⟩ := AttemptEvent.isQuiet_of_isAside isAside
      have later := tracks.quiet event isQuiet
      rw [hCompletion] at later
      exact later

/-- What a ledger tells holds of every journal along which it is kept. -/
theorem Tracks.entered (tracks : Tracks ledger journal) (entered : Entered ledger rest last) :
    Tracks last (journal ++ rest) := by
  induction entered generalizing journal with
  | nil => simpa using tracks
  | cons step later ih => simpa using ih (tracks.step step)

/-- The last ledger of an attempt. -/
structure Closed (ledger : Ledger) : Prop where
  unheld : ledger.holder = none
  opened_le : ledger.opened ≤ 2
  completions_le : ledger.completions ≤ 1

theorem entered_single (step : Step ledger event last) : Entered ledger [event] last :=
  .cons step .nil

theorem entered_aside (isAside : event.isAside = true) (later : Entered ledger rest last) :
    Entered ledger (event :: rest) last :=
  .cons (.aside isAside) later

theorem entered_work {work : Journal σ} (hWork : work.IsWork) : Entered ledger work ledger := by
  induction work with
  | nil => exact .nil
  | cons event work ih =>
      obtain ⟨hEvent, hRest⟩ := Journal.isWork_cons.mp hWork
      rcases hEvent with rfl | ⟨cancelled, rfl⟩
      · exact entered_aside rfl (ih hRest)
      · exact entered_aside rfl (ih hRest)

theorem entered_rollback {opened completions : Nat} {holder : Option Nat} :
    Entered ⟨opened, holder, .fresh, completions⟩ (Journal.rollback holder : Journal σ)
      ⟨opened, none, .fresh, completions⟩ := by
  cases holder with
  | none => exact .nil
  | some handle => exact entered_single (.rollsBack (by simp))

end Ledger

namespace Journal

open Ledger

variable {message : InboundMessage} {failure : Failure} {handle : Option Nat} {part : Journal σ}

theorem Settles.entered {result : Except BusError Unit} (settles : Settles handle part result)
    (opened : Nat) :
    ∃ stage, Entered ⟨opened, handle, .fresh, 0⟩ part ⟨opened, none, stage, 1⟩ := by
  cases settles with
  | incomplete hWork =>
      exact ⟨.fresh, .cons .completes
        ((entered_work hWork).append (.cons .incomplete entered_rollback))⟩
  | withoutTransaction hWork =>
      exact ⟨.completed, .cons .completes
        ((entered_work hWork).append (entered_single .completed))⟩
  | committed hWork =>
      exact ⟨.completed, .cons .completes
        ((entered_work hWork).append (.cons .completed (entered_single .commits)))⟩
  | rejected hWork =>
      exact ⟨.rejected, .cons .completes ((entered_work hWork).append
        (.cons .completed (.cons .rejects (entered_single (.rollsBack (by simp))))))⟩

theorem Recovers.entered {outcome : Except BusError AttemptOutcome}
    (recovers : Recovers failure handle part outcome) (opened : Nat) :
    ∃ stage completions, completions ≤ 1 ∧
      Entered ⟨opened, handle, .fresh, 0⟩ part ⟨opened, none, stage, completions⟩ := by
  cases recovers with
  | broken hWork =>
      exact ⟨.fresh, 0, Nat.zero_le 1,
        (entered_work hWork).append (entered_aside rfl entered_rollback)⟩
  | retryRequired hWork =>
      exact ⟨.fresh, 0, Nat.zero_le 1,
        (entered_work hWork).append (entered_aside rfl entered_rollback)⟩
  | handled hWork settles =>
      obtain ⟨stage, entered⟩ := settles.entered opened
      exact ⟨stage, 1, Nat.le_refl 1, (entered_work hWork).append (entered_aside rfl entered)⟩

theorem IsNext.length_le {opened : Nat} (isNext : IsNext opened handle) :
    handle.toList.length ≤ 1 := by
  rcases isNext with rfl | rfl
  · exact Nat.zero_le 1
  · exact Nat.le_refl 1

theorem Concludes.entered {outcome : Except BusError AttemptOutcome}
    (concludes : Concludes message handle part outcome) (isNext : IsNext 0 handle) :
    ∃ last, last.Closed ∧ Entered ⟨handle.toList.length, handle, .fresh, 0⟩ part last := by
  have hFirst := isNext.length_le
  have hOpened : handle.toList.length ≤ 2 := by omega
  cases concludes with
  | cut uncut =>
      exact ⟨_, ⟨rfl, hOpened, Nat.zero_le 1⟩,
        (entered_work uncut.isWork).append (entered_aside rfl entered_rollback)⟩
  | succeeded uncut settles =>
      obtain ⟨stage, entered⟩ := settles.entered handle.toList.length
      exact ⟨_, ⟨rfl, hOpened, Nat.le_refl 1⟩,
        (entered_work uncut.isWork).append (entered_aside rfl entered)⟩
  | cancelled uncut cancellation =>
      exact ⟨_, ⟨rfl, hOpened, Nat.zero_le 1⟩,
        (entered_work uncut.isWork).append (entered_aside rfl entered_rollback)⟩
  | failed cancelled token uncut genuine isSecond recovers =>
      obtain ⟨stage, completions, hCompletions, entered⟩ := recovers.entered _
      have hSecond := isSecond.length_le
      refine ⟨_, ⟨rfl, ?_, hCompletions⟩, (Entered.append (entered_work uncut.isWork)
        (entered_aside rfl entered_rollback)).append
          (.cons (.opens isSecond) (entered_aside rfl (entered_aside rfl entered)))⟩
      dsimp only
      omega

/-- The journals of attempts can be entered into a ledger, and no transaction
is open at the end. -/
theorem IsAttempt.entered {cancelled : Bool} {outcome : Except BusError AttemptOutcome}
    (attempt : IsAttempt message cancelled part outcome) :
    ∃ last, last.Closed ∧ Entered initial part last := by
  cases attempt with
  | refused => exact ⟨initial, ⟨rfl, Nat.zero_le 2, Nat.zero_le 1⟩, .nil⟩
  | unbegun isNext =>
      have hFirst := isNext.length_le
      refine ⟨_, ⟨rfl, ?_, Nat.zero_le 1⟩,
        .cons (.opens isNext) (entered_aside rfl entered_rollback)⟩
      dsimp only
      omega
  | @begun handle token rest outcome isNext concludes =>
      obtain ⟨last, closed, entered⟩ := concludes.entered isNext
      rw [← Nat.zero_add handle.toList.length] at entered
      exact ⟨last, closed, .cons (.opens isNext) (entered_aside rfl (entered_aside rfl entered))⟩

theorem IsAttempt.completions_le {cancelled : Bool} {outcome : Except BusError AttemptOutcome}
    (attempt : IsAttempt message cancelled part outcome) : part.completions ≤ 1 := by
  obtain ⟨last, closed, entered⟩ := attempt.entered
  have tracks := tracks_initial.entered entered
  rw [List.nil_append] at tracks
  rw [tracks.completions_eq]
  exact closed.completions_le

end Journal

end BusEndpoint
