import BusEndpoint.InMemory.HostState
import BusEndpoint.Proofs.Attempt.Ends
import BusEndpoint.Proofs.Attempt.Protocol
import BusEndpoint.Proofs.Settlement.Course

/-! Calls under host transactions, one after the other. A call may be cancelled as
late as at the moment at which completion begins; from then on its token is not
looked at again. The record of a sequence of calls is put together of those of its
calls, and each of these of the lives of its transactions. -/

namespace BusEndpoint

open BusEndpoint.Task

namespace NativeEvent

/-- The transaction that an event is about. -/
def number? : NativeEvent → Option Nat
  | begun number | committed number _ | rolledBack number => some number
  | completing number _ | stepBegun number | stepEnded number _ => number
  | processed _ | treated _ => none

/-- A transaction is released by a commit that is accepted and by a rollback. -/
def isRelease : NativeEvent → Bool
  | committed _ (.ok ()) | rolledBack _ => true
  | _ => false

end NativeEvent

namespace NativeRecord

/-- What follows the begin of a transaction: nothing of any other transaction, and its
release as the very last event. -/
structure Closes (number : Nat) (rest : NativeRecord) : Prop where
  own : ∀ event ∈ rest, event.begun? = none ∧
    ∀ other, event.number? = some other → other = number
  released : ∃ middle release, rest = middle ++ [release] ∧ release.isRelease = true ∧
    ∀ event ∈ middle, event.isRelease = false

/-- The life of one transaction. -/
def IsLife (number : Nat) (life : NativeRecord) : Prop :=
  ∃ rest, life = .begun number :: rest ∧ Closes number rest

/-- A record of whole transactions, one after the other, with consecutive numbers. -/
def Lives (number : Nat) (events : NativeRecord) : Prop :=
  ∃ lives : List NativeRecord, events = lives.flatten ∧
    ∀ k life, lives[k]? = some life → IsLife (number + k) life

/-- What a call shows that may be cancelled until completion begins. -/
structure HeedsLateCancellation (hasStep : Bool) (block : NativeRecord)
    (result : Except BusError Unit) : Prop where
  completesOnce : block.completions ≤ 1
  completes_iff : (∃ number cancelled, .completing number cancelled ∈ block) ↔
    .processed (.ok ()) ∈ block ∨ .treated (.ok .handled) ∈ block
  late : ∀ number, .completing number true ∈ block →
    result = .error .cancelled ∧ block.steps = [] ∧ block.commits = [] ∧
      ∃ handle, number = some handle ∧ block.rollbacks.count handle = 1
  inTime : ∀ number, .completing number false ∈ block →
    ∃ handle, number = some handle ∧ block.steps = if hasStep then [some handle] else []
  stepFails : ∀ number error, .stepEnded number (.error error) ∈ block →
    result = .error error ∧ block.commits = [] ∧
      ∃ handle, number = some handle ∧ block.rollbacks.count handle = 1
  commitsOnce : block.commits.length ≤ 1
  /-- A commit is called only once the step, if there is one, has succeeded. -/
  commitsLast : ∀ handle answer, .committed handle answer ∈ block →
    ∃ past rest, block = past ++ .committed handle answer :: rest ∧
      .completing (some handle) false ∈ past ∧
      (hasStep = true → .stepEnded (some handle) (.ok ()) ∈ past)
  commits : ∀ number, .completing number false ∈ block →
    (∀ error, .stepEnded number (.error error) ∉ block) →
      ∃ handle answer, number = some handle ∧ block.commits = [(handle, answer)]
  uncompleted : (∀ number cancelled, .completing number cancelled ∉ block) →
    block.steps = [] ∧ block.commits = []

section Parts

variable {hasStep : Bool} {number : Nat} {event : NativeEvent} {rest part last block : NativeRecord}
  {result : Except BusError Unit}

theorem closes_single (hRelease : event.isRelease = true) (hNumber : event.number? = some number)
    (hBegun : event.begun? = none) : Closes number [event] where
  own := by
    intro other hOther
    obtain rfl := List.mem_singleton.mp hOther
    exact ⟨hBegun, fun _ hSame => Option.some.inj (hSame.symm.trans hNumber)⟩
  released := ⟨[], event, rfl, hRelease, nofun⟩

theorem Closes.cons (closes : Closes number rest) (hRelease : event.isRelease = false)
    (hBegun : event.begun? = none) (hNumber : event.number? = none ∨ event.number? = some number) :
    Closes number (event :: rest) := by
  obtain ⟨own, middle, release, rfl, hReleased, hMiddle⟩ := closes
  have hOwn (other : Nat) (hOther : event.number? = some other) : other = number := by
    rcases hNumber with hNone | hSome
    · cases hNone.symm.trans hOther
    · exact Option.some.inj (hOther.symm.trans hSome)
  refine ⟨List.forall_mem_cons.mpr ⟨⟨hBegun, hOwn⟩, own⟩, event :: middle, release, rfl,
    hReleased, ?_⟩
  exact List.forall_mem_cons.mpr ⟨hRelease, hMiddle⟩

theorem closes_rollback : Closes number [.rolledBack number] := closes_single rfl rfl rfl

theorem Commits.closes (commits : Commits number part result) : Closes number part := by
  cases commits with
  | accepted => exact closes_single rfl rfl rfl
  | rejected failure => exact closes_rollback.cons rfl rfl (.inr rfl)

theorem Completes.closes (completes : Completes hasStep number part result)
    (closes : Closes number rest) : Closes number (part ++ rest) := by
  cases completes with
  | late => exact closes.cons rfl rfl (.inr rfl)
  | stepless hStep => exact closes.cons rfl rfl (.inr rfl)
  | stepped hStep result =>
      exact ((closes.cons rfl rfl (.inr rfl)).cons rfl rfl (.inr rfl)).cons rfl rfl (.inr rfl)

theorem Settles.closes (settles : Settles hasStep number part result) : Closes number part := by
  cases settles with
  | incomplete completes => exact completes.closes closes_rollback
  | completed completes commits => exact completes.closes commits.closes

theorem Recovers.closes {failure : Failure} {outcome : Except BusError AttemptOutcome}
    (recovers : Recovers hasStep number failure part outcome) : Closes number part := by
  cases recovers with
  | broken error => exact closes_rollback.cons rfl rfl (.inl rfl)
  | retryRequired => exact closes_rollback.cons rfl rfl (.inl rfl)
  | handled settles => exact settles.closes.cons rfl rfl (.inl rfl)

theorem lives_nil : Lives number [] := ⟨[], rfl, by simp⟩

theorem Closes.lives (closes : Closes number part) (later : Lives (number + 1) last) :
    Lives number (.begun number :: part ++ last) := by
  obtain ⟨lives, rfl, hLives⟩ := later
  refine ⟨(.begun number :: part) :: lives, rfl, ?_⟩
  intro k life hLife
  cases k with
  | zero =>
      cases hLife
      exact ⟨part, rfl, closes⟩
  | succ k => exact Nat.succ_add_eq_add_succ number k ▸ hLives k life hLife

theorem Closes.lives_single (closes : Closes number part) :
    Lives number (.begun number :: part) := by
  simpa using closes.lives lives_nil

theorem begins_append (first second : NativeRecord) :
    (first ++ second : NativeRecord).begins = first.begins ++ second.begins :=
  List.filterMap_append

theorem IsLife.begins_eq {life : NativeRecord} (isLife : IsLife number life) :
    life.begins = [number] := by
  obtain ⟨rest, rfl, own, -⟩ := isLife
  have hRest : NativeRecord.begins rest = [] :=
    List.filterMap_eq_nil_iff.mpr fun event hEvent => (own event hEvent).1
  exact congrArg (List.cons number) hRest

/-- Every life has one begin. -/
theorem length_begins {lives : List NativeRecord}
    (hLives : ∀ k life, lives[k]? = some life → IsLife (number + k) life) :
    (NativeRecord.begins lives.flatten).length = lives.length := by
  induction lives generalizing number with
  | nil => rfl
  | cons life lives ih =>
      have hLater (k : Nat) (other : NativeRecord) (hOther : lives[k]? = some other) :
          IsLife (number + 1 + k) other :=
        Nat.succ_add_eq_add_succ number k ▸ hLives (k + 1) other hOther
      have hFirst := (hLives 0 life rfl).begins_eq
      rw [List.flatten_cons, begins_append, List.length_append, hFirst, ih hLater]
      exact Nat.add_comm 1 lives.length

theorem Lives.append (lives : Lives number part)
    (later : Lives (number + part.begins.length) last) : Lives number (part ++ last) := by
  obtain ⟨first, rfl, hFirst⟩ := lives
  obtain ⟨second, rfl, hSecond⟩ := later
  rw [length_begins hFirst] at hSecond
  refine ⟨first ++ second, List.flatten_append.symm, ?_⟩
  intro k life hLife
  rcases Nat.lt_or_ge k first.length with hLt | hGe
  · rw [List.getElem?_append_left hLt] at hLife
    exact hFirst k life hLife
  · rw [List.getElem?_append_right hGe] at hLife
    have hLater := hSecond _ life hLife
    rwa [Nat.add_assoc, Nat.add_sub_cancel' hGe] at hLater

/-- The transactions of an attempt do not overlap. -/
theorem IsAttempt.lives {outcome : Except BusError AttemptOutcome}
    (attempt : IsAttempt hasStep number block outcome) : Lives number block := by
  cases attempt with
  | refused error => exact lives_nil
  | cut => exact closes_rollback.lives_single
  | succeeded settles => exact (settles.closes.cons rfl rfl (.inl rfl)).lives_single
  | cancelled cancellation => exact (closes_rollback.cons rfl rfl (.inl rfl)).lives_single
  | failed genuine recovers =>
      exact (closes_rollback.cons rfl rfl (.inl rfl)).lives recovers.closes.lives_single

/-- Events that show nothing of a settlement. -/
structure Unsettled (events : NativeRecord) : Prop where
  completions : events.completions = 0
  steps : events.steps = []
  commits : events.commits = []
  stepEnded : ∀ number result, .stepEnded number result ∉ events

/-- What the completion of a transaction shows. -/
structure Completed (hasStep : Bool) (number : Nat) (part : NativeRecord)
    (result : Except BusError Unit) : Prop where
  completions : part.completions = 1
  commits : part.commits = []
  rollbacks : part.rollbacks = []
  uncalled : .processed (.ok ()) ∉ part ∧ .treated (.ok .handled) ∉ part
  late : ∀ other, .completing other true ∈ part →
    other = some number ∧ result = .error .cancelled ∧ part.steps = []
  inTime : ∀ other, .completing other false ∈ part →
    other = some number ∧ part.steps = if hasStep then [some number] else []
  stepFails : ∀ other error, .stepEnded other (.error error) ∈ part →
    other = some number ∧ result = .error error
  succeeds : result = .ok () → .completing (some number) false ∈ part ∧
    (hasStep = true → .stepEnded (some number) (.ok ()) ∈ part)
  fails : ∀ error, result = .error error →
    (∀ other, .completing other false ∉ part) ∨ .stepEnded (some number) (.error error) ∈ part

theorem Completes.completed (completes : Completes hasStep number part result) :
    Completed hasStep number part result := by
  cases completes with
  | late =>
      refine ⟨rfl, rfl, rfl, by simp, ?_, by simp, by simp, nofun, by simp⟩
      intro other hOther
      exact ⟨by simpa using hOther, rfl, rfl⟩
  | stepless hStep =>
      subst hStep
      refine ⟨rfl, rfl, rfl, by simp, by simp, ?_, by simp, by simp, nofun⟩
      intro other hOther
      exact ⟨by simpa using hOther, rfl⟩
  | stepped hStep result =>
      subst hStep
      refine ⟨rfl, rfl, rfl, by simp, by simp, ?_, ?_, ?_, ?_⟩
      · intro other hOther
        exact ⟨by simpa using hOther, rfl⟩
      · intro other error hFailed
        simpa [eq_comm] using hFailed
      · rintro rfl
        simp
      · rintro error rfl
        simp

theorem Unsettled.completing (unsettled : Unsettled block) (number : Option Nat)
    (cancelled : Bool) : .completing number cancelled ∉ block :=
  fun hEvent => List.countP_eq_zero.mp unsettled.completions _ hEvent rfl

theorem Unsettled.committed (unsettled : Unsettled block) (number : Nat)
    (answer : Except Failure Unit) : .committed number answer ∉ block := by
  intro hEvent
  cases List.filterMap_eq_nil_iff.mp unsettled.commits _ hEvent

/-- A call that has no success to settle. -/
theorem Unsettled.heedsLateCancellation (unsettled : Unsettled block)
    (hProcessed : .processed (.ok ()) ∉ block) (hTreated : .treated (.ok .handled) ∉ block) :
    HeedsLateCancellation hasStep block result where
  completesOnce := by simp [unsettled.completions]
  completes_iff := by simp [unsettled.completing, hProcessed, hTreated]
  late := by simp [unsettled.completing]
  inTime := by simp [unsettled.completing]
  stepFails := by simp [unsettled.stepEnded]
  commitsOnce := by simp [unsettled.commits]
  commitsLast := by simp [unsettled.committed]
  commits := by simp [unsettled.completing]
  uncompleted := fun _ => ⟨unsettled.steps, unsettled.commits⟩

/-- What comes before the settlement of a transaction: a success, or a failure that was
handled. -/
structure IsPrelude (number : Nat) (past : NativeRecord) : Prop where
  unsettled : Unsettled past
  unreleased : past.rollbacks.count number = 0
  calls : .processed (.ok ()) ∈ past ∨ .treated (.ok .handled) ∈ past

variable {past : NativeRecord}

/-- What follows the completion of a transaction: its rollback if the completion has
failed, and its commit otherwise. -/
structure Releases (number : Nat) (completion : Except BusError Unit) (last : NativeRecord)
    (result : Except BusError Unit) : Prop where
  completions : last.completions = 0
  steps : last.steps = []
  stepEnded : ∀ other answer, .stepEnded other answer ∉ last
  uncalled : .processed (.ok ()) ∉ last ∧ .treated (.ok .handled) ∉ last
  fails : ∀ error, completion = .error error →
    result = .error error ∧ last.commits = [] ∧ last.rollbacks.count number = 1
  succeeds : completion = .ok () →
    ∃ answer rest, last = .committed number answer :: rest ∧ last.commits = [(number, answer)]

theorem releases_rollback (number : Nat) (error : BusError) :
    Releases number (.error error) [.rolledBack number] (.error error) where
  completions := rfl
  steps := rfl
  stepEnded := by simp
  uncalled := by simp
  fails failed hFailed := ⟨hFailed, rfl, by simp⟩
  succeeds := nofun

theorem Commits.releases (commits : Commits number last result) :
    Releases number (.ok ()) last result := by
  cases commits with
  | accepted => exact ⟨rfl, rfl, by simp, by simp, nofun, fun _ => ⟨_, _, rfl, rfl⟩⟩
  | rejected failure => exact ⟨rfl, rfl, by simp, by simp, nofun, fun _ => ⟨_, _, rfl, rfl⟩⟩

/-- A success that is completed and then committed or rolled back. -/
structure Settled (hasStep : Bool) (number : Nat) (completion result : Except BusError Unit)
    (past part last : NativeRecord) : Prop where
  prelude : IsPrelude number past
  completed : Completed hasStep number part completion
  releases : Releases number completion last result

namespace Settled

variable {completion : Except BusError Unit} {other : Option Nat}

theorem completing_mem_iff (settled : Settled hasStep number completion result past part last)
    {cancelled : Bool} : .completing other cancelled ∈ past ++ (part ++ last) ↔
      .completing other cancelled ∈ part := by
  have hLast : .completing other cancelled ∉ last :=
    fun hEvent => List.countP_eq_zero.mp settled.releases.completions _ hEvent rfl
  simp [settled.prelude.unsettled.completing, hLast]

theorem stepEnded_mem_iff (settled : Settled hasStep number completion result past part last)
    {answer : Except BusError Unit} : .stepEnded other answer ∈ past ++ (part ++ last) ↔
      .stepEnded other answer ∈ part := by
  simp [settled.prelude.unsettled.stepEnded, settled.releases.stepEnded]

theorem steps_eq (settled : Settled hasStep number completion result past part last) :
    (past ++ (part ++ last) : NativeRecord).steps = part.steps := by
  simp [settled.prelude.unsettled.steps, settled.releases.steps]

theorem commits_eq (settled : Settled hasStep number completion result past part last) :
    (past ++ (part ++ last) : NativeRecord).commits = last.commits := by
  simp [settled.prelude.unsettled.commits, settled.completed.commits]

theorem exists_completing (settled : Settled hasStep number completion result past part last) :
    ∃ other cancelled, .completing other cancelled ∈ part := by
  obtain ⟨event, hEvent, hCompletion⟩ := List.countP_pos_iff.mp
    (Nat.lt_of_lt_of_eq Nat.zero_lt_one settled.completed.completions.symm)
  cases event with
  | completing other cancelled => exact ⟨other, cancelled, hEvent⟩
  | _ => cases hCompletion

/-- An error of the completion is returned as it is, and the transaction is rolled back. -/
theorem rollsBack {error : BusError}
    (settled : Settled hasStep number (.error error) result past part last) :
    result = .error error ∧ (past ++ (part ++ last) : NativeRecord).commits = [] ∧
      ∃ handle, some number = some handle ∧
        (past ++ (part ++ last) : NativeRecord).rollbacks.count handle = 1 := by
  obtain ⟨hResult, hUncommitted, hRolledBack⟩ := settled.releases.fails error rfl
  refine ⟨hResult, settled.commits_eq.trans hUncommitted, number, rfl, ?_⟩
  simpa [settled.completed.rollbacks, settled.prelude.unreleased] using hRolledBack

/-- After a completion that succeeds, and after no other, a commit is called. -/
theorem commits_cases (settled : Settled hasStep number completion result past part last) :
    ((∃ error, completion = .error error) ∧
        (past ++ (part ++ last) : NativeRecord).commits = []) ∨
      completion = .ok () ∧ ∃ answer rest, last = .committed number answer :: rest ∧
        (past ++ (part ++ last) : NativeRecord).commits = [(number, answer)] := by
  cases completion with
  | error error => exact .inl ⟨⟨error, rfl⟩, settled.rollsBack.2.1⟩
  | ok value =>
      obtain ⟨answer, rest, hLast, hCommitted⟩ := settled.releases.succeeds rfl
      exact .inr ⟨rfl, answer, rest, hLast, settled.commits_eq.trans hCommitted⟩

theorem heedsLateCancellation
    (settled : Settled hasStep number completion result past part last) :
    HeedsLateCancellation hasStep (past ++ (part ++ last)) result where
  completesOnce := by
    simp [settled.prelude.unsettled.completions, settled.completed.completions,
      settled.releases.completions]
  completes_iff := by
    simp only [settled.completing_mem_iff]
    refine iff_of_true settled.exists_completing ?_
    rcases settled.prelude.calls with hProcessed | hTreated
    · exact .inl (List.mem_append_left _ hProcessed)
    · exact .inr (List.mem_append_left _ hTreated)
  late := by
    intro other hLate
    obtain ⟨rfl, rfl, hNone⟩ :=
      settled.completed.late other (settled.completing_mem_iff.mp hLate)
    obtain ⟨hResult, hUncommitted, hRolledBack⟩ := settled.rollsBack
    exact ⟨hResult, settled.steps_eq.trans hNone, hUncommitted, hRolledBack⟩
  inTime := by
    intro other hInTime
    obtain ⟨rfl, hSome⟩ :=
      settled.completed.inTime other (settled.completing_mem_iff.mp hInTime)
    exact ⟨number, rfl, settled.steps_eq.trans hSome⟩
  stepFails := by
    intro other error hStep
    obtain ⟨rfl, rfl⟩ :=
      settled.completed.stepFails other error (settled.stepEnded_mem_iff.mp hStep)
    exact settled.rollsBack
  commitsOnce := by
    obtain ⟨-, hNone⟩ | ⟨-, answer, rest, -, hOne⟩ := settled.commits_cases
    · simp [hNone]
    · simp [hOne]
  commitsLast := by
    intro handle answer hEvent
    have hMember : (handle, answer) ∈ (past ++ (part ++ last) : NativeRecord).commits :=
      List.mem_filterMap.mpr ⟨_, hEvent, rfl⟩
    obtain ⟨-, hNone⟩ | ⟨hSucceeded, answered, rest, hLast, hOne⟩ := settled.commits_cases
    · simp [hNone] at hMember
    · rw [hOne] at hMember
      obtain ⟨rfl, rfl⟩ : handle = number ∧ answer = answered := by simpa using hMember
      obtain ⟨hInTime, hStep⟩ := settled.completed.succeeds hSucceeded
      exact ⟨past ++ part, rest, by rw [hLast, List.append_assoc], List.mem_append_right _ hInTime,
        fun hasStep => List.mem_append_right _ (hStep hasStep)⟩
  commits := by
    intro other hInTime hStep
    have hInTime := settled.completing_mem_iff.mp hInTime
    obtain ⟨rfl, -⟩ := settled.completed.inTime other hInTime
    obtain ⟨⟨error, hFailed⟩, -⟩ | ⟨-, answer, rest, -, hOne⟩ := settled.commits_cases
    · rcases settled.completed.fails error hFailed with hLate | hStepFailed
      · exact absurd hInTime (hLate _)
      · exact absurd (settled.stepEnded_mem_iff.mpr hStepFailed) (hStep error)
    · exact ⟨number, answer, rfl, hOne⟩
  uncompleted := by
    intro hNever
    obtain ⟨other, cancelled, hEvent⟩ := settled.exists_completing
    exact absurd (settled.completing_mem_iff.mpr hEvent) (hNever _ _)

end Settled

theorem Settles.heedsLateCancellation (prelude : IsPrelude number past)
    (settles : Settles hasStep number part result) :
    HeedsLateCancellation hasStep (past ++ part) result := by
  cases settles with
  | incomplete completes =>
      exact Settled.heedsLateCancellation
        ⟨prelude, completes.completed, releases_rollback number _⟩
  | completed completes commits =>
      exact Settled.heedsLateCancellation ⟨prelude, completes.completed, commits.releases⟩

theorem isPrelude_succeeded (number : Nat) :
    IsPrelude number [.begun number, .processed (.ok ())] where
  unsettled := ⟨rfl, rfl, rfl, by simp⟩
  unreleased := rfl
  calls := by simp

theorem isPrelude_handled (number : Nat) (failure : Failure) :
    IsPrelude (number + 1) [.begun number, .processed (.error failure), .rolledBack number,
      .begun (number + 1), .treated (.ok .handled)] where
  unsettled := ⟨rfl, rfl, rfl, by simp⟩
  unreleased := by
    change List.count (number + 1) [number] = 0
    simp
  calls := by simp

theorem IsAttempt.heedsLateCancellation {outcome : Except BusError AttemptOutcome}
    (attempt : IsAttempt hasStep number block outcome) :
    HeedsLateCancellation hasStep block (Binding.answer outcome) := by
  have unsettled {events : NativeRecord} (hEvents : Unsettled events)
      (hCalls : .processed (.ok ()) ∉ events ∧ .treated (.ok .handled) ∉ events)
      (result : Except BusError Unit) : HeedsLateCancellation hasStep events result :=
    hEvents.heedsLateCancellation hCalls.1 hCalls.2
  cases attempt with
  | refused error => exact unsettled ⟨rfl, rfl, rfl, by simp⟩ (by simp) _
  | cut => exact unsettled ⟨rfl, rfl, rfl, by simp⟩ (by simp) _
  | cancelled cancellation => exact unsettled ⟨rfl, rfl, rfl, by simp⟩ (by simp) _
  | succeeded settles =>
      rw [Binding.answer_map rfl]
      exact settles.heedsLateCancellation (isPrelude_succeeded number)
  | @failed failure _ _ genuine recovers =>
      cases recovers with
      | broken error => exact unsettled ⟨rfl, rfl, rfl, by simp⟩ (by simp) _
      | retryRequired => exact unsettled ⟨rfl, rfl, rfl, by simp⟩ (by simp) _
      | handled settles =>
          rw [Binding.answer_map rfl]
          exact settles.heedsLateCancellation (isPrelude_handled number failure)

end Parts

end NativeRecord

open NativeRecord

variable {σ : Type} [Host σ]

/-- A call to process a message with what is bound. -/
structure HostCall (σ : Type) where
  binding : Binding σ
  message : InboundMessage
  cancel : CancellationToken σ

namespace HostCall

def process (call : HostCall σ) (transactions : HostTransactions σ) :
    Task σ (Except BusError Unit) :=
  call.binding.process call.message transactions.strategy call.cancel

/-- The parts of the call come to their end, if it has any. -/
def PartsEnd (others : σ → σ → Prop) (transactions : HostTransactions σ) (call : HostCall σ) :
    Prop :=
  ∀ pipeline, call.binding = .receiving pipeline →
    pipeline.PartsEnd others transactions.strategy call.cancel

/-- The call comes to a result, and the record before it is continued. -/
def Records (others : σ → σ → Prop) (transactions : HostTransactions σ) (call : HostCall σ) (s : σ)
    (before : NativeRecord) (result : Except BusError Unit) (t : σ) (after : NativeRecord) : Prop :=
  Runs (Beside others)
    (call.binding.recorded.process call.message transactions.recordedStrategy
      fun s => call.cancel s.1) (s, before) result (t, after)

end HostCall

/-- Calls that are made one after the other, with their results. Nothing is said about
the host in between. -/
inductive Made (others : σ → σ → Prop) (transactions : HostTransactions σ) :
    NativeRecord → List (HostCall σ × Except BusError Unit) → NativeRecord → Prop where
  | none {events : NativeRecord} : Made others transactions events [] events
  | next {before between after : NativeRecord} {s t : σ} {call : HostCall σ}
      {result : Except BusError Unit} {rest : List (HostCall σ × Except BusError Unit)}
      (records : call.Records others transactions s before result t between)
      (later : Made others transactions between rest after) :
      Made others transactions before ((call, result) :: rest) after

section Calls

variable {others : σ → σ → Prop} {transactions : HostTransactions σ} {call : HostCall σ} {s t : σ}
  {before after : NativeRecord} {result : Except BusError Unit}

/-- Completion comes to its end if the step does. -/
theorem HostTransactions.ends_complete {cancel : CancellationToken σ}
    (steps : ∀ step, transactions.completion = some step → ∀ transaction s,
      Ends others (step transaction) s) (transaction : Option (Transaction σ)) (s : σ) :
    Ends others (transactions.strategy.complete transaction cancel) s := by
  apply ends_unless_stopped
  intro _
  rcases transaction with _ | transaction
  · exact ends_of_finished rfl
  · rcases hStep : transactions.completion with _ | step
    · exact ends_of_finished rfl
    · exact steps step hStep transaction s

theorem HostCall.ends_process (parts : call.PartsEnd others transactions) :
    Ends others (call.process transactions) s := by
  obtain ⟨binding, message, cancel⟩ := call
  cases binding with
  | unbound => exact ends_of_finished rfl
  | sendOnly => exact ends_of_finished rfl
  | receiving pipeline => exact (Binding.comesBack (.inr (parts pipeline rfl))).process

theorem HostCall.runs_process_iff :
    Runs others (call.process transactions) s result t ↔
      ∃ after, call.Records others transactions s before result t after :=
  (call.binding.mirrors_process_recorded call.message transactions call.cancel).runs_beside_iff

/-- A call adds the record of one attempt. -/
theorem HostCall.Records.isAttempt
    (records : call.Records others transactions s before result t after) :
    ∃ block outcome, IsAttempt transactions.completion.isSome before.begins.length block outcome ∧
      result = Binding.answer outcome ∧ after = before ++ block := by
  obtain ⟨binding, message, cancel⟩ := call
  obtain ⟨outcome, run, rfl⟩ := Binding.runs_process_iff_attempt.mp records
  cases binding with
  | unbound =>
      obtain ⟨rfl, hEnd⟩ := runs_done_iff.mp run
      exact ⟨[], _, .refused _, rfl, (congrArg Prod.snd hEnd).trans (List.append_nil _).symm⟩
  | sendOnly =>
      obtain ⟨rfl, hEnd⟩ := runs_done_iff.mp run
      exact ⟨[], _, .refused _, rfl, (congrArg Prod.snd hEnd).trans (List.append_nil _).symm⟩
  | receiving pipeline =>
      obtain ⟨block, attempt, rfl⟩ := Pipeline.runs_attempt_recorded run
      exact ⟨block, outcome, attempt, rfl, rfl⟩

/-- The record of calls consists of blocks, one for each call, and of the lives of all
transactions. -/
theorem Made.exists_blocks {made : List (HostCall σ × Except BusError Unit)}
    (calls : Made others transactions before made after) :
    ∃ blocks : List NativeRecord, after = before ++ blocks.flatten ∧
      Lives before.begins.length blocks.flatten ∧ blocks.length = made.length ∧
      ∀ (k : Nat) (block : NativeRecord) (call : HostCall σ) (result : Except BusError Unit),
        blocks[k]? = some block → made[k]? = some (call, result) →
          HeedsLateCancellation transactions.completion.isSome block result ∧
            Lives (before.begins.length + (NativeRecord.begins (blocks.take k).flatten).length)
              block := by
  induction calls with
  | none => exact ⟨[], (List.append_nil _).symm, lives_nil, rfl, nofun⟩
  | @next before between after s t call result rest records later ih =>
      obtain ⟨block, outcome, attempt, rfl, rfl⟩ := records.isAttempt
      obtain ⟨blocks, rfl, lives, hLength, hBlocks⟩ := ih
      rw [begins_append, List.length_append] at lives hBlocks
      refine ⟨block :: blocks, List.append_assoc .., attempt.lives.append lives,
        congrArg (· + 1) hLength, ?_⟩
      intro k other called answered hBlock hMade
      cases k with
      | zero =>
          cases hBlock
          cases hMade
          exact ⟨attempt.heedsLateCancellation, attempt.lives⟩
      | succ k =>
          rw [List.take_succ_cons, List.flatten_cons, begins_append, List.length_append,
            ← Nat.add_assoc]
          exact hBlocks k other called answered hBlock hMade

/-- The record of any calls under host transactions is that of one call after the
other, and each of them may be cancelled until completion begins. Recording changes
nothing, and a call comes back if its parts come to their end. -/
theorem HostTransactions.heedLateCancellation (others : σ → σ → Prop)
    (transactions : HostTransactions σ) :
    (∀ (call : HostCall σ) s, call.PartsEnd others transactions →
      Ends others (call.process transactions) s) ∧
    (∀ (call : HostCall σ) s result t before, Runs others (call.process transactions) s result t ↔
      ∃ after, call.Records others transactions s before result t after) ∧
    ∀ made events, Made others transactions [] made events →
      Lives 0 events ∧ ∃ blocks : List NativeRecord, events = blocks.flatten ∧
        blocks.length = made.length ∧
        ∀ (k : Nat) (block : NativeRecord) (call : HostCall σ) (result : Except BusError Unit),
          blocks[k]? = some block → made[k]? = some (call, result) →
            HeedsLateCancellation transactions.completion.isSome block result ∧
              Lives (NativeRecord.begins (blocks.take k).flatten).length block := by
  refine ⟨?_, ?_, ?_⟩
  · intro call s parts
    exact call.ends_process parts
  · intro call s result t before
    exact HostCall.runs_process_iff
  · intro made events calls
    obtain ⟨blocks, hEvents, lives, hLength, hBlocks⟩ := calls.exists_blocks
    rw [List.nil_append] at hEvents
    subst hEvents
    refine ⟨lives, blocks, rfl, hLength, ?_⟩
    intro k block call result hBlock hMade
    obtain ⟨heeds, hLives⟩ := hBlocks k block call result hBlock hMade
    exact ⟨heeds, Nat.zero_add (NativeRecord.begins (blocks.take k).flatten).length ▸ hLives⟩

/-- Transactions that are always committed, with a step before. -/
def outbox : HostTransactions InMemory.HostState where
  factory := return ⟨return .ok (), return ()⟩
  completion := some fun _ => return .ok ()

/-- A message that fails, and whose call is cancelled while the failure is handled. -/
def cancelledLate : HostCall InMemory.HostState where
  binding := .receiving
    { onMessage := fun _ _ => return .error (.application "down")
      onError := fun _ _ => do
        InMemory.HostState.cancel "first"
        return .ok .handled }
  message := ⟨"order-1", [], .empty, 1⟩
  cancel := InMemory.HostState.isCancelled "first"

def neverCancelled : HostCall InMemory.HostState where
  binding := .receiving ⟨fun _ _ => return .ok (), fun _ _ => return .ok .handled⟩
  message := ⟨"order-2", [], .empty, 1⟩
  cancel := InMemory.HostState.isCancelled "second"

/-- The first of two calls is cancelled just before the completion of its second
transaction. -/
theorem outbox_heedLateCancellation :
    (∀ s, Ends Eq (cancelledLate.process outbox) s) ∧
    ∃ (events : NativeRecord) (blocks : List NativeRecord),
      Made Eq outbox [] [(cancelledLate, .error .cancelled), (neverCancelled, .ok ())] events ∧
        events.rollbacks = [0, 1] ∧ events.steps = [some 2] ∧ Lives 0 events ∧
        events = blocks.flatten ∧ blocks.length = 2 := by
  have made : ∃ events : NativeRecord,
      Made Eq outbox [] [(cancelledLate, .error .cancelled), (neverCancelled, .ok ())] events ∧
        events.rollbacks = [0, 1] ∧ events.steps = [some 2] :=
    ⟨_, .next (s := {}) (.finished rfl) (.next (s := {}) (.finished rfl) .none), rfl, rfl⟩
  obtain ⟨events, made, hRollbacks, hSteps⟩ := made
  obtain ⟨ends, -, records⟩ := HostTransactions.heedLateCancellation Eq outbox
  obtain ⟨lives, blocks, hEvents, hLength, -⟩ := records _ events made
  refine ⟨fun s => ends cancelledLate s ?_, events, blocks, made, hRollbacks, hSteps, lives,
    hEvents, hLength⟩
  rintro _ ⟨⟩
  apply Pipeline.partsEnd_of_ends
  · exact fun _ _ => ends_of_finished rfl
  · exact fun _ _ => ends_of_finished rfl
  · apply HostTransactions.ends_complete
    rintro _ ⟨⟩ _ _
    exact ends_of_finished rfl

end Calls

end BusEndpoint
