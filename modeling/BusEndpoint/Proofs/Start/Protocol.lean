import BusEndpoint.Proofs.Start.Line
import Mathlib.Logic.Relation

/-! The protocol of callers who share one start. What the engine does in a start
and how long it takes is left open. The protocol is what is left of the callers
when only the gate and the starts are looked at. -/

namespace BusEndpoint

/-- What is seen of the starts of an engine: who begins one, and what it comes
to. -/
inductive StartEvent (ι : Type) where
  | begun (caller : Nat)
  | ended (caller : Nat) (result : Except BusError ι)

abbrev StartLog (ι : Type) := List (StartEvent ι)

/-- Who makes the start. -/
def StartEvent.caller {ι : Type} : StartEvent ι → Nat
  | .begun caller => caller
  | .ended caller _ => caller

namespace StartLog

variable {ι : Type} {log : StartLog ι} {caller : Nat} {result : Except BusError ι}

@[simp] def isBegun : StartEvent ι → Bool
  | .begun _ => true
  | .ended _ _ => false

/-- How many starts were begun. -/
def begun (log : StartLog ι) : Nat := log.countP isBegun

/-- How many of them have come to an end. -/
def ended (log : StartLog ι) : Nat := log.countP fun event => !isBegun event

@[simp] theorem begun_concat_begun : begun (log ++ [.begun caller]) = log.begun + 1 := by
  simp [begun]

@[simp] theorem begun_concat_ended : begun (log ++ [.ended caller result]) = log.begun := by
  simp [begun]

@[simp] theorem ended_concat_begun : ended (log ++ [.begun caller]) = log.ended := by
  simp [ended]

@[simp] theorem ended_concat_ended : ended (log ++ [.ended caller result]) = log.ended + 1 := by
  simp [ended]

/-- At no moment there is more than one start under way, and a start that
succeeds is the last one. -/
structure IsOrderly (log : StartLog ι) : Prop where
  oneAtATime : ∀ past rest : StartLog ι, log = past ++ rest →
    past.ended ≤ past.begun ∧ past.begun ≤ past.ended + 1
  lastSucceeds : ∀ (past : StartLog ι) caller started rest,
    log = past ++ .ended caller (.ok started) :: rest → rest = []

theorem isOrderly_nil : IsOrderly ([] : StartLog ι) where
  oneAtATime := by
    intro past rest hLog
    obtain ⟨rfl, rfl⟩ := List.append_eq_nil_iff.mp hLog.symm
    exact ⟨Nat.le_refl 0, Nat.zero_le 1⟩
  lastSucceeds := by simp

/-- A log stays orderly if nothing is added after a success. -/
theorem IsOrderly.concat {event : StartEvent ι} (orderly : log.IsOrderly)
    (hUnstarted : ∀ caller started, .ended caller (.ok started) ∉ log)
    (hEnded : ended (log ++ [event]) ≤ begun (log ++ [event]))
    (hBegun : begun (log ++ [event]) ≤ ended (log ++ [event]) + 1) :
    IsOrderly (log ++ [event]) where
  oneAtATime := by
    intro past rest hLog
    rcases List.eq_nil_or_concat rest with rfl | ⟨before, last, rfl⟩
    · rw [List.append_nil] at hLog
      subst hLog
      exact ⟨hEnded, hBegun⟩
    · rw [List.concat_eq_append, ← List.append_assoc] at hLog
      exact orderly.oneAtATime past before (List.append_inj_left' hLog rfl)
  lastSucceeds := by
    intro past caller started rest hLog
    rcases List.eq_nil_or_concat rest with rfl | ⟨before, last, rfl⟩
    · rfl
    · rw [List.concat_eq_append, ← List.cons_append, ← List.append_assoc] at hLog
      have hLog := List.append_inj_left' hLog rfl
      exact absurd (by simp [hLog]) (hUnstarted caller started)

end StartLog

/-- The callers of one lazy start, in the order in which they came. -/
structure StartProtocol (ι : Type) where
  gate : StartGate ι
  log : StartLog ι
  phases : List (StartPhase ι)

/-- What a start that ended has come to. -/
def StartState.ofResult {ι : Type} : Except BusError ι → StartState ι
  | .ok i => .started i
  | .error _ => .notStarted

namespace StartProtocol

open StartPhase

variable {ι : Type}

def initial : StartProtocol ι := ⟨{}, [], []⟩

/-- What callers do. A caller comes back at once or takes a ticket; it gives its
ticket up, or it goes on at its turn; and a start ends with any result. -/
inductive Step : StartProtocol ι → StartProtocol ι → Prop where
  | finds {gate : StartGate ι} {log : StartLog ι} {phases : List (StartPhase ι)} {started : ι}
      (hStarted : gate.state = .started started) :
      Step ⟨gate, log, phases⟩ ⟨gate, log, phases ++ [.finished (.ok started)]⟩
  | declines {gate : StartGate ι} {log : StartLog ι} {phases : List (StartPhase ι)} :
      Step ⟨gate, log, phases⟩ ⟨gate, log, phases ++ [.finished (.error .cancelled)]⟩
  | queues {gate : StartGate ι} {log : StartLog ι} {phases : List (StartPhase ι)} :
      Step ⟨gate, log, phases⟩ ⟨gate.enter.2, log, phases ++ [.waiting gate.enter.1]⟩
  | leaves {gate : StartGate ι} {log : StartLog ι} {phases : List (StartPhase ι)}
      {caller ticket : Nat} (waits : phases[caller]? = some (.waiting ticket)) :
      Step ⟨gate, log, phases⟩
        ⟨gate.leave ticket, log, phases.set caller (.finished (.error .cancelled))⟩
  | passes {gate : StartGate ι} {log : StartLog ι} {phases : List (StartPhase ι)}
      {caller ticket : Nat} {started : ι} (waits : phases[caller]? = some (.waiting ticket))
      (hTurn : gate.holder = some ticket) (hStarted : gate.state = .started started) :
      Step ⟨gate, log, phases⟩ ⟨gate.release, log, phases.set caller (.finished (.ok started))⟩
  | begins {gate : StartGate ι} {log : StartLog ι} {phases : List (StartPhase ι)}
      {caller ticket : Nat} (waits : phases[caller]? = some (.waiting ticket))
      (hTurn : gate.holder = some ticket)
      (hUnstarted : ∀ started, gate.state ≠ .started started) :
      Step ⟨gate, log, phases⟩
        ⟨gate.setState .starting, log ++ [.begun caller], phases.set caller (.starting ticket)⟩
  | ends {gate : StartGate ι} {log : StartLog ι} {phases : List (StartPhase ι)}
      {caller ticket : Nat} (starts : phases[caller]? = some (.starting ticket))
      (result : Except BusError ι) :
      Step ⟨gate, log, phases⟩
        ⟨(gate.setState (.ofResult result)).release, log ++ [.ended caller result],
          phases.set caller (.finished (result.mapError BusError.ofFailedStart))⟩

/-- What the callers have come to agrees with the starts that were made. -/
structure Recorded (state : StartState ι) (log : StartLog ι) (phases : List (StartPhase ι)) :
    Prop where
  orderly : log.IsOrderly
  inFlight : state = .starting → log.begun = log.ended + 1
  idle : state ≠ .starting → log.begun = log.ended
  started_iff : ∀ started, state = .started started ↔ ∃ caller, .ended caller (.ok started) ∈ log
  starting_iff : state = .starting ↔ ∃ caller ticket : Nat, phases[caller]? = some (.starting ticket)
  startingBegun : ∀ caller ticket : Nat, phases[caller]? = some (.starting ticket) →
    .begun caller ∈ log
  begunBy : ∀ caller, .begun caller ∈ log →
    (∃ ticket, phases[caller]? = some (.starting ticket)) ∨ ∃ result, .ended caller result ∈ log
  endedBy : ∀ caller result, .ended caller result ∈ log →
    phases[caller]? = some (.finished (result.mapError BusError.ofFailedStart))
  succeeded : ∀ (caller : Nat) started, phases[caller]? = some (.finished (.ok started)) →
    state = .started started
  failed : ∀ (caller : Nat) error, phases[caller]? = some (.finished (.error error)) →
    (error = .cancelled ∧ .begun caller ∉ log) ∨
      ∃ failed, .ended caller (.error failed) ∈ log ∧ error = failed.ofFailedStart

section Recorded

variable {state : StartState ι} {log : StartLog ι} {phases : List (StartPhase ι)}
  {phase : StartPhase ι} {caller ticket : Nat}

theorem recorded_initial : Recorded (.notStarted : StartState ι) [] [] where
  orderly := StartLog.isOrderly_nil
  inFlight := nofun
  idle := fun _ => rfl
  started_iff := by simp
  starting_iff := by simp
  startingBegun := by simp
  begunBy := by simp
  endedBy := by simp
  succeeded := by simp
  failed := by simp

/-- A caller that has not come back and makes no start has never begun one. -/
theorem Recorded.not_begun (recorded : Recorded state log phases)
    (hStarting : ∀ ticket, phases[caller]? ≠ some (.starting ticket))
    (hFinished : ∀ result, phases[caller]? ≠ some (.finished result)) :
    .begun caller ∉ log ∧ ∀ result, .ended caller result ∉ log := by
  have hEnded (result : Except BusError ι) : .ended caller result ∉ log := by
    intro hEnded
    exact hFinished _ (recorded.endedBy caller result hEnded)
  refine ⟨?_, hEnded⟩
  intro hBegun
  rcases recorded.begunBy caller hBegun with ⟨ticket, hPhase⟩ | ⟨result, hResult⟩
  · exact hStarting ticket hPhase
  · exact hEnded result hResult

theorem Recorded.not_begun_of_waiting (recorded : Recorded state log phases)
    (waits : phases[caller]? = some (.waiting ticket)) :
    .begun caller ∉ log ∧ ∀ result, .ended caller result ∉ log :=
  recorded.not_begun (by simp [waits]) (by simp [waits])

theorem Recorded.not_begun_of_length (recorded : Recorded state log phases) :
    .begun phases.length ∉ log ∧ ∀ result, .ended phases.length result ∉ log :=
  recorded.not_begun (by simp) (by simp)

/-- After a start that failed it is as if none had been made. -/
theorem Recorded.state_of_failed {past : StartLog ι} {error : BusError}
    (recorded : Recorded state log phases)
    (hLog : log = past ++ [.ended caller (.error error)]) : state = .notStarted := by
  subst hLog
  cases state with
  | notStarted => rfl
  | starting =>
      have hCounted := recorded.inFlight rfl
      have hPast := (recorded.orderly.oneAtATime past _ rfl).2
      rw [StartLog.begun_concat_ended, StartLog.ended_concat_ended] at hCounted
      omega
  | started engineInstance =>
      obtain ⟨starter, hStarter⟩ := (recorded.started_iff engineInstance).mp rfl
      have hStarter : .ended starter (.ok engineInstance) ∈ past := by simpa using hStarter
      obtain ⟨before, later, rfl⟩ := List.append_of_mem hStarter
      have hLast := recorded.orderly.lastSucceeds before starter engineInstance
        (later ++ [.ended caller (.error error)]) (by simp)
      simp at hLast

/-- A caller that comes back is told of a success, or that it is cancelled. -/
def Allowed (state : StartState ι) : StartPhase ι → Prop
  | .waiting _ => True
  | .starting _ => False
  | .finished (.ok started) => state = .started started
  | .finished (.error error) => error = .cancelled

theorem Recorded.concat (recorded : Recorded state log phases) (allowed : Allowed state phase) :
    Recorded state log (phases ++ [phase]) := by
  have hNew := recorded.not_begun_of_length
  refine ⟨recorded.orderly, recorded.inFlight, recorded.idle, recorded.started_iff, ?_, ?_, ?_, ?_,
    ?_, ?_⟩
  · rw [recorded.starting_iff]
    constructor
    · rintro ⟨caller, ticket, hPhase⟩
      exact ⟨caller, ticket, getElem?_concat_iff.mpr (.inl hPhase)⟩
    · rintro ⟨caller, ticket, hPhase⟩
      rcases getElem?_concat_iff.mp hPhase with hPhase | ⟨-, rfl⟩
      · exact ⟨caller, ticket, hPhase⟩
      · exact allowed.elim
  · intro caller ticket hPhase
    rcases getElem?_concat_iff.mp hPhase with hPhase | ⟨-, rfl⟩
    · exact recorded.startingBegun caller ticket hPhase
    · exact allowed.elim
  · intro caller hBegun
    rcases recorded.begunBy caller hBegun with ⟨ticket, hPhase⟩ | hEnded
    · exact .inl ⟨ticket, getElem?_concat_iff.mpr (.inl hPhase)⟩
    · exact .inr hEnded
  · intro caller result hEnded
    exact getElem?_concat_iff.mpr (.inl (recorded.endedBy caller result hEnded))
  · intro caller started hPhase
    rcases getElem?_concat_iff.mp hPhase with hPhase | ⟨-, rfl⟩
    · exact recorded.succeeded caller started hPhase
    · exact allowed
  · intro caller error hPhase
    rcases getElem?_concat_iff.mp hPhase with hPhase | ⟨rfl, rfl⟩
    · exact recorded.failed caller error hPhase
    · exact .inl ⟨allowed, hNew.1⟩

/-- A caller that comes back without a start changes nothing for the others. -/
theorem Recorded.set_allowed (recorded : Recorded state log phases)
    (waits : phases[caller]? = some (.waiting ticket)) (allowed : Allowed state phase) :
    Recorded state log (phases.set caller phase) := by
  have hCaller : caller < phases.length := (List.getElem?_eq_some_iff.mp waits).1
  have hNew := recorded.not_begun_of_waiting waits
  refine ⟨recorded.orderly, recorded.inFlight, recorded.idle, recorded.started_iff, ?_, ?_, ?_, ?_,
    ?_, ?_⟩
  · rw [recorded.starting_iff]
    constructor
    · rintro ⟨other, next, hPhase⟩
      exact ⟨other, next, getElem?_set_of_ne waits hPhase nofun⟩
    · rintro ⟨other, next, hPhase⟩
      rcases (getElem?_set_iff hCaller).mp hPhase with ⟨-, rfl⟩ | ⟨-, hPhase⟩
      · exact allowed.elim
      · exact ⟨other, next, hPhase⟩
  · intro other next hPhase
    rcases (getElem?_set_iff hCaller).mp hPhase with ⟨-, rfl⟩ | ⟨-, hPhase⟩
    · exact allowed.elim
    · exact recorded.startingBegun other next hPhase
  · intro other hBegun
    rcases recorded.begunBy other hBegun with ⟨next, hPhase⟩ | hEnded
    · exact .inl ⟨next, getElem?_set_of_ne waits hPhase nofun⟩
    · exact .inr hEnded
  · intro other result hEnded
    exact getElem?_set_of_ne waits (recorded.endedBy other result hEnded) nofun
  · intro other started hPhase
    rcases (getElem?_set_iff hCaller).mp hPhase with ⟨-, rfl⟩ | ⟨-, hPhase⟩
    · exact allowed
    · exact recorded.succeeded other started hPhase
  · intro other error hPhase
    rcases (getElem?_set_iff hCaller).mp hPhase with ⟨rfl, rfl⟩ | ⟨-, hPhase⟩
    · exact .inl ⟨allowed, hNew.1⟩
    · exact recorded.failed other error hPhase

/-- A start that is begun is the only one under way. -/
theorem Recorded.set_starting (recorded : Recorded state log phases)
    (waits : phases[caller]? = some (.waiting ticket)) (hIdle : state = .notStarted) :
    Recorded .starting (log ++ [.begun caller]) (phases.set caller (.starting ticket)) := by
  have hCaller : caller < phases.length := (List.getElem?_eq_some_iff.mp waits).1
  have hCounted := recorded.idle (by simp [hIdle])
  have hUnstarted (other : Nat) (started : ι) : .ended other (.ok started) ∉ log := by
    intro hEnded
    have hStarted := (recorded.started_iff started).mpr ⟨other, hEnded⟩
    simp [hIdle] at hStarted
  have hNoStart (other next : Nat) : phases[other]? ≠ some (.starting next) := by
    intro hPhase
    have hStarting := recorded.starting_iff.mpr ⟨other, next, hPhase⟩
    simp [hIdle] at hStarting
  refine ⟨?_, ?_, nofun, ?_, ?_, ?_, ?_, ?_, ?_, ?_⟩
  · refine recorded.orderly.concat hUnstarted ?_ ?_
    · simp [hCounted]
    · simp [hCounted]
  · simp [hCounted]
  · simp [hUnstarted]
  · simp only [true_iff]
    exact ⟨caller, ticket, (getElem?_set_iff hCaller).mpr (.inl ⟨rfl, rfl⟩)⟩
  · intro other next hPhase
    rcases (getElem?_set_iff hCaller).mp hPhase with ⟨rfl, -⟩ | ⟨-, hPhase⟩
    · simp
    · exact absurd hPhase (hNoStart other next)
  · intro other hBegun
    rcases List.mem_append.mp hBegun with hBegun | hBegun
    · rcases recorded.begunBy other hBegun with ⟨next, hPhase⟩ | ⟨result, hEnded⟩
      · exact absurd hPhase (hNoStart other next)
      · exact .inr ⟨result, List.mem_append_left _ hEnded⟩
    · obtain rfl : other = caller := by simpa using hBegun
      exact .inl ⟨ticket, (getElem?_set_iff hCaller).mpr (.inl ⟨rfl, rfl⟩)⟩
  · intro other result hEnded
    have hEnded : .ended other result ∈ log := by simpa using hEnded
    exact getElem?_set_of_ne waits (recorded.endedBy other result hEnded) nofun
  · intro other started hPhase
    rcases (getElem?_set_iff hCaller).mp hPhase with ⟨-, hPhase⟩ | ⟨-, hPhase⟩
    · cases hPhase
    · have hStarted := recorded.succeeded other started hPhase
      simp [hIdle] at hStarted
  · intro other error hPhase
    rcases (getElem?_set_iff hCaller).mp hPhase with ⟨-, hPhase⟩ | ⟨hDifferent, hPhase⟩
    · cases hPhase
    · rcases recorded.failed other error hPhase with ⟨hError, hBegun⟩ | ⟨failed, hEnded, hError⟩
      · exact .inl ⟨hError, by simp [hBegun, hDifferent]⟩
      · exact .inr ⟨failed, List.mem_append_left _ hEnded, hError⟩

/-- What a start that ended came to is told to the caller that made it. -/
theorem Recorded.set_ended (recorded : Recorded state log phases)
    (starts : phases[caller]? = some (.starting ticket))
    (hOnly : ∀ other next, phases[other]? = some (.starting next) → other = caller)
    (result : Except BusError ι) :
    Recorded (.ofResult result) (log ++ [.ended caller result])
      (phases.set caller (.finished (result.mapError BusError.ofFailedStart))) := by
  have hCaller : caller < phases.length := (List.getElem?_eq_some_iff.mp starts).1
  have hStarting := recorded.starting_iff.mpr ⟨caller, ticket, starts⟩
  have hCounted := recorded.inFlight hStarting
  have hUnstarted (other : Nat) (started : ι) : .ended other (.ok started) ∉ log := by
    intro hEnded
    have hStarted := (recorded.started_iff started).mpr ⟨other, hEnded⟩
    simp [hStarting] at hStarted
  have hEnded_iff (other : Nat) (answer : Except BusError ι) :
      .ended other answer ∈ log ++ [.ended caller result] ↔
        .ended other answer ∈ log ∨ (other = caller ∧ answer = result) := by
    simp
  have hPhase_iff (other : Nat) (next : StartPhase ι) :
      (phases.set caller (.finished (result.mapError BusError.ofFailedStart)))[other]? = some next ↔
        (other = caller ∧ next = .finished (result.mapError BusError.ofFailedStart)) ∨
          (other ≠ caller ∧ phases[other]? = some next) :=
    getElem?_set_iff hCaller
  have hNoStart (other next : Nat) :
      (phases.set caller (.finished (result.mapError BusError.ofFailedStart)))[other]? ≠
        some (.starting next) := by
    intro hPhase
    rcases (hPhase_iff other _).mp hPhase with ⟨-, hPhase⟩ | ⟨hOther, hPhase⟩
    · cases hPhase
    · exact hOther (hOnly other next hPhase)
  have hState : StartState.ofResult result ≠ .starting := by
    cases result <;> nofun
  refine ⟨?_, fun hStarting => absurd hStarting hState, ?_, ?_, ?_, ?_, ?_, ?_, ?_, ?_⟩
  · refine recorded.orderly.concat hUnstarted ?_ ?_
    · simp [hCounted]
    · simp [hCounted]
  · simp [hCounted]
  · intro started
    simp only [hEnded_iff]
    constructor
    · intro hStarted
      refine ⟨caller, .inr ⟨rfl, ?_⟩⟩
      cases result with
      | ok i => exact congrArg Except.ok (StartState.started.inj hStarted).symm
      | error error => cases hStarted
    · rintro ⟨other, hEnded | ⟨-, rfl⟩⟩
      · exact absurd hEnded (hUnstarted other started)
      · rfl
  · constructor
    · intro hStarting
      exact absurd hStarting hState
    · rintro ⟨other, next, hPhase⟩
      exact absurd hPhase (hNoStart other next)
  · intro other next hPhase
    exact absurd hPhase (hNoStart other next)
  · intro other hBegun
    have hBegun : .begun other ∈ log := by simpa using hBegun
    rcases recorded.begunBy other hBegun with ⟨next, hPhase⟩ | ⟨answer, hEnded⟩
    · exact .inr ⟨result, (hEnded_iff other result).mpr (.inr ⟨hOnly other next hPhase, rfl⟩)⟩
    · exact .inr ⟨answer, (hEnded_iff other answer).mpr (.inl hEnded)⟩
  · intro other answer hEnded
    rcases (hEnded_iff other answer).mp hEnded with hEnded | ⟨rfl, rfl⟩
    · exact getElem?_set_of_ne starts (recorded.endedBy other answer hEnded) nofun
    · exact (hPhase_iff other _).mpr (.inl ⟨rfl, rfl⟩)
  · intro other started hPhase
    rcases (hPhase_iff other _).mp hPhase with ⟨-, hPhase⟩ | ⟨-, hPhase⟩
    · cases result with
      | ok i => cases hPhase; rfl
      | error error => cases hPhase
    · have hStarted := recorded.succeeded other started hPhase
      simp [hStarting] at hStarted
  · intro other error hPhase
    rcases (hPhase_iff other _).mp hPhase with ⟨rfl, hResult⟩ | ⟨-, hPhase⟩
    · cases result with
      | ok i => cases hResult
      | error failed =>
          cases hResult
          exact .inr ⟨failed, (hEnded_iff other _).mpr (.inr ⟨rfl, rfl⟩), rfl⟩
    · rcases recorded.failed other error hPhase with ⟨hError, hBegun⟩ | ⟨failed, hEnded, hError⟩
      · exact .inl ⟨hError, by simpa using hBegun⟩
      · exact .inr ⟨failed, (hEnded_iff other _).mpr (.inl hEnded), hError⟩

end Recorded

structure IsSound (protocol : StartProtocol ι) : Prop where
  inLine : InLine protocol.gate protocol.phases
  recorded : Recorded protocol.gate.state protocol.log protocol.phases

variable {protocol next : StartProtocol ι}

theorem isSound_initial : (initial : StartProtocol ι).IsSound :=
  ⟨inLine_initial, recorded_initial⟩

/-- The caller that makes a start is the only one that does, for it is the one
whose turn it is. -/
theorem IsSound.starting_unique (sound : protocol.IsSound) {caller other ticket last : Nat}
    (starts : protocol.phases[caller]? = some (.starting ticket))
    (hOther : protocol.phases[other]? = some (.starting last)) : other = caller := by
  have hTurn := sound.inLine.atTurn caller ticket starts
  have hLast := sound.inLine.atTurn other last hOther
  obtain rfl : last = ticket := Option.some.inj (hLast.symm.trans hTurn)
  exact sound.inLine.ticket_injective (ticketOf_of_getElem? hOther) (ticketOf_of_getElem? starts)

/-- No start is under way while a caller whose turn it is still waits. -/
theorem IsSound.idle_of_turn (sound : protocol.IsSound) {caller ticket : Nat}
    (waits : protocol.phases[caller]? = some (.waiting ticket))
    (hTurn : protocol.gate.holder = some ticket) : protocol.gate.state ≠ .starting := by
  intro hStarting
  obtain ⟨other, last, starts⟩ := sound.recorded.starting_iff.mp hStarting
  have hLast := sound.inLine.atTurn other last starts
  obtain rfl : last = ticket := Option.some.inj (hLast.symm.trans hTurn)
  obtain rfl := sound.inLine.ticket_injective (ticketOf_of_getElem? starts)
    (ticketOf_of_getElem? waits)
  cases waits.symm.trans starts

theorem Step.isSound (step : Step protocol next) (sound : protocol.IsSound) : next.IsSound := by
  obtain ⟨inLine, recorded⟩ := sound
  cases step with
  | finds hStarted => exact ⟨inLine.concat_finished _, recorded.concat hStarted⟩
  | declines => exact ⟨inLine.concat_finished _, recorded.concat rfl⟩
  | queues =>
      have hState := (StartGate.enter_snd inLine.formed).2.2.1
      refine ⟨inLine.concat_waiting, ?_⟩
      dsimp only at *
      rw [hState]
      exact recorded.concat trivial
  | leaves waits =>
      have hTicket := ticketOf_of_getElem? waits
      refine ⟨inLine.set_finished _ hTicket (StartGate.isFormed_leave inLine.formed)
        (StartGate.queue_leave inLine.formed _) StartGate.nextTicket_leave ?_, ?_⟩
      · intro other hHolder hOther
        exact StartGate.holder_leave hHolder hOther
      · dsimp only at *
        rw [StartGate.state_leave]
        exact recorded.set_allowed waits rfl
  | @passes gate log phases caller ticket started waits hTurn hStarted =>
      have hTicket : ticketOf phases caller = some ticket := ticketOf_of_getElem? waits
      exact ⟨inLine.set_released hTicket hTurn gate.state _, recorded.set_allowed waits hStarted⟩
  | @begins gate log phases caller ticket waits hTurn hUnstarted =>
      have hIdle := IsSound.idle_of_turn ⟨inLine, recorded⟩ waits hTurn
      have hState : gate.state = .notStarted := by
        cases hState : gate.state with
        | notStarted => rfl
        | starting => exact absurd hState hIdle
        | started i => exact absurd hState (hUnstarted i)
      exact ⟨inLine.set_starting waits hTurn _, recorded.set_starting waits hState⟩
  | @ends gate log phases caller ticket starts result =>
      have hTicket : ticketOf phases caller = some ticket := ticketOf_of_getElem? starts
      have hTurn := inLine.atTurn caller ticket starts
      refine ⟨inLine.set_released hTicket hTurn _ _, recorded.set_ended starts ?_ result⟩
      intro other last hOther
      exact IsSound.starting_unique ⟨inLine, recorded⟩ starts hOther

/-- A caller that has come back makes no more starts. -/
theorem Step.of_finished (step : Step protocol next) {caller : Nat} {result : Except BusError ι}
    (hFinished : protocol.phases[caller]? = some (.finished result)) :
    next.phases[caller]? = some (.finished result) ∧
      ∀ event ∈ next.log, event.caller = caller → event ∈ protocol.log := by
  have hOther {other : Nat} {phase : StartPhase ι} (hPhase : protocol.phases[other]? = some phase)
      (hNe : .finished result ≠ phase) : other ≠ caller := by
    rintro rfl
    exact hNe (Option.some.inj (hFinished.symm.trans hPhase))
  cases step with
  | finds => exact ⟨getElem?_concat_iff.mpr (.inl hFinished), fun _ hEvent _ => hEvent⟩
  | declines => exact ⟨getElem?_concat_iff.mpr (.inl hFinished), fun _ hEvent _ => hEvent⟩
  | queues => exact ⟨getElem?_concat_iff.mpr (.inl hFinished), fun _ hEvent _ => hEvent⟩
  | leaves waits => exact ⟨getElem?_set_of_ne waits hFinished nofun, fun _ hEvent _ => hEvent⟩
  | passes waits => exact ⟨getElem?_set_of_ne waits hFinished nofun, fun _ hEvent _ => hEvent⟩
  | begins waits =>
      refine ⟨getElem?_set_of_ne waits hFinished nofun, ?_⟩
      intro event hEvent hCaller
      rcases List.mem_append.mp hEvent with hEvent | hEvent
      · exact hEvent
      · rw [List.mem_singleton.mp hEvent] at hCaller
        exact absurd hCaller (hOther waits nofun)
  | ends starts result =>
      refine ⟨getElem?_set_of_ne starts hFinished nofun, ?_⟩
      intro event hEvent hCaller
      rcases List.mem_append.mp hEvent with hEvent | hEvent
      · exact hEvent
      · rw [List.mem_singleton.mp hEvent] at hCaller
        exact absurd hCaller (hOther starts nofun)

theorem of_finished_of_steps (steps : Relation.ReflTransGen Step protocol next) {caller : Nat}
    {result : Except BusError ι}
    (hFinished : protocol.phases[caller]? = some (.finished result)) :
    next.phases[caller]? = some (.finished result) ∧
      ∀ event ∈ next.log, event.caller = caller → event ∈ protocol.log := by
  induction steps with
  | refl => exact ⟨hFinished, fun _ hEvent _ => hEvent⟩
  | tail steps step ih =>
      obtain ⟨hLater, hEvents⟩ := step.of_finished ih.1
      refine ⟨hLater, ?_⟩
      intro event hEvent hCaller
      exact ih.2 event (hEvents event hEvent hCaller) hCaller

/-- Whatever the callers do, in whatever order, the protocol stays sound. -/
theorem isSound_of_steps (steps : Relation.ReflTransGen Step protocol next)
    (sound : protocol.IsSound) : next.IsSound := by
  induction steps with
  | refl => exact sound
  | tail steps step ih => exact step.isSound ih

end StartProtocol

end BusEndpoint
