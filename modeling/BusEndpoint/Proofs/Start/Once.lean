import BusEndpoint.InMemory.HostState
import BusEndpoint.Proofs.Start.Callers
import BusEndpoint.Task.Rounds

/-! One start for all callers. However many callers there are, in whatever order
they go on and are cancelled, and whatever the starts of the engine come to, at
most one start is under way and none is made after one that succeeded; every
caller is told of that one, of its own failed start, or that it is cancelled. -/

namespace BusEndpoint

open BusEndpoint.Task

variable {σ κ ς ι : Type}

namespace Callers

/-- What a caller has been told when it came back. -/
def result? (system : Callers σ ι) (caller : Nat) : Option (Except BusError ι) :=
  system.callers[caller]?.bind fun call => call.progress.result?

/-- What holds of the callers at every moment, and of what each of them does when
it goes on. -/
structure StartsOnce [Host σ] (lazy : LazyStart σ κ ς ι) (log : Slot σ (StartLog ι))
    (system : Callers σ ι) : Prop where
  /-- There has never been more than one start under way, and a start that
  succeeded is the last one. -/
  orderly : (log.get system.host).IsOrderly
  started_iff : ∀ started, lazy.state system.host = .started started ↔
    ∃ starter, .ended starter (.ok started) ∈ log.get system.host
  starting_iff : lazy.state system.host = .starting ↔
    (log.get system.host).begun = (log.get system.host).ended + 1
  succeeded : ∀ caller started, system.result? caller = some (.ok started) →
    ∃ starter, .ended starter (.ok started) ∈ log.get system.host
  sameInstance : ∀ caller other started engineInstance,
    system.result? caller = some (.ok started) →
    system.result? other = some (.ok engineInstance) → started = engineInstance
  /-- A failed start fails the caller that made it, and nobody else. -/
  failedStart : ∀ caller error, .ended caller (.error error) ∈ log.get system.host →
    system.result? caller = some (.error error.ofFailedStart)
  failed : ∀ caller error, system.result? caller = some (.error error) →
    (error = .cancelled ∧ .begun caller ∉ log.get system.host) ∨
      ∃ failed, .ended caller (.error failed) ∈ log.get system.host ∧ error = failed.ofFailedStart
  /-- Who comes when the instance is there is given it, cancelled or not. -/
  arrivesStarted : ∀ started cancel, lazy.state system.host = .started started →
    system.arrive lazy log cancel =
      ⟨system.host, system.callers ++ [⟨cancel, .finished (.ok started)⟩]⟩
  arrivesCancelled : ∀ cancel, (∀ started, lazy.state system.host ≠ .started started) →
    cancel system.host = true → system.arrive lazy log cancel =
      ⟨system.host, system.callers ++ [⟨cancel, .finished (.error .cancelled)⟩]⟩
  /-- Who comes in a call that is not cancelled, whatever becomes of the gate, is
  told of no failure but that of its own start. -/
  arrivesUnharmed : ∀ cancel, cancel system.host = false →
    (∀ gate, cancel (lazy.gate.set gate system.host) = false) →
    ∀ error, (system.arrive lazy log cancel).result? system.callers.length = some (.error error) →
      ∃ failed, .ended system.callers.length (.error failed) ∈
        log.get (system.arrive lazy log cancel).host ∧ error = failed.ofFailedStart
  /-- A waiting caller that goes on in a cancelled call makes no start. -/
  waiterCancelled : ∀ (caller : Nat) cancel rest,
    system.callers[caller]? = some ⟨cancel, .suspended rest⟩ →
    .begun caller ∉ log.get system.host → cancel system.host = true →
      (system.resume caller).result? caller = some (.error .cancelled) ∧
        log.get (system.resume caller).host = log.get system.host
  /-- A waiting caller that is not cancelled is told of no failure but that of
  its own start. -/
  waiterUnharmed : ∀ (caller : Nat) cancel rest,
    system.callers[caller]? = some ⟨cancel, .suspended rest⟩ →
    .begun caller ∉ log.get system.host → cancel system.host = false →
    ∀ error, (system.resume caller).result? caller = some (.error error) →
      ∃ failed, .ended caller (.error failed) ∈ log.get (system.resume caller).host ∧
        error = failed.ofFailedStart
  /-- A waiting caller that is not cancelled makes its own start once all who
  came before it have come back without one. -/
  waiterStarts : ∀ (caller : Nat) cancel rest,
    system.callers[caller]? = some ⟨cancel, .suspended rest⟩ →
    .begun caller ∉ log.get system.host → cancel system.host = false →
    (∀ other < caller, (system.result? other).isSome = true) →
    (∀ started, lazy.state system.host ≠ .started started) →
      ∃ more, log.get (system.resume caller).host =
        log.get system.host ++ .begun caller :: more
  /-- A waiting caller that is not cancelled is given the instance, once it is
  there and all who came before it have come back. -/
  waiterTakes : ∀ (caller : Nat) cancel rest,
    system.callers[caller]? = some ⟨cancel, .suspended rest⟩ →
    .begun caller ∉ log.get system.host → cancel system.host = false →
    (∀ other < caller, (system.result? other).isSome = true) →
    ∀ started, lazy.state system.host = .started started →
      (system.resume caller).result? caller = some (.ok started)
  /-- A caller whose start is under way goes on with it, cancelled or not, until
  it has ended. -/
  startUncut : ∀ (caller : Nat) cancel rest,
    system.callers[caller]? = some ⟨cancel, .suspended rest⟩ →
    .begun caller ∈ log.get system.host →
      ((system.resume caller).result? caller = none ∧
        log.get (system.resume caller).host = log.get system.host) ∨
      ∃ result, (system.resume caller).result? caller =
          some (result.mapError BusError.ofFailedStart) ∧
        log.get (system.resume caller).host = log.get system.host ++ [.ended caller result] ∧
        lazy.state (system.resume caller).host = .ofResult result

section At

variable [Host σ] {lazy : LazyStart σ κ ς ι} {log : Slot σ (StartLog ι)} {system : Callers σ ι}
  {protocol : StartProtocol ι} {caller : Nat} {cancel : CancellationToken σ}
  {rest : Task σ (Except BusError ι)}

theorem At.gate_eq (isAt : At lazy log system protocol) :
    lazy.gate.get system.host = protocol.gate :=
  congrArg Prod.fst isAt.view_eq

theorem At.log_eq (isAt : At lazy log system protocol) : log.get system.host = protocol.log :=
  congrArg Prod.snd isAt.view_eq

theorem At.state_eq (isAt : At lazy log system protocol) :
    lazy.state system.host = protocol.gate.state :=
  congrArg StartGate.state isAt.gate_eq

theorem At.phase_of_caller (isAt : At lazy log system protocol) {call : Caller σ ι}
    (hCaller : system.callers[caller]? = some call) :
    ∃ phase, protocol.phases[caller]? = some phase ∧ Shows lazy log caller call phase := by
  have hIndex := (List.getElem?_eq_some_iff.mp hCaller).1
  rw [isAt.length_eq] at hIndex
  have hPhase := List.getElem?_eq_getElem hIndex
  exact ⟨_, hPhase, isAt.shows caller _ _ hCaller hPhase⟩

theorem At.result?_eq_some_iff (isAt : At lazy log system protocol)
    {result : Except BusError ι} :
    system.result? caller = some result ↔ protocol.phases[caller]? = some (.finished result) := by
  rw [result?]
  cases hCaller : system.callers[caller]? with
  | none =>
      rw [List.getElem?_eq_none_iff, isAt.length_eq] at hCaller
      simp [List.getElem?_eq_none hCaller]
  | some call =>
      obtain ⟨phase, hPhase, shows⟩ := isAt.phase_of_caller hCaller
      rw [hPhase]
      cases shows with
      | waiting => simp [Progress.result?]
      | starting keeps => simp [Progress.result?]
      | finished => simp [Progress.result?]

theorem At.ticketOf_eq_none (isAt : At lazy log system protocol)
    (hResult : (system.result? caller).isSome = true) :
    StartPhase.ticketOf protocol.phases caller = none := by
  obtain ⟨result, hResult⟩ := Option.isSome_iff_exists.mp hResult
  exact StartPhase.ticketOf_of_getElem? (isAt.result?_eq_some_iff.mp hResult)

/-- A caller that has given up control and begun no start waits for its turn. -/
theorem At.waiting_of_not_begun (isAt : At lazy log system protocol) (sound : protocol.IsSound)
    (hCaller : system.callers[caller]? = some ⟨cancel, .suspended rest⟩)
    (hBegun : .begun caller ∉ log.get system.host) :
    ∃ ticket, protocol.phases[caller]? = some (.waiting ticket) ∧
      rest = lazy.waitForTurn log caller cancel ticket := by
  obtain ⟨phase, hPhase, shows⟩ := isAt.phase_of_caller hCaller
  rw [isAt.log_eq] at hBegun
  cases shows with
  | @waiting _ ticket => exact ⟨ticket, hPhase, rfl⟩
  | starting keeps => exact absurd (sound.recorded.startingBegun caller _ hPhase) hBegun

/-- It is the turn of a waiting caller when all who came before it have come
back. -/
theorem At.turn_of_first (isAt : At lazy log system protocol) (sound : protocol.IsSound)
    {ticket : Nat} (waits : protocol.phases[caller]? = some (.waiting ticket))
    (hFirst : ∀ other < caller, (system.result? other).isSome = true) :
    (lazy.gate.get system.host).isTurnOf ticket = true := by
  have hHolder : protocol.gate.holder = some ticket := by
    apply sound.inLine.holder_of_first (StartPhase.ticketOf_of_getElem? waits)
    intro other hOther
    exact isAt.ticketOf_eq_none (hFirst other hOther)
  rw [isAt.gate_eq]
  exact decide_eq_true hHolder

/-- A caller that has given up control and begun a start is making it. -/
theorem At.starting_of_begun (isAt : At lazy log system protocol) (sound : protocol.IsSound)
    (hCaller : system.callers[caller]? = some ⟨cancel, .suspended rest⟩)
    (hBegun : .begun caller ∈ log.get system.host) :
    ∃ later : Task σ (Except BusError ι), later.Keeps (lazy.view log) ∧
      rest = later.andThen (lazy.afterStart log caller) := by
  obtain ⟨phase, hPhase, shows⟩ := isAt.phase_of_caller hCaller
  rw [isAt.log_eq] at hBegun
  cases shows with
  | waiting => exact absurd hBegun (sound.recorded.not_begun_of_waiting hPhase).1
  | @starting _ later _ keeps => exact ⟨later, keeps, rfl⟩

end At

section Resume

variable {system : Callers σ ι} {caller : Nat} {cancel : CancellationToken σ}
  {rest : Task σ (Except BusError ι)}

theorem resume_eq (hCaller : system.callers[caller]? = some ⟨cancel, .suspended rest⟩) :
    system.resume caller =
      ⟨(rest.poll system.host).2, system.callers.set caller ⟨cancel, (rest.poll system.host).1⟩⟩ := by
  rw [resume, hCaller]

theorem result?_resume (hCaller : system.callers[caller]? = some ⟨cancel, .suspended rest⟩) :
    (system.resume caller).result? caller = (rest.poll system.host).1.result? := by
  have hIndex := (List.getElem?_eq_some_iff.mp hCaller).1
  rw [resume_eq hCaller, result?, List.getElem?_set_self hIndex]
  rfl

end Resume

section Reachable

variable [Host σ] {lazy : LazyStart σ κ ς ι} {log : Slot σ (StartLog ι)} {system : Callers σ ι}
  {protocol : StartProtocol ι} {caller : Nat} {cancel : CancellationToken σ}
  {rest : Task σ (Except BusError ι)} {s : σ} {ticket : Nat}

/-- What a waiting caller that is not cancelled does when it goes on. -/
theorem poll_waiting (secludes : lazy.Secludes log) (caller ticket : Nat)
    (hCancel : cancel s = false) :
    ((lazy.gate.get s).isTurnOf ticket = false ∧
      ((lazy.waitForTurn log caller cancel ticket).poll s).1.result? = none) ∨
    (∃ started, lazy.state s = .started started ∧
      ((lazy.waitForTurn log caller cancel ticket).poll s).1.result? = some (.ok started)) ∨
    ∃ more, log.get ((lazy.waitForTurn log caller cancel ticket).poll s).2 =
      log.get s ++ .begun caller :: more := by
  cases hTurn : (lazy.gate.get s).isTurnOf ticket with
  | false =>
      rw [LazyStart.poll_waitForTurn_waits hCancel hTurn]
      exact .inl ⟨rfl, rfl⟩
  | true =>
      rw [LazyStart.poll_waitForTurn_turn hCancel hTurn]
      cases hStarted : (lazy.state s).started? with
      | some started =>
          have hStarted := StartState.started?_eq_some_iff.mp hStarted
          rw [LazyStart.poll_startBehindGate_started hStarted]
          exact .inr (.inl ⟨started, hStarted, rfl⟩)
      | none => exact .inr (.inr (secludes.log_startBehindGate hStarted))

theorem Reachable.failed (secludes : lazy.Secludes log) (reachable : Reachable lazy log system)
    {error : BusError} (hResult : system.result? caller = some (.error error)) :
    (error = .cancelled ∧ .begun caller ∉ log.get system.host) ∨
      ∃ failed, .ended caller (.error failed) ∈ log.get system.host ∧
        error = failed.ofFailedStart := by
  obtain ⟨protocol, isAt, sound⟩ := reachable.isSound secludes
  rw [isAt.log_eq]
  exact sound.recorded.failed caller error (isAt.result?_eq_some_iff.mp hResult)

theorem result?_arrive (lazy : LazyStart σ κ ς ι) (log : Slot σ (StartLog ι)) (system : Callers σ ι)
    (cancel : CancellationToken σ) :
    (system.arrive lazy log cancel).result? system.callers.length =
      (((lazy.observed log system.callers.length).ensureStarted cancel).poll
        system.host).1.result? := by
  rw [arrive, result?, List.getElem?_concat_length]
  rfl

theorem Reachable.arrivesUnharmed (secludes : lazy.Secludes log)
    (reachable : Reachable lazy log system) (hCancel : cancel system.host = false)
    (hGate : ∀ gate, cancel (lazy.gate.set gate system.host) = false) {error : BusError}
    (hResult : (system.arrive lazy log cancel).result? system.callers.length =
      some (.error error)) :
    ∃ failed, .ended system.callers.length (.error failed) ∈
      log.get (system.arrive lazy log cancel).host ∧ error = failed.ofFailedStart := by
  have arrived : Reachable lazy log (system.arrive lazy log cancel) :=
    reachable.step (.arrives cancel)
  have hPolled := result?_arrive lazy log system cancel
  cases hStarted : (lazy.state system.host).started? with
  | some started =>
      have hStarted := StartState.started?_eq_some_iff.mp hStarted
      rw [hPolled, LazyStart.poll_ensureStarted_started hStarted] at hResult
      cases hResult
  | none =>
      have hWaits : ((lazy.observed log system.callers.length).ensureStarted cancel).poll
          system.host = _ :=
        LazyStart.poll_ensureStarted_waits hStarted hCancel
      rw [hWaits] at hPolled
      rcases poll_waiting secludes system.callers.length (lazy.gate.get system.host).enter.1
          (hGate (lazy.gate.get system.host).enter.2) with
        ⟨-, hNone⟩ | ⟨started, -, hOk⟩ | ⟨more, hMore⟩
      · rw [hPolled, hNone] at hResult
        cases hResult
      · rw [hPolled, hOk] at hResult
        cases hResult
      · rcases arrived.failed secludes hResult with ⟨-, hUnbegun⟩ | hOwn
        · rw [arrive, hWaits] at hUnbegun
          exact absurd (by simp [hMore]) hUnbegun
        · exact hOwn

theorem Reachable.waiterCancelled (secludes : lazy.Secludes log)
    (reachable : Reachable lazy log system)
    (hCaller : system.callers[caller]? = some ⟨cancel, .suspended rest⟩)
    (hBegun : .begun caller ∉ log.get system.host) (hCancel : cancel system.host = true) :
    (system.resume caller).result? caller = some (.error .cancelled) ∧
      log.get (system.resume caller).host = log.get system.host := by
  obtain ⟨protocol, isAt, sound⟩ := reachable.isSound secludes
  obtain ⟨ticket, -, rfl⟩ := isAt.waiting_of_not_begun sound hCaller hBegun
  rw [result?_resume hCaller, resume_eq hCaller, LazyStart.poll_waitForTurn_cancelled hCancel]
  exact ⟨rfl, congrArg Prod.snd (secludes.view_modify_gate _ _)⟩

theorem Reachable.waiterUnharmed (secludes : lazy.Secludes log)
    (reachable : Reachable lazy log system)
    (hCaller : system.callers[caller]? = some ⟨cancel, .suspended rest⟩)
    (hBegun : .begun caller ∉ log.get system.host) (hCancel : cancel system.host = false)
    {error : BusError} (hResult : (system.resume caller).result? caller = some (.error error)) :
    ∃ failed, .ended caller (.error failed) ∈ log.get (system.resume caller).host ∧
      error = failed.ofFailedStart := by
  obtain ⟨protocol, isAt, sound⟩ := reachable.isSound secludes
  obtain ⟨ticket, -, rfl⟩ := isAt.waiting_of_not_begun sound hCaller hBegun
  have hPolled := result?_resume hCaller
  rcases poll_waiting secludes caller ticket hCancel with
    ⟨-, hNone⟩ | ⟨started, -, hStarted⟩ | ⟨more, hMore⟩
  · rw [hPolled, hNone] at hResult
    cases hResult
  · rw [hPolled, hStarted] at hResult
    cases hResult
  · have resumed : Reachable lazy log (system.resume caller) := reachable.step (.resumes caller)
    rcases resumed.failed secludes hResult with ⟨-, hUnbegun⟩ | hOwn
    · rw [resume_eq hCaller] at hUnbegun
      exact absurd (by simp [hMore]) hUnbegun
    · exact hOwn

theorem Reachable.waiterStarts (secludes : lazy.Secludes log)
    (reachable : Reachable lazy log system)
    (hCaller : system.callers[caller]? = some ⟨cancel, .suspended rest⟩)
    (hBegun : .begun caller ∉ log.get system.host) (hCancel : cancel system.host = false)
    (hFirst : ∀ other < caller, (system.result? other).isSome = true)
    (hUnstarted : ∀ started, lazy.state system.host ≠ .started started) :
    ∃ more, log.get (system.resume caller).host =
      log.get system.host ++ .begun caller :: more := by
  obtain ⟨protocol, isAt, sound⟩ := reachable.isSound secludes
  obtain ⟨ticket, waits, rfl⟩ := isAt.waiting_of_not_begun sound hCaller hBegun
  rcases poll_waiting secludes caller ticket hCancel with
    ⟨hTurn, -⟩ | ⟨started, hStarted, -⟩ | hBegins
  · rw [isAt.turn_of_first sound waits hFirst] at hTurn
    cases hTurn
  · exact absurd hStarted (hUnstarted started)
  · rw [resume_eq hCaller]
    exact hBegins

theorem Reachable.waiterTakes (secludes : lazy.Secludes log)
    (reachable : Reachable lazy log system)
    (hCaller : system.callers[caller]? = some ⟨cancel, .suspended rest⟩)
    (hBegun : .begun caller ∉ log.get system.host) (hCancel : cancel system.host = false)
    (hFirst : ∀ other < caller, (system.result? other).isSome = true) {started : ι}
    (hStarted : lazy.state system.host = .started started) :
    (system.resume caller).result? caller = some (.ok started) := by
  obtain ⟨protocol, isAt, sound⟩ := reachable.isSound secludes
  obtain ⟨ticket, waits, rfl⟩ := isAt.waiting_of_not_begun sound hCaller hBegun
  have hTurn := isAt.turn_of_first sound waits hFirst
  rw [result?_resume hCaller, LazyStart.poll_waitForTurn_turn hCancel hTurn,
    LazyStart.poll_startBehindGate_started hStarted]
  rfl

theorem Reachable.startUncut (secludes : lazy.Secludes log) (reachable : Reachable lazy log system)
    (hCaller : system.callers[caller]? = some ⟨cancel, .suspended rest⟩)
    (hBegun : .begun caller ∈ log.get system.host) :
    ((system.resume caller).result? caller = none ∧
      log.get (system.resume caller).host = log.get system.host) ∨
    ∃ result, (system.resume caller).result? caller =
        some (result.mapError BusError.ofFailedStart) ∧
      log.get (system.resume caller).host = log.get system.host ++ [.ended caller result] ∧
      lazy.state (system.resume caller).host = .ofResult result := by
  obtain ⟨protocol, isAt, sound⟩ := reachable.isSound secludes
  obtain ⟨later, keeps, rfl⟩ := isAt.starting_of_begun sound hCaller hBegun
  rw [result?_resume hCaller, resume_eq hCaller]
  rcases secludes.poll_starting caller keeps system.host with
    ⟨more, t, hPoll, -, hView⟩ | ⟨result, t, hPoll, hView⟩
  · rw [hPoll]
    exact .inl ⟨rfl, congrArg Prod.snd hView⟩
  · rw [hPoll]
    obtain ⟨hGate, hLog⟩ := Prod.mk.inj hView
    exact .inr ⟨result, rfl, hLog, congrArg StartGate.state hGate⟩

/-- Whatever the callers, their tokens and the engine do, there is one start for
all of them. -/
theorem Reachable.startsOnce (secludes : lazy.Secludes log)
    (reachable : Reachable lazy log system) : system.StartsOnce lazy log := by
  obtain ⟨protocol, isAt, sound⟩ := reachable.isSound secludes
  have recorded := sound.recorded
  have succeeded (caller : Nat) (started : ι)
      (hResult : system.result? caller = some (.ok started)) :
      lazy.state system.host = .started started := by
    rw [isAt.state_eq]
    exact recorded.succeeded caller started (isAt.result?_eq_some_iff.mp hResult)
  have started_iff (started : ι) : lazy.state system.host = .started started ↔
      ∃ starter, .ended starter (.ok started) ∈ log.get system.host := by
    rw [isAt.state_eq, isAt.log_eq]
    exact recorded.started_iff started
  constructor
  · rw [isAt.log_eq]
    exact recorded.orderly
  · exact started_iff
  · rw [isAt.state_eq, isAt.log_eq]
    refine ⟨recorded.inFlight, ?_⟩
    intro hCounted
    refine Classical.byContradiction fun hIdle => ?_
    rw [recorded.idle hIdle] at hCounted
    omega
  · intro caller started hResult
    exact (started_iff started).mp (succeeded caller started hResult)
  · intro caller other started engineInstance hResult hOther
    have hSame := (succeeded caller started hResult).symm.trans
      (succeeded other engineInstance hOther)
    exact StartState.started.inj hSame
  · intro caller error hEnded
    rw [isAt.log_eq] at hEnded
    exact isAt.result?_eq_some_iff.mpr (recorded.endedBy caller _ hEnded)
  · intro caller error hResult
    exact reachable.failed secludes hResult
  · intro started cancel hStarted
    rw [arrive, LazyStart.poll_ensureStarted_started hStarted]
  · intro cancel hUnstarted hCancel
    have hUnstarted : (lazy.state system.host).started? = none := by
      cases hState : (lazy.state system.host).started? with
      | none => rfl
      | some started => exact absurd (StartState.started?_eq_some_iff.mp hState) (hUnstarted started)
    rw [arrive, LazyStart.poll_ensureStarted_cancelled hUnstarted hCancel]
  · intro cancel hCancel hGate error hResult
    exact reachable.arrivesUnharmed secludes hCancel hGate hResult
  · intro caller cancel rest hCaller hBegun hCancel
    exact reachable.waiterCancelled secludes hCaller hBegun hCancel
  · intro caller cancel rest hCaller hBegun hCancel error hResult
    exact reachable.waiterUnharmed secludes hCaller hBegun hCancel hResult
  · intro caller cancel rest hCaller hBegun hCancel hFirst hUnstarted
    exact reachable.waiterStarts secludes hCaller hBegun hCancel hFirst hUnstarted
  · intro caller cancel rest hCaller hBegun hCancel hFirst started hStarted
    exact reachable.waiterTakes secludes hCaller hBegun hCancel hFirst hStarted
  · intro caller cancel rest hCaller hBegun
    exact reachable.startUncut secludes hCaller hBegun

end Reachable

end Callers

namespace LazyStart

open InMemory (HostState)

/-- A lazy start that keeps its gate beside the host on which the engine works,
and the log beside both. -/
def beside (configuration : Configuration) (start : Task HostState (Except BusError ι)) :
    LazyStart ((HostState × StartGate ι) × StartLog ι) Sink Unit ι where
  engine :=
    { start := fun _ _ _ => start.within (fun s => s.1.1) fun host s => ((host, s.1.2), s.2)
      pipeline := fun _ _ => none
      session := fun _ => ⟨fun _ _ _ => done (.ok ()), fun _ _ _ => done (.ok ()),
        fun _ _ _ => done (.ok ()), fun _ _ _ => done (.ok ())⟩ }
  configuration := configuration
  services := ()
  logBook := ⟨(HostState.loggerContext "lazy").onFirst.onFirst, fun _ s => s⟩
  gate := Slot.second.onFirst

theorem secludes_beside (configuration : Configuration)
    (start : Task HostState (Except BusError ι)) :
    (beside configuration start).Secludes Slot.second where
  gate_log _ _ := rfl
  log_gate _ _ := rfl
  report _ _ := rfl
  start := by
    change Keeps _ (start.within (fun s => s.1.1) fun host s => ((host, s.1.2), s.2))
    refine keeps_within ?_ start
    intro _ _
    rfl

/-- A lazy start whose engine gives up control once and then fails. -/
def failing : LazyStart ((HostState × StartGate Nat) × StartLog Nat) Sink Unit Nat :=
  beside ⟨"lazy", "", none, .receiveOnly, {}, true⟩ (pause (done (.error (.transport "down"))))

end LazyStart

/-- Two callers come, and the start that the first of them makes fails. -/
theorem Callers.startsOnce_failed :
    ∃ system, Reachable LazyStart.failing Slot.second system ∧
      system.result? 0 = some (.error (.startup (.bus (.transport "down")))) ∧
      system.result? 1 = none ∧ system.StartsOnce LazyStart.failing Slot.second := by
  have fresh : Reachable LazyStart.failing Slot.second ⟨(({}, {}), []), []⟩ := .fresh rfl
  have came := (fresh.step (.arrives fun _ => false)).step (.arrives fun _ => false)
  have resumed := came.step (.resumes 0)
  exact ⟨_, resumed, rfl, rfl, resumed.startsOnce (LazyStart.secludes_beside _ _)⟩

end BusEndpoint
