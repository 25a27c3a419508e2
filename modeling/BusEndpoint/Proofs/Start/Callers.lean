import BusEndpoint.Proofs.Start.Protocol
import BusEndpoint.Proofs.Task.Frame
import BusEndpoint.Proofs.Task.Runs

/-! The callers of one lazy start. Any number of callers ask for the started
instance, each under a token of its own; each goes on until it comes back or
gives up control, in any order, and in between others change the host in any
way. The starts of the engine are noted in a slot of the host with the caller
that makes them. What the callers do is what the protocol of callers allows. -/

namespace BusEndpoint

open BusEndpoint.Task

variable {σ κ ς ι : Type}

namespace LazyStart

/-- Note an event in the log. -/
def note (log : Slot σ (StartLog ι)) (event : StartEvent ι) : Task σ Unit :=
  .perform (modify (log.modify (· ++ [event])))

/-- The lazy start as one caller uses it: the starts that it makes are noted. -/
def observed (lazy : LazyStart σ κ ς ι) (log : Slot σ (StartLog ι)) (caller : Nat) :
    LazyStart σ κ ς ι :=
  { lazy with
    engine := { lazy.engine with
      start := fun configuration services logBook => do
        note log (.begun caller)
        let result ← lazy.engine.start configuration services logBook
        note log (.ended caller result)
        return result } }

/-- The start of the engine, as the lazy start calls it. -/
def engineStart (lazy : LazyStart σ κ ς ι) : Task σ (Except BusError ι) :=
  lazy.engine.start lazy.configuration lazy.services lazy.logBook

/-- What is seen of the callers in the state of the host. -/
def view (lazy : LazyStart σ κ ς ι) (log : Slot σ (StartLog ι)) (s : σ) :
    StartGate ι × StartLog ι :=
  (lazy.gate.get s, log.get s)

/-- The gate and the log are kept in slots of their own: neither the engine nor
what is reported to the host reaches them. -/
structure Secludes [Host σ] (lazy : LazyStart σ κ ς ι) (log : Slot σ (StartLog ι)) : Prop where
  gate_log : ∀ events s, lazy.gate.get (log.set events s) = lazy.gate.get s
  log_gate : ∀ gate s, log.get (lazy.gate.set gate s) = log.get s
  report : ∀ diagnostic s, lazy.view log (Host.report diagnostic s) = lazy.view log s
  start : lazy.engineStart.Keeps (lazy.view log)

section Polls

variable [Host σ] {lazy : LazyStart σ κ ς ι} {log : Slot σ (StartLog ι)} {caller ticket : Nat}
  {cancel : CancellationToken σ} {s : σ}

/-- The host when a caller hands over to the engine. -/
def atStart (lazy : LazyStart σ κ ς ι) (log : Slot σ (StartLog ι)) (caller : Nat) (s : σ) : σ :=
  log.modify (· ++ [.begun caller]) (Host.report (.event .info
    [("endpoint", .text lazy.configuration.endpointName),
      ("send_only", .flag lazy.configuration.sendOnly)] "starting endpoint")
    (lazy.gate.modify (StartGate.setState .starting) s))

/-- What the lazy start keeps of a start that has ended. -/
def keepResult (lazy : LazyStart σ κ ς ι) : Except BusError ι → Task σ (Except BusError ι)
  | .error error =>
    (lazy.change (StartGate.setState .notStarted)).andThen fun _ =>
      (Task.event .error [("endpoint", .text lazy.configuration.endpointName),
        ("error", .text error.message)] "endpoint start failed").andThen fun _ =>
          done (.error error.ofFailedStart)
  | .ok started =>
    (lazy.change (StartGate.setState (.started started))).andThen fun _ =>
      (Task.event .info [("endpoint", .text lazy.configuration.endpointName)]
        "endpoint started").andThen fun _ => done (.ok started)

/-- What a caller does once the start that it made has ended. -/
def afterStart (lazy : LazyStart σ κ ς ι) (log : Slot σ (StartLog ι)) (caller : Nat)
    (result : Except BusError ι) : Task σ (Except BusError ι) :=
  (note log (.ended caller result)).andThen fun _ =>
    (lazy.keepResult result).andThen fun answer =>
      (lazy.change StartGate.release).andThen fun _ => done answer

/-- A caller that waits for its turn. -/
def waitForTurn (lazy : LazyStart σ κ ς ι) (log : Slot σ (StartLog ι)) (caller : Nat)
    (cancel : CancellationToken σ) (ticket : Nat) : Task σ (Except BusError ι) :=
  .wait (fun s => cancel s || (lazy.gate.get s).isTurnOf ticket)
    ((observe cancel).andThen fun cancelled =>
      if cancelled then
        (lazy.change (StartGate.leave ticket)).andThen fun _ => done (.error .cancelled)
      else (lazy.observed log caller).startBehindGate)

theorem poll_startBehindGate (hUnstarted : (lazy.state s).started? = none) :
    ((lazy.observed log caller).startBehindGate).poll s =
      (lazy.engineStart.andThen (lazy.afterStart log caller)).poll (lazy.atStart log caller s) := by
  have hState : (lazy.observed log caller).state = lazy.state := rfl
  have hStart : (lazy.observed log caller).engine.start (lazy.observed log caller).configuration
      (lazy.observed log caller).services (lazy.observed log caller).logBook =
        (note log (.begun caller)).andThen fun _ => lazy.engineStart.andThen fun result =>
          (note log (.ended caller result)).andThen fun _ => done result := rfl
  simp only [startBehindGate, startUnlessStarted, start, bind_eq, pure_eq, andThen_assoc,
    poll_observe_andThen, hState, hUnstarted]
  rw [hStart]
  simp only [andThen_assoc]
  -- The three changes before the start of the engine are carried out by the poll.
  change (lazy.engineStart.andThen _).poll _ = _
  congr 2

/-- A caller that comes when the instance is there is given it. -/
theorem poll_ensureStarted_started {started : ι} (hStarted : lazy.state s = .started started) :
    ((lazy.observed log caller).ensureStarted cancel).poll s = (.finished (.ok started), s) := by
  have hState : ((lazy.observed log caller).state s).started? = some started := by
    change (lazy.state s).started? = some started
    rw [hStarted]
    rfl
  simp only [ensureStarted, bind_eq, pure_eq, poll_observe_andThen, hState]
  rfl

/-- A caller that comes in a cancelled call, when the instance is not there, has
no effect. -/
theorem poll_ensureStarted_cancelled (hUnstarted : (lazy.state s).started? = none)
    (hCancel : cancel s = true) :
    ((lazy.observed log caller).ensureStarted cancel).poll s =
      (.finished (.error .cancelled), s) := by
  have hState : (lazy.observed log caller).state = lazy.state := rfl
  simp only [ensureStarted, bind_eq, pure_eq, poll_observe_andThen, hState, hUnstarted, hCancel]
  rfl

/-- Any other caller takes a ticket and waits for its turn. -/
theorem poll_ensureStarted_waits (hUnstarted : (lazy.state s).started? = none)
    (hCancel : cancel s = false) :
    ((lazy.observed log caller).ensureStarted cancel).poll s =
      (lazy.waitForTurn log caller cancel (lazy.gate.get s).enter.1).poll
        (lazy.gate.set (lazy.gate.get s).enter.2 s) := by
  have hState : (lazy.observed log caller).state = lazy.state := rfl
  simp only [ensureStarted, bind_eq, pure_eq, poll_observe_andThen, hState, hUnstarted, hCancel]
  rfl

/-- A waiting caller whose call is cancelled gives up its ticket. -/
theorem poll_waitForTurn_cancelled (hCancel : cancel s = true) :
    (lazy.waitForTurn log caller cancel ticket).poll s =
      (.finished (.error .cancelled), lazy.gate.modify (StartGate.leave ticket) s) := by
  simp only [waitForTurn, poll, hCancel, Bool.true_or, if_true, poll_observe_andThen]
  rfl

/-- A waiting caller goes on waiting until it is its turn. -/
theorem poll_waitForTurn_waits (hCancel : cancel s = false)
    (hTurn : (lazy.gate.get s).isTurnOf ticket = false) :
    (lazy.waitForTurn log caller cancel ticket).poll s =
      (.suspended (lazy.waitForTurn log caller cancel ticket), s) := by
  simp only [waitForTurn, poll, hCancel, hTurn, Bool.or_self, Bool.false_eq_true, if_false]

/-- At its turn a waiting caller goes on behind the gate. -/
theorem poll_waitForTurn_turn (hCancel : cancel s = false)
    (hTurn : (lazy.gate.get s).isTurnOf ticket = true) :
    (lazy.waitForTurn log caller cancel ticket).poll s =
      ((lazy.observed log caller).startBehindGate).poll s := by
  simp only [waitForTurn, poll, hCancel, hTurn, Bool.false_or, if_true, poll_observe_andThen,
    Bool.false_eq_true, if_false]

/-- Behind the gate the instance is taken if somebody else has started it. -/
theorem poll_startBehindGate_started {started : ι} (hStarted : lazy.state s = .started started) :
    ((lazy.observed log caller).startBehindGate).poll s =
      (.finished (.ok started), lazy.gate.modify StartGate.release s) := by
  have hState : ((lazy.observed log caller).state s).started? = some started := by
    change (lazy.state s).started? = some started
    rw [hStarted]
    rfl
  simp only [startBehindGate, startUnlessStarted, bind_eq, pure_eq, andThen_assoc,
    poll_observe_andThen, hState]
  rfl

end Polls

section Views

variable [Host σ] {lazy : LazyStart σ κ ς ι} {log : Slot σ (StartLog ι)} {caller : Nat} {s : σ}

theorem Secludes.view_modify_gate (secludes : lazy.Secludes log) (change : StartGate ι → StartGate ι)
    (s : σ) :
    lazy.view log (lazy.gate.modify change s) = (change (lazy.view log s).1, (lazy.view log s).2) := by
  rw [view, Slot.modify, lazy.gate.get_set, secludes.log_gate]
  rfl

theorem Secludes.view_modify_log (secludes : lazy.Secludes log) (change : StartLog ι → StartLog ι)
    (s : σ) :
    lazy.view log (log.modify change s) = ((lazy.view log s).1, change (lazy.view log s).2) := by
  rw [view, Slot.modify, log.get_set, secludes.gate_log]
  rfl

theorem Secludes.view_atStart (secludes : lazy.Secludes log) (caller : Nat) (s : σ) :
    lazy.view log (lazy.atStart log caller s) =
      ((lazy.view log s).1.setState .starting, (lazy.view log s).2 ++ [.begun caller]) := by
  rw [atStart, secludes.view_modify_log, secludes.report, secludes.view_modify_gate]

/-- What a start that ended came to is kept, and the gate is passed on. -/
theorem Secludes.poll_afterStart (secludes : lazy.Secludes log) (caller : Nat)
    (result : Except BusError ι) (s : σ) :
    ((lazy.afterStart log caller result).poll s).1 =
        .finished (result.mapError BusError.ofFailedStart) ∧
      lazy.view log ((lazy.afterStart log caller result).poll s).2 =
        (((lazy.view log s).1.setState (.ofResult result)).release,
          (lazy.view log s).2 ++ [.ended caller result]) := by
  have hKept (state : StartState ι) (diagnostic : Diagnostic) :
      lazy.view log (lazy.gate.modify StartGate.release (Host.report diagnostic
        (lazy.gate.modify (StartGate.setState state)
          (log.modify (· ++ [.ended caller result]) s)))) =
        (((lazy.view log s).1.setState state).release,
          (lazy.view log s).2 ++ [.ended caller result]) := by
    rw [secludes.view_modify_gate, secludes.report, secludes.view_modify_gate,
      secludes.view_modify_log]
  cases result with
  | error error => exact ⟨rfl, hKept _ _⟩
  | ok started => exact ⟨rfl, hKept _ _⟩

/-- A caller whose start is under way gives up control again, or its start has
ended and it comes back. -/
theorem Secludes.poll_starting (secludes : lazy.Secludes log) (caller : Nat)
    {rest : Task σ (Except BusError ι)} (keeps : rest.Keeps (lazy.view log)) (s : σ) :
    (∃ (later : Task σ (Except BusError ι)) (t : σ), (rest.andThen (lazy.afterStart log caller)).poll s =
        (.suspended (later.andThen (lazy.afterStart log caller)), t) ∧
        later.Keeps (lazy.view log) ∧ lazy.view log t = lazy.view log s) ∨
      ∃ result t, (rest.andThen (lazy.afterStart log caller)).poll s =
        (.finished (result.mapError BusError.ofFailedStart), t) ∧
        lazy.view log t = (((lazy.view log s).1.setState (.ofResult result)).release,
          (lazy.view log s).2 ++ [.ended caller result]) := by
  obtain ⟨hView, hRest⟩ := keeps.poll s
  rw [poll_andThen]
  cases hPoll : rest.poll s with
  | mk progress t =>
      rw [hPoll] at hView hRest
      cases progress with
      | suspended later => exact .inl ⟨later, t, rfl, hRest later rfl, hView⟩
      | finished result =>
          obtain ⟨hAnswer, hAfter⟩ := secludes.poll_afterStart caller result t
          rw [hView] at hAfter
          exact .inr ⟨result, _, Prod.ext hAnswer rfl, hAfter⟩

/-- A caller that goes on behind the gate begins a start, unless there has been
one that succeeded. -/
theorem Secludes.log_startBehindGate (secludes : lazy.Secludes log)
    (hUnstarted : (lazy.state s).started? = none) :
    ∃ more, log.get (((lazy.observed log caller).startBehindGate).poll s).2 =
      log.get s ++ .begun caller :: more := by
  have hStart := secludes.view_atStart caller s
  rw [poll_startBehindGate hUnstarted]
  rcases secludes.poll_starting caller secludes.start (lazy.atStart log caller s) with
    ⟨later, t, hPoll, -, hView⟩ | ⟨result, t, hPoll, hView⟩
  · refine ⟨[], ?_⟩
    rw [hPoll]
    exact congrArg Prod.snd (hView.trans hStart)
  · refine ⟨[.ended caller result], ?_⟩
    rw [hStart] at hView
    rw [hPoll]
    exact (congrArg Prod.snd hView).trans (List.append_assoc _ _ _)

/-- A caller that finds the gate free begins a start, if its call is not
cancelled. -/
theorem Secludes.log_ensureStarted (secludes : lazy.Secludes log) {cancel : CancellationToken σ}
    (hUnstarted : (lazy.state s).started? = none) (hFree : (lazy.gate.get s).holder = none)
    (hCancel : cancel s = false) (hGate : ∀ gate, cancel (lazy.gate.set gate s) = false) :
    ∃ more, log.get (((lazy.observed log caller).ensureStarted cancel).poll s).2 =
      log.get s ++ .begun caller :: more := by
  let entered : σ := lazy.gate.set (lazy.gate.get s).enter.2 s
  have hEntered : lazy.gate.get entered = (lazy.gate.get s).enter.2 := lazy.gate.get_set _ s
  have hTurn : (lazy.gate.get entered).isTurnOf (lazy.gate.get s).enter.1 = true := by
    rw [hEntered]
    simp [StartGate.enter, StartGate.isTurnOf, hFree]
  have hStill : (lazy.state entered).started? = none := by
    rw [state, hEntered, StartGate.state_enter]
    exact hUnstarted
  have hLog : log.get entered = log.get s := secludes.log_gate _ s
  rw [poll_ensureStarted_waits hUnstarted hCancel, poll_waitForTurn_turn (hGate _) hTurn, ← hLog]
  exact secludes.log_startBehindGate hStill

end Views

end LazyStart

/-- One call for the started instance. -/
structure Caller (σ ι : Type) where
  cancel : CancellationToken σ
  progress : Progress σ (Except BusError ι)

/-- The host and all callers that have come so far. -/
structure Callers (σ ι : Type) where
  host : σ
  callers : List (Caller σ ι)

namespace Callers

variable [Host σ] (lazy : LazyStart σ κ ς ι) (log : Slot σ (StartLog ι))

/-- A caller comes, and goes on as far as it can. -/
def arrive (cancel : CancellationToken σ) (system : Callers σ ι) : Callers σ ι :=
  let polled := ((lazy.observed log system.callers.length).ensureStarted cancel).poll system.host
  ⟨polled.2, system.callers ++ [⟨cancel, polled.1⟩]⟩

omit [Host σ] in
/-- A caller that has given up control goes on as far as it can. -/
def resume (caller : Nat) (system : Callers σ ι) : Callers σ ι :=
  match system.callers[caller]? with
  | some ⟨cancel, .suspended rest⟩ =>
    let polled := rest.poll system.host
    ⟨polled.2, system.callers.set caller ⟨cancel, polled.1⟩⟩
  | _ => system

/-- What can happen next. Others may do to the host whatever they like, the
cancellation of tokens included, but they do not reach the gate and the log. -/
inductive Step : Callers σ ι → Callers σ ι → Prop where
  | arrives {system : Callers σ ι} (cancel : CancellationToken σ) :
      Step system (system.arrive lazy log cancel)
  | resumes {system : Callers σ ι} (caller : Nat) : Step system (system.resume caller)
  | changes {system : Callers σ ι} {host : σ} (hView : lazy.view log host = lazy.view log system.host) :
      Step system { system with host }

/-- Whatever may have happened since nobody had come yet. -/
inductive Reachable : Callers σ ι → Prop where
  | fresh {host : σ} (hView : lazy.view log host = ({}, [])) : Reachable ⟨host, []⟩
  | step {system next : Callers σ ι} (reachable : Reachable system)
      (step : Step lazy log system next) : Reachable next

/-- A caller that has given up control or come back is in a phase of the
protocol. -/
inductive Shows (caller : Nat) : Caller σ ι → StartPhase ι → Prop where
  | waiting {cancel : CancellationToken σ} {ticket : Nat} :
      Shows caller ⟨cancel, .suspended (lazy.waitForTurn log caller cancel ticket)⟩ (.waiting ticket)
  | starting {cancel : CancellationToken σ} {rest : Task σ (Except BusError ι)} {ticket : Nat}
      (keeps : rest.Keeps (lazy.view log)) :
      Shows caller ⟨cancel, .suspended (rest.andThen (lazy.afterStart log caller))⟩
        (.starting ticket)
  | finished {cancel : CancellationToken σ} {result : Except BusError ι} :
      Shows caller ⟨cancel, .finished result⟩ (.finished result)

/-- The callers are at a state of the protocol. -/
structure At (system : Callers σ ι) (protocol : StartProtocol ι) : Prop where
  view_eq : lazy.view log system.host = (protocol.gate, protocol.log)
  length_eq : system.callers.length = protocol.phases.length
  shows : ∀ (index : Nat) caller phase, system.callers[index]? = some caller →
    protocol.phases[index]? = some phase → Shows lazy log index caller phase

section Advances

variable {lazy : LazyStart σ κ ς ι} {log : Slot σ (StartLog ι)} {protocol : StartProtocol ι}
  {caller ticket : Nat} {cancel : CancellationToken σ} {s : σ}

/-- A poll of a caller is any number of steps of the protocol, in which only the
phase of that caller changes. -/
def Advances (lazy : LazyStart σ κ ς ι) (log : Slot σ (StartLog ι)) (protocol : StartProtocol ι)
    (caller : Nat) (cancel : CancellationToken σ)
    (polled : Progress σ (Except BusError ι) × σ) : Prop :=
  ∃ gate events phase,
    Relation.ReflTransGen StartProtocol.Step protocol
        ⟨gate, events, protocol.phases.set caller phase⟩ ∧
      lazy.view log polled.2 = (gate, events) ∧ Shows lazy log caller ⟨cancel, polled.1⟩ phase

theorem advances_starting (secludes : lazy.Secludes log) {rest : Task σ (Except BusError ι)}
    (hView : lazy.view log s = (protocol.gate, protocol.log))
    (starts : protocol.phases[caller]? = some (.starting ticket))
    (keeps : rest.Keeps (lazy.view log)) :
    Advances lazy log protocol caller cancel
      ((rest.andThen (lazy.afterStart log caller)).poll s) := by
  rcases secludes.poll_starting caller keeps s with
    ⟨later, t, hPoll, hKeeps, hSame⟩ | ⟨result, t, hPoll, hEnded⟩
  · refine ⟨protocol.gate, protocol.log, .starting ticket, ?_, ?_, ?_⟩
    · rw [StartPhase.set_of_getElem? starts]
    · rw [hPoll, hSame, hView]
    · rw [hPoll]
      exact .starting hKeeps
  · refine ⟨_, _, _, .single (.ends starts result), ?_, ?_⟩
    · rw [hPoll, hEnded, hView]
    · rw [hPoll]
      exact .finished

theorem advances_behindGate (secludes : lazy.Secludes log)
    (hView : lazy.view log s = (protocol.gate, protocol.log))
    (waits : protocol.phases[caller]? = some (.waiting ticket))
    (hTurn : protocol.gate.holder = some ticket) :
    Advances lazy log protocol caller cancel
      (((lazy.observed log caller).startBehindGate).poll s) := by
  obtain ⟨hGate, hLog⟩ := Prod.mk.inj hView
  have hState : lazy.state s = protocol.gate.state := congrArg StartGate.state hGate
  cases hStarted : (lazy.state s).started? with
  | some started =>
      have hStarted := StartState.started?_eq_some_iff.mp hStarted
      rw [LazyStart.poll_startBehindGate_started hStarted]
      refine ⟨_, _, _, .single (.passes waits hTurn (hState.symm.trans hStarted)), ?_, .finished⟩
      rw [secludes.view_modify_gate, hView]
  | none =>
      rw [LazyStart.poll_startBehindGate hStarted]
      have hUnstarted (started : ι) : protocol.gate.state ≠ .started started := by
        intro hEq
        rw [hState, hEq] at hStarted
        cases hStarted
      let begun : StartProtocol ι := ⟨protocol.gate.setState .starting,
        protocol.log ++ [.begun caller], protocol.phases.set caller (.starting ticket)⟩
      have begins : StartProtocol.Step protocol begun := .begins waits hTurn hUnstarted
      have hCaller : caller < protocol.phases.length := (List.getElem?_eq_some_iff.mp waits).1
      have starts : begun.phases[caller]? = some (.starting ticket) := by simp [begun, hCaller]
      have hBegun : lazy.view log (lazy.atStart log caller s) = (begun.gate, begun.log) := by
        rw [secludes.view_atStart, hView]
      have advances : Advances lazy log begun caller cancel
          ((lazy.engineStart.andThen (lazy.afterStart log caller)).poll
            (lazy.atStart log caller s)) :=
        advances_starting secludes hBegun starts secludes.start
      obtain ⟨gate, events, phase, steps, hAfter, shows⟩ := advances
      rw [List.set_set] at steps
      exact ⟨gate, events, phase, (Relation.ReflTransGen.single begins).trans steps, hAfter, shows⟩

theorem advances_waiting (secludes : lazy.Secludes log) (cancel : CancellationToken σ)
    (hView : lazy.view log s = (protocol.gate, protocol.log))
    (waits : protocol.phases[caller]? = some (.waiting ticket)) :
    Advances lazy log protocol caller cancel
      ((lazy.waitForTurn log caller cancel ticket).poll s) := by
  have hGate : lazy.gate.get s = protocol.gate := congrArg Prod.fst hView
  cases hCancel : cancel s with
  | true =>
      rw [LazyStart.poll_waitForTurn_cancelled hCancel]
      refine ⟨_, _, _, .single (.leaves waits), ?_, .finished⟩
      rw [secludes.view_modify_gate, hView]
  | false =>
      cases hTurn : (lazy.gate.get s).isTurnOf ticket with
      | true =>
          rw [LazyStart.poll_waitForTurn_turn hCancel hTurn]
          refine advances_behindGate secludes hView waits ?_
          rw [← hGate]
          exact of_decide_eq_true hTurn
      | false =>
          rw [LazyStart.poll_waitForTurn_waits hCancel hTurn]
          refine ⟨protocol.gate, protocol.log, .waiting ticket, ?_, hView, .waiting⟩
          rw [StartPhase.set_of_getElem? waits]

/-- A poll of a caller that has given up control. -/
theorem advances_of_shows (secludes : lazy.Secludes log) {rest : Task σ (Except BusError ι)}
    {phase : StartPhase ι} (hView : lazy.view log s = (protocol.gate, protocol.log))
    (hPhase : protocol.phases[caller]? = some phase)
    (shows : Shows lazy log caller ⟨cancel, .suspended rest⟩ phase) :
    Advances lazy log protocol caller cancel (rest.poll s) := by
  cases shows with
  | waiting => exact advances_waiting secludes _ hView hPhase
  | starting keeps => exact advances_starting secludes hView hPhase keeps

/-- A caller that comes is one more caller of the protocol. -/
theorem steps_ensureStarted (secludes : lazy.Secludes log) (cancel : CancellationToken σ)
    (hView : lazy.view log s = (protocol.gate, protocol.log))
    (hCaller : caller = protocol.phases.length) :
    ∃ gate events phase,
      Relation.ReflTransGen StartProtocol.Step protocol
          ⟨gate, events, protocol.phases ++ [phase]⟩ ∧
        lazy.view log (((lazy.observed log caller).ensureStarted cancel).poll s).2 =
          (gate, events) ∧
        Shows lazy log caller
          ⟨cancel, (((lazy.observed log caller).ensureStarted cancel).poll s).1⟩ phase := by
  have hGate : lazy.gate.get s = protocol.gate := congrArg Prod.fst hView
  have hState : lazy.state s = protocol.gate.state := congrArg StartGate.state hGate
  cases hStarted : (lazy.state s).started? with
  | some started =>
      have hStarted := StartState.started?_eq_some_iff.mp hStarted
      rw [LazyStart.poll_ensureStarted_started hStarted]
      exact ⟨_, _, _, .single (.finds (hState.symm.trans hStarted)), hView, .finished⟩
  | none =>
      cases hCancel : cancel s with
      | true =>
          rw [LazyStart.poll_ensureStarted_cancelled hStarted hCancel]
          exact ⟨_, _, _, .single .declines, hView, .finished⟩
      | false =>
          rw [LazyStart.poll_ensureStarted_waits hStarted hCancel]
          let queued : StartProtocol ι := ⟨protocol.gate.enter.2, protocol.log,
            protocol.phases ++ [.waiting protocol.gate.enter.1]⟩
          have queues : StartProtocol.Step protocol queued := .queues
          have hQueued : lazy.view log (lazy.gate.set (lazy.gate.get s).enter.2 s) =
              (queued.gate, queued.log) := by
            rw [LazyStart.view, lazy.gate.get_set, secludes.log_gate, hGate]
            exact congrArg (Prod.mk _) (congrArg Prod.snd hView)
          have waits : queued.phases[caller]? = some (.waiting protocol.gate.enter.1) := by
            simp [queued, hCaller]
          rw [hGate] at hQueued ⊢
          have advances := advances_waiting secludes cancel hQueued waits
          obtain ⟨gate, events, phase, steps, hAfter, shows⟩ := advances
          have hSet : queued.phases.set caller phase = protocol.phases ++ [phase] := by
            simp [queued, hCaller]
          rw [hSet] at steps
          exact ⟨gate, events, phase, (Relation.ReflTransGen.single queues).trans steps, hAfter, shows⟩

end Advances

variable {lazy : LazyStart σ κ ς ι} {log : Slot σ (StartLog ι)} {system next : Callers σ ι}

/-- What can happen to the callers is any number of steps of the protocol. -/
theorem Step.simulates (secludes : lazy.Secludes log) {protocol : StartProtocol ι}
    (isAt : At lazy log system protocol) (step : Step lazy log system next) :
    ∃ last, Relation.ReflTransGen StartProtocol.Step protocol last ∧ At lazy log next last := by
  obtain ⟨hView, hLength, hShows⟩ := isAt
  cases step with
  | arrives cancel =>
      obtain ⟨gate, events, phase, steps, hAfter, shows⟩ :=
        steps_ensureStarted secludes cancel hView hLength
      refine ⟨_, steps, hAfter, ?_, ?_⟩
      · simp [arrive, hLength]
      · intro index caller other hCaller hPhase
        rcases StartPhase.getElem?_concat_iff.mp hCaller with hCaller | ⟨rfl, rfl⟩
        · have hIndex := (List.getElem?_eq_some_iff.mp hCaller).1
          rcases StartPhase.getElem?_concat_iff.mp hPhase with hPhase | ⟨hEnd, -⟩
          · exact hShows index caller other hCaller hPhase
          · omega
        · rcases StartPhase.getElem?_concat_iff.mp hPhase with hPhase | ⟨-, rfl⟩
          · have hIndex := (List.getElem?_eq_some_iff.mp hPhase).1
            omega
          · exact shows
  | resumes index =>
      rw [resume]
      split
      · rename_i cancel rest hCaller
        have hIndex := (List.getElem?_eq_some_iff.mp hCaller).1
        have hPhase : protocol.phases[index]? = some protocol.phases[index] :=
          List.getElem?_eq_getElem (hLength ▸ hIndex)
        have shows := hShows index _ _ hCaller hPhase
        obtain ⟨gate, events, phase, steps, hAfter, shows⟩ :=
          advances_of_shows secludes hView hPhase shows
        refine ⟨_, steps, hAfter, by simp [hLength], ?_⟩
        intro other caller last hCaller hPhase
        rcases (StartPhase.getElem?_set_iff hIndex).mp hCaller with ⟨rfl, rfl⟩ | ⟨hOther, hCaller⟩
        · rcases (StartPhase.getElem?_set_iff (hLength ▸ hIndex)).mp hPhase with
            ⟨-, rfl⟩ | ⟨hOther, -⟩
          · exact shows
          · exact absurd rfl hOther
        · rcases (StartPhase.getElem?_set_iff (hLength ▸ hIndex)).mp hPhase with
            ⟨hSame, -⟩ | ⟨-, hPhase⟩
          · exact absurd hSame hOther
          · exact hShows other caller last hCaller hPhase
      · exact ⟨protocol, .refl, hView, hLength, hShows⟩
  | changes hSame => exact ⟨protocol, .refl, hSame.trans hView, hLength, hShows⟩

/-- Every reachable state of the callers is one of a sound protocol. -/
theorem Reachable.isSound (secludes : lazy.Secludes log) (reachable : Reachable lazy log system) :
    ∃ protocol, At lazy log system protocol ∧ protocol.IsSound := by
  induction reachable with
  | fresh hView => exact ⟨.initial, ⟨hView, rfl, by simp⟩, StartProtocol.isSound_initial⟩
  | step reachable step ih =>
      obtain ⟨protocol, isAt, sound⟩ := ih
      obtain ⟨last, steps, isAt⟩ := step.simulates secludes isAt
      exact ⟨last, isAt, StartProtocol.isSound_of_steps steps sound⟩

end Callers

end BusEndpoint
