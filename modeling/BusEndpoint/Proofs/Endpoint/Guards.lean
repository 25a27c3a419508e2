import BusEndpoint.InMemory.HostState
import BusEndpoint.Proofs.Endpoint.Asking

/-! What is looked at before any work is done for a message: whether the endpoint
only sends, whether the call is cancelled before there is an instance, what the start
of the engine comes to, and whether the started instance receives. An invocation that
fails at one of these opens no transaction and calls no pipeline. -/

namespace BusEndpoint

open BusEndpoint.Task

variable {σ κ ς ι : Type}

/-- A failed start is told as such, unless it says itself that it was cancelled. -/
theorem BusError.ofFailedStart_cases (error : BusError) :
    (error = .cancelled ∧ error.ofFailedStart = .cancelled) ∨
      ∃ cause, error.ofFailedStart = .startup cause := by
  cases error with
  | cancelled => exact .inl ⟨rfl, rfl⟩
  | _ => exact .inr ⟨_, rfl⟩

namespace Invocations

section Statement

variable [Host σ] [LogSink κ] (endpoint : FunctionEndpoint σ κ ς ι) (log : Slot σ (StartLog ι))
  (notes : Slot σ (WorkLog ι))

/-- The next invocation of the endpoint, as it is observed. -/
def call (invocation : Invocation σ κ) (system : Invocations σ κ) : Invocations σ κ :=
  system.make invocation ((endpoint.observed log notes system.made.length).serve
    (invocation.observed log notes system.made.length))

/-- An invocation comes back at once, observed or not: no start is made for it, no
transaction is opened and no pipeline is called. -/
def ComesBack (system : Invocations σ κ) (invocation : Invocation σ κ)
    (answer : Except BusError Unit) : Prop :=
  ∃ host, endpoint.Quiet log notes system.host host ∧
    (endpoint.serve invocation).poll system.host = (.finished answer, host) ∧
    system.call endpoint log notes invocation =
      ⟨host, system.made ++ [⟨invocation, .finished answer⟩]⟩

/-- What holds of the invocations at every moment, and of those that are made
next. -/
structure Guards (system : Invocations σ κ) : Prop where
  /-- An endpoint that only sends refuses every message, however far its start has
  come. -/
  refuses : ∀ invocation, invocation.request.isProcess = true →
    endpoint.configuration.sendOnly = true →
      system.ComesBack endpoint log notes invocation (.error .sendOnly)
  /-- No start has ever been made for a message that was refused. -/
  refused : ∀ (index : Nat) invoked, system.made[index]? = some invoked →
    invoked.invocation.request.isProcess = true → endpoint.configuration.sendOnly = true →
      system.result? index = some (.error .sendOnly) ∧
        ∀ event ∈ log.get system.host, event.caller ≠ index
  /-- Any other invocation that is cancelled already comes back as long as there is no
  instance. -/
  cancelled : ∀ invocation, endpoint.refuses invocation.request = false →
    (∀ started, endpoint.state system.host ≠ .started started) →
    invocation.cancel (endpoint.entered invocation system.host) = true →
      system.ComesBack endpoint log notes invocation (.error .cancelled)
  /-- A start that failed is told to the invocation that made it, and nothing else is
  done in that invocation. -/
  failedStart : ∀ index error, .ended index (.error error) ∈ log.get system.host →
    system.result? index = some (.error error.ofFailedStart) ∧
      ((error = .cancelled ∧ error.ofFailedStart = .cancelled) ∨
        ∃ cause, error.ofFailedStart = .startup cause) ∧
      ∀ event ∈ notes.get system.host, event.invocation ≠ index
  leavesUnstarted : ∀ past index error,
    log.get system.host = past ++ [.ended index (.error error)] →
      endpoint.state system.host = .notStarted
  /-- As long as there is no instance, the next invocation makes a start of its own,
  once the others have come back. -/
  startsAgain : ∀ invocation,
    invocation.ActsBy (endpoint.Quiet log notes) (endpoint.Quiet log notes) →
    endpoint.refuses invocation.request = false →
    (∀ started, endpoint.state system.host ≠ .started started) →
    (∀ other < system.made.length, (system.result? other).isSome = true) →
    invocation.cancel (endpoint.entered invocation system.host) = false →
    (∀ gate, invocation.cancel
      (endpoint.gate.set gate (endpoint.entered invocation system.host)) = false) →
      ∃ more, log.get (system.call endpoint log notes invocation).host =
        log.get system.host ++ .begun system.made.length :: more
  /-- So does one that waits, once those before it have come back. -/
  waiterStartsAgain : ∀ (index : Nat) invocation rest,
    system.made[index]? = some ⟨invocation, .suspended rest⟩ →
    (∀ started, endpoint.state system.host ≠ .started started) →
    .begun index ∉ log.get system.host →
    (∀ other < index, (system.result? other).isSome = true) →
    invocation.cancel system.host = false →
      ∃ more, log.get (system.resume index).host = log.get system.host ++ .begun index :: more
  /-- An instance without a pipeline refuses every message, in a cancelled call too. -/
  withoutPipeline : ∀ started, endpoint.state system.host = .started started →
    endpoint.engine.pipeline endpoint.logBook started = none →
    ∀ invocation, invocation.request.isProcess = true →
      system.ComesBack endpoint log notes invocation (.error .sendOnly)
  /-- A message that came before there was such an instance is refused as well, unless
  its call was cancelled or its own start failed. -/
  unreceived : ∀ (index : Nat) invocation answer,
    system.made[index]? = some ⟨invocation, .finished answer⟩ →
    invocation.request.isProcess = true →
    (∀ started, endpoint.state system.host = .started started →
      endpoint.engine.pipeline endpoint.logBook started = none) →
      answer = .error .sendOnly ∨
      (answer = .error .cancelled ∧ .begun index ∉ log.get system.host) ∨
      ∃ failed, .ended index (.error failed) ∈ log.get system.host ∧
        answer = .error failed.ofFailedStart
  /-- As long as there is no instance that receives, no strategy has been asked for a
  transaction and no pipeline has been called. -/
  untouched : endpoint.configuration.sendOnly = true ∨
    (∀ started, endpoint.state system.host = .started started →
      endpoint.engine.pipeline endpoint.logBook started = none) →
    notes.get system.host = []
  /-- All that was ever done for a message was done after a start that succeeded, with
  an instance that receives. -/
  onlyAfterStart : ∀ event ∈ notes.get system.host, ∃ invoked starter started,
    system.made[event.invocation]? = some invoked ∧
      invoked.invocation.request.isProcess = true ∧
      endpoint.configuration.sendOnly = false ∧
      (endpoint.engine.pipeline endpoint.logBook started).isSome = true ∧
      .ended starter (.ok started) ∈ event.starts

end Statement

section At

variable [Host σ] {endpoint : FunctionEndpoint σ κ ς ι} {log : Slot σ (StartLog ι)}
  {notes : Slot σ (WorkLog ι)} {system : Invocations σ κ} {protocol : StartProtocol ι}
  {index : Nat} {invocation : Invocation σ κ}

theorem At.log_eq (isAt : At endpoint log notes system protocol) :
    log.get system.host = protocol.log :=
  congrArg Prod.snd isAt.view_eq

theorem At.gate_eq (isAt : At endpoint log notes system protocol) :
    endpoint.gate.get system.host = protocol.gate :=
  congrArg Prod.fst isAt.view_eq

theorem At.state_eq (isAt : At endpoint log notes system protocol) :
    endpoint.state system.host = protocol.gate.state :=
  congrArg (fun view => view.1.state) isAt.view_eq

theorem At.state_of_started (isAt : At endpoint log notes system protocol) {started : ι}
    (hPhase : protocol.phases[index]? = some (.finished (.ok started))) :
    endpoint.state system.host = .started started :=
  isAt.state_eq.trans (isAt.sound.recorded.succeeded index started hPhase)

theorem At.entry_of_made (isAt : At endpoint log notes system protocol) {invoked : Invoked σ κ}
    (hMade : system.made[index]? = some invoked) :
    ∃ phase, protocol.phases[index]? = some phase ∧
      Entry endpoint log notes index invoked phase protocol.log := by
  have hIndex := (List.getElem?_eq_some_iff.mp hMade).1
  rw [isAt.length_eq] at hIndex
  have hPhase := List.getElem?_eq_getElem hIndex
  exact ⟨_, hPhase, isAt.entries index _ _ hMade hPhase⟩

theorem At.entry_of_phase (isAt : At endpoint log notes system protocol) {phase : StartPhase ι}
    (hPhase : protocol.phases[index]? = some phase) :
    ∃ invoked, system.made[index]? = some invoked ∧
      Entry endpoint log notes index invoked phase protocol.log := by
  have hIndex := (List.getElem?_eq_some_iff.mp hPhase).1
  rw [← isAt.length_eq] at hIndex
  have hMade := List.getElem?_eq_getElem hIndex
  exact ⟨_, hMade, isAt.entries index _ _ hMade hPhase⟩

/-- An invocation that has come back holds no place in the line at the gate. -/
theorem At.ticketOf_eq_none (isAt : At endpoint log notes system protocol)
    (hResult : (system.result? index).isSome = true) :
    StartPhase.ticketOf protocol.phases index = none := by
  cases hMade : system.made[index]? with
  | none => simp [result?, hMade] at hResult
  | some invoked =>
      obtain ⟨phase, hPhase, -, refused, shows⟩ := isAt.entry_of_made hMade
      have hFinished : ∃ result, phase = .finished result := by
        cases hRefuses : endpoint.refuses invoked.invocation.request with
        | true => exact ⟨_, (refused hRefuses).2.1⟩
        | false =>
            have hShows := shows hRefuses
            rw [result?, hMade] at hResult
            obtain ⟨invocation, progress⟩ := invoked
            dsimp only at hShows
            cases hShows with
            | asking => cases hResult
            | told => exact ⟨_, rfl⟩
            | working => exact ⟨_, rfl⟩
            | answered => exact ⟨_, rfl⟩
      obtain ⟨result, rfl⟩ := hFinished
      exact StartPhase.ticketOf_of_getElem? hPhase

/-- An invocation that waits to be told of an instance, and has made no start. -/
theorem At.waiting_of_not_begun (isAt : At endpoint log notes system protocol)
    {rest : Task σ (Except BusError Unit)}
    (hMade : system.made[index]? = some ⟨invocation, .suspended rest⟩)
    (hUnstarted : ∀ started, endpoint.state system.host ≠ .started started)
    (hBegun : .begun index ∉ log.get system.host) :
    endpoint.refuses invocation.request = false ∧
      invocation.ActsBy (endpoint.Quiet log notes) (endpoint.Quiet log notes) ∧
      ∃ ticket fresh, protocol.phases[index]? = some (.waiting ticket) ∧
        (endpoint.toLazyStart.waitForTurn log index invocation.cancel ticket).Acts
          (fun s t => notes.get t = notes.get s) (fun _ => True) ∧
        rest = (endpoint.toLazyStart.waitForTurn log index invocation.cancel ticket).andThen
          ((endpoint.observed log notes index).follow (invocation.observed log notes index)
            fresh) := by
  obtain ⟨phase, hPhase, entry⟩ := isAt.entry_of_made hMade
  have hServes := entry.serves_of_suspended
  refine ⟨hServes, entry.acts, ?_⟩
  rw [isAt.log_eq] at hBegun
  have hShows := entry.shows hServes
  dsimp only at hShows
  cases hShows with
  | @asking _ _ fresh asks unnoted =>
      cases asks with
      | waiting => exact ⟨_, fresh, hPhase, unnoted, rfl⟩
      | starting => exact absurd (isAt.sound.recorded.startingBegun index _ hPhase) hBegun
  | working => exact absurd (isAt.state_of_started hPhase) (hUnstarted _)

/-- What an invocation has been told whose start failed. -/
theorem At.told_of_ended (isAt : At endpoint log notes system protocol) {error : BusError}
    (hEnded : .ended index (.error error) ∈ log.get system.host) :
    system.result? index = some (.error error.ofFailedStart) ∧
      ∀ event ∈ notes.get system.host, event.invocation ≠ index := by
  rw [isAt.log_eq] at hEnded
  have hPhase := isAt.sound.recorded.endedBy index _ hEnded
  obtain ⟨⟨invocation, progress⟩, hMade, -, refused, shows⟩ := isAt.entry_of_phase hPhase
  constructor
  · cases hRefuses : endpoint.refuses invocation.request with
    | true => exact absurd rfl ((refused hRefuses).2.2 _ hEnded)
    | false =>
        have hShows := shows hRefuses
        dsimp only [Except.mapError] at hShows
        rw [result?, hMade]
        cases hShows with
        | asking asks => cases asks
        | told => rfl
  · rintro event hEvent rfl
    obtain ⟨-, -, started, -, hStarted, -⟩ := isAt.noted event hEvent
    cases hPhase.symm.trans hStarted

/-- A message is answered by an instance that does not receive it, or before there is
an instance. -/
theorem At.answer_cases (isAt : At endpoint log notes system protocol)
    {answer : Except BusError Unit}
    (hMade : system.made[index]? = some ⟨invocation, .finished answer⟩)
    (hProcess : invocation.request.isProcess = true)
    (hNone : ∀ started, endpoint.state system.host = .started started →
      endpoint.engine.pipeline endpoint.logBook started = none) :
    answer = .error .sendOnly ∨
      (answer = .error .cancelled ∧ .begun index ∉ log.get system.host) ∨
      ∃ failed, .ended index (.error failed) ∈ log.get system.host ∧
        answer = .error failed.ofFailedStart := by
  obtain ⟨phase, hPhase, -, refused, shows⟩ := isAt.entry_of_made hMade
  cases hRefuses : endpoint.refuses invocation.request with
  | true => exact .inl (Progress.finished.inj (refused hRefuses).1)
  | false =>
      have hShows := shows hRefuses
      dsimp only at hShows
      rw [isAt.log_eq]
      cases hShows with
      | told =>
          rcases isAt.sound.recorded.failed index _ hPhase with ⟨rfl, hBegun⟩ | ⟨failed, hEnded, rfl⟩
          · exact .inr (.inl ⟨rfl, hBegun⟩)
          · exact .inr (.inr ⟨failed, hEnded, rfl⟩)
      | @answered _ started answers =>
          have hNotReceived : ¬endpoint.Receives invocation started :=
            FunctionEndpoint.not_receives_of_none (hNone started (isAt.state_of_started hPhase))
          exact .inl (answers hProcess hNotReceived)

/-- As long as no instance receives messages, nothing has been done for one. -/
theorem At.notes_eq_nil (isAt : At endpoint log notes system protocol)
    (hNone : endpoint.configuration.sendOnly = true ∨
      ∀ started, endpoint.state system.host = .started started →
        endpoint.engine.pipeline endpoint.logBook started = none) :
    notes.get system.host = [] := by
  apply List.eq_nil_iff_forall_not_mem.mpr
  intro event hEvent
  obtain ⟨invoked, -, started, -, hPhase, receives, -⟩ := isAt.noted event hEvent
  rcases hNone with hSendOnly | hNone
  · cases receives.2.1.symm.trans hSendOnly
  · exact FunctionEndpoint.not_receives_of_none
      (hNone started (isAt.state_of_started hPhase)) receives

/-- The starts that a poll leaves behind are those of its call for the instance. -/
theorem log_asking (secludes : endpoint.Secludes log notes)
    (acts : invocation.ActsBy (endpoint.Quiet log notes) (endpoint.Quiet log notes))
    (hServes : endpoint.refuses invocation.request = false)
    {first : Task σ (Except BusError ι)} {s : σ} {phase : StartPhase ι}
    (unnoted : first.Acts (fun s t => notes.get t = notes.get s) fun _ => True)
    (asks : Callers.Shows endpoint.toLazyStart log index ⟨invocation.cancel, (first.poll s).1⟩
      phase) (fresh : String) :
    log.get ((first.andThen ((endpoint.observed log notes index).follow
      (invocation.observed log notes index) fresh)).poll s).2 = log.get (first.poll s).2 :=
  congrArg Prod.snd (polled_asking secludes acts hServes unnoted rfl asks fresh).view_eq

theorem At.waiterStartsAgain (isAt : At endpoint log notes system protocol)
    (secludes : endpoint.Secludes log notes) {rest : Task σ (Except BusError Unit)}
    (hMade : system.made[index]? = some ⟨invocation, .suspended rest⟩)
    (hUnstarted : ∀ started, endpoint.state system.host ≠ .started started)
    (hBegun : .begun index ∉ log.get system.host)
    (hFirst : ∀ other < index, (system.result? other).isSome = true)
    (hCancel : invocation.cancel system.host = false) :
    ∃ more, log.get (system.resume index).host =
      log.get system.host ++ .begun index :: more := by
  obtain ⟨hServes, acts, ticket, fresh, waits, unnoted, rfl⟩ :=
    isAt.waiting_of_not_begun hMade hUnstarted hBegun
  have hTurn : (endpoint.gate.get system.host).isTurnOf ticket = true := by
    rw [isAt.gate_eq]
    apply decide_eq_true
    apply isAt.sound.inLine.holder_of_first (StartPhase.ticketOf_of_getElem? waits)
    exact fun other hOther => isAt.ticketOf_eq_none (hFirst other hOther)
  obtain ⟨gate, events, phase, -, -, asks⟩ :=
    Callers.advances_waiting secludes.starts invocation.cancel isAt.view_eq waits
  rw [resume_eq hMade]
  dsimp only
  rw [log_asking secludes acts hServes unnoted asks fresh,
    LazyStart.poll_waitForTurn_turn hCancel hTurn]
  exact secludes.starts.log_startBehindGate (StartState.started?_eq_none_iff.mpr hUnstarted)

variable [LogSink κ]

theorem At.startsAgain (isAt : At endpoint log notes system protocol)
    (secludes : endpoint.Secludes log notes)
    (acts : invocation.ActsBy (endpoint.Quiet log notes) (endpoint.Quiet log notes))
    (hServes : endpoint.refuses invocation.request = false)
    (hUnstarted : ∀ started, endpoint.state system.host ≠ .started started)
    (hAll : ∀ other < system.made.length, (system.result? other).isSome = true)
    (hCancel : invocation.cancel (endpoint.entered invocation system.host) = false)
    (hGate : ∀ gate, invocation.cancel
      (endpoint.gate.set gate (endpoint.entered invocation system.host)) = false) :
    ∃ more, log.get (system.call endpoint log notes invocation).host =
      log.get system.host ++ .begun system.made.length :: more := by
  have hQuiet := secludes.quiet_entered invocation system.host
  have hView : endpoint.toLazyStart.view log (endpoint.entered invocation system.host) =
      (protocol.gate, protocol.log) :=
    (Prod.mk.inj hQuiet).1.trans isAt.view_eq
  have hEntered : endpoint.gate.get (endpoint.entered invocation system.host) = protocol.gate :=
    congrArg Prod.fst hView
  have hLog : log.get (endpoint.entered invocation system.host) = log.get system.host :=
    congrArg (fun seen => seen.1.2) hQuiet
  have hFree : protocol.gate.holder = none := by
    apply isAt.sound.inLine.holder_eq_none
    intro other
    by_cases hOther : other < system.made.length
    · exact isAt.ticketOf_eq_none (hAll other hOther)
    · rw [isAt.length_eq] at hOther
      simp [StartPhase.ticketOf, List.getElem?_eq_none (Nat.le_of_not_lt hOther)]
  obtain ⟨gate, events, phase, -, -, asks⟩ :=
    Callers.steps_ensureStarted secludes.starts invocation.cancel hView isAt.length_eq
  rw [call, make, FunctionEndpoint.poll_serve_observed hServes]
  dsimp only
  rw [log_asking secludes acts hServes (secludes.acts_ensureStarted _) asks, ← hLog]
  apply secludes.starts.log_ensureStarted _ _ hCancel hGate
  · rw [← secludes.state_entered invocation] at hUnstarted
    exact StartState.started?_eq_none_iff.mpr hUnstarted
  · rw [hEntered]
    exact hFree

end At

section Reachable

variable [Host σ] [LogSink κ] {endpoint : FunctionEndpoint σ κ ς ι} {log : Slot σ (StartLog ι)}
  {notes : Slot σ (WorkLog ι)} {system : Invocations σ κ}

theorem comesBack_refused (secludes : endpoint.Secludes log notes) {invocation : Invocation σ κ}
    (hRefuses : endpoint.refuses invocation.request = true) :
    system.ComesBack endpoint log notes invocation (.error .sendOnly) := by
  refine ⟨_, secludes.quiet_attachLogger invocation.context system.host,
    FunctionEndpoint.poll_serve_refused hRefuses, ?_⟩
  rw [call, make, FunctionEndpoint.poll_observed_refused hRefuses]

theorem comesBack_cancelled (secludes : endpoint.Secludes log notes) {invocation : Invocation σ κ}
    (hServes : endpoint.refuses invocation.request = false)
    (hUnstarted : ∀ started, endpoint.state system.host ≠ .started started)
    (hCancel : invocation.cancel (endpoint.entered invocation system.host) = true) :
    system.ComesBack endpoint log notes invocation (.error .cancelled) := by
  rw [← secludes.state_entered invocation] at hUnstarted
  have hUnstarted := StartState.started?_eq_none_iff.mpr hUnstarted
  refine ⟨_, secludes.quiet_entered invocation system.host,
    FunctionEndpoint.poll_serve_cancelled hServes hUnstarted hCancel, ?_⟩
  rw [call, make, FunctionEndpoint.poll_observed_cancelled hServes hUnstarted hCancel]

/-- A message comes back from an instance without a pipeline, and from an endpoint
that only sends all the more. -/
theorem comesBack_unreceived (secludes : endpoint.Secludes log notes) {started : ι}
    (hStarted : endpoint.state system.host = .started started)
    (hNone : endpoint.engine.pipeline endpoint.logBook started = none)
    {invocation : Invocation σ κ} (hProcess : invocation.request.isProcess = true) :
    system.ComesBack endpoint log notes invocation (.error .sendOnly) := by
  cases hRefuses : endpoint.refuses invocation.request with
  | true => exact comesBack_refused secludes hRefuses
  | false =>
      have hNot : ¬endpoint.Receives invocation started :=
        FunctionEndpoint.not_receives_of_none hNone
      rw [← secludes.state_entered invocation] at hStarted
      refine ⟨_, secludes.quiet_entered invocation system.host,
        FunctionEndpoint.poll_serve_unreceived hRefuses hStarted hProcess hNot, ?_⟩
      rw [call, make, FunctionEndpoint.poll_observed_unreceived hRefuses hStarted hProcess hNot]

/-- Whatever the engine, the tokens and the strategies do, work for a message is
guarded. -/
theorem Reachable.guards (secludes : endpoint.Secludes log notes)
    (reachable : ReachableUnder endpoint log notes system) : system.Guards endpoint log notes := by
  obtain ⟨protocol, isAt⟩ := reachable.isAt secludes
  constructor
  · intro invocation hProcess hSendOnly
    exact comesBack_refused secludes (FunctionEndpoint.refuses_iff.mpr ⟨hProcess, hSendOnly⟩)
  · intro index invoked hMade hProcess hSendOnly
    obtain ⟨phase, -, -, refused, -⟩ := isAt.entry_of_made hMade
    obtain ⟨hProgress, -, hEvents⟩ :=
      refused (FunctionEndpoint.refuses_iff.mpr ⟨hProcess, hSendOnly⟩)
    rw [isAt.log_eq, result?, hMade]
    exact ⟨congrArg Progress.result? hProgress, hEvents⟩
  · intro invocation hServes hUnstarted hCancel
    exact comesBack_cancelled secludes hServes hUnstarted hCancel
  · intro index error hEnded
    obtain ⟨hResult, hUntouched⟩ := isAt.told_of_ended hEnded
    exact ⟨hResult, error.ofFailedStart_cases, hUntouched⟩
  · intro past index error hLog
    exact isAt.state_eq.trans (isAt.sound.recorded.state_of_failed (isAt.log_eq.symm.trans hLog))
  · intro invocation acts hServes hUnstarted hAll hCancel hGate
    exact isAt.startsAgain secludes acts hServes hUnstarted hAll hCancel hGate
  · intro index invocation rest hMade hUnstarted hBegun hFirst hCancel
    exact isAt.waiterStartsAgain secludes hMade hUnstarted hBegun hFirst hCancel
  · intro started hStarted hNone invocation hProcess
    exact comesBack_unreceived secludes hStarted hNone hProcess
  · intro index invocation answer hMade hProcess hNone
    exact isAt.answer_cases hMade hProcess hNone
  · exact isAt.notes_eq_nil
  · intro event hEvent
    obtain ⟨invoked, starter, started, hMade, -, ⟨hProcess, hReceives, hSome⟩, hStarter⟩ :=
      isAt.noted event hEvent
    exact ⟨invoked, starter, started, hMade, hProcess, hReceives, hSome, hStarter⟩

end Reachable

end Invocations

section InMemory

open InMemory (HostState)

/-- A host in memory, with a gate and all that is seen beside it. -/
abbrev WatchedHost := ((HostState × StartGate Nat) × StartLog Nat) × WorkLog Nat

/-- An endpoint on an engine whose first start fails. The next one succeeds, and
gives no pipeline. -/
def FunctionEndpoint.failingOnce : FunctionEndpoint WatchedHost Sink Unit Nat where
  engine :=
    { start := fun _ _ _ =>
        ((perform ((HostState.counter "starts").update fun n => (n, n + 1))).andThen fun n =>
          done (if n = 0 then .error (.transport "down") else .ok n)).within
          (fun s => s.1.1.1) fun host s => (((host, s.1.1.2), s.1.2), s.2)
      pipeline := fun _ _ => none
      session := fun _ => ⟨fun _ _ _ => done (.ok ()), fun _ _ _ => done (.ok ()),
        fun _ _ _ => done (.ok ()), fun _ _ _ => done (.ok ())⟩ }
  configuration := ⟨"bus", "", none, .receiveOnly, {}, false⟩
  services := ()
  logBook := ⟨(HostState.loggerContext "bus").onFirst.onFirst.onFirst, fun _ s => s⟩
  gate := Slot.second.onFirst.onFirst

theorem FunctionEndpoint.secludes_failingOnce :
    failingOnce.Secludes Slot.second.onFirst Slot.second where
  starts := by
    refine ⟨fun _ _ => rfl, fun _ _ => rfl, fun _ _ => rfl, ?_⟩
    apply keeps_within
    exact fun _ _ => rfl
  starts_notes _ _ := rfl
  notes_gate _ _ := rfl
  notes_log _ _ := rfl
  notes_report _ _ := rfl
  notes_start := by
    apply keeps_within
    exact fun _ _ => rfl
  identifiers _ _ := rfl
  loggers _ _ := rfl
  deliveries _ _ := rfl
  engine := by
    constructor
    · nofun
    · intro started
      exact ⟨fun _ _ _ => trivial, fun _ _ _ => trivial, fun _ _ _ => trivial, fun _ _ _ => trivial⟩

/-- A message without transactions, in a call that is cancelled already or never. -/
def Invocation.plain (cancelled : Bool) : Invocation WatchedHost Sink where
  request := .process { messageId := some "m" } .none
  context := ⟨"i", "f", none⟩
  cancel _ := cancelled

/-- The start of the first invocation fails, the second one is cancelled, the third
one starts an instance without a pipeline, and the fourth one is cancelled again. -/
theorem Invocations.guards_failingOnce :
    ∃ system,
      ReachableUnder FunctionEndpoint.failingOnce Slot.second.onFirst Slot.second system ∧
      system.made.map (fun invoked => invoked.progress.result?) =
        [some (.error (.startup (.bus (.transport "down")))), some (.error .cancelled),
          some (.error .sendOnly), some (.error .sendOnly)] ∧
      system.Guards FunctionEndpoint.failingOnce Slot.second.onFirst Slot.second := by
  have secludes := FunctionEndpoint.secludes_failingOnce
  have observes (cancelled : Bool) (index : Nat) :
      Observes FunctionEndpoint.failingOnce Slot.second.onFirst Slot.second index
        (.plain cancelled)
        ((FunctionEndpoint.failingOnce.observed Slot.second.onFirst Slot.second index).serve
          ((Invocation.plain cancelled).observed Slot.second.onFirst Slot.second index)) := by
    refine ⟨?_, rfl⟩
    rintro _ _ ⟨⟩
    exact secludes.allows_quiet.actsBy_none
  have fresh : ReachableUnder FunctionEndpoint.failingOnce Slot.second.onFirst Slot.second
      ⟨((({}, {}), []), []), []⟩ :=
    .fresh rfl
  have failed := fresh.step (.makes (observes false 0))
  have cancelled := failed.step (.makes (observes true 1))
  have started := cancelled.step (.makes (observes false 2))
  have refused := started.step (.makes (observes true 3))
  exact ⟨_, refused, rfl, refused.guards secludes⟩

end InMemory

end BusEndpoint
