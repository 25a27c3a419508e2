import BusEndpoint.Proofs.Endpoint.Invocations
import BusEndpoint.Proofs.Start.Callers

/-! An endpoint under observation. The starts of its engine are noted, and so is
all that it does for a message: that it asks the strategy for a transaction, and
that it calls the pipeline. Each of these notes tells which starts had been made by
then. -/

namespace BusEndpoint

open BusEndpoint.Task

variable {σ κ ς ι : Type}

/-- What an endpoint does for a message. -/
inductive MessageWork where
  | opens
  | enters

/-- What was done for the message of an invocation, and what the starts had been by
then. -/
structure WorkEvent (ι : Type) where
  work : MessageWork
  invocation : Nat
  starts : StartLog ι

abbrev WorkLog (ι : Type) := List (WorkEvent ι)

section Observed

variable (log : Slot σ (StartLog ι)) (notes : Slot σ (WorkLog ι)) (index : Nat)

def WorkLog.announce (work : MessageWork) : StateM σ Unit :=
  modify fun s => notes.modify (· ++ [⟨work, index, log.get s⟩]) s

/-- The strategy, and note when it is asked for a transaction. -/
def TransactionStrategy.announced (strategy : TransactionStrategy σ) : TransactionStrategy σ :=
  { strategy with
    create := do
      WorkLog.announce log notes index .opens
      strategy.create }

/-- The pipeline, and note when it is called. -/
def Pipeline.announced (pipeline : Pipeline σ) : Pipeline σ where
  onMessage context cancel :=
    (perform (WorkLog.announce log notes index .enters)).andThen fun _ =>
      pipeline.onMessage context cancel
  onError context cancel :=
    (perform (WorkLog.announce log notes index .enters)).andThen fun _ =>
      pipeline.onError context cancel

/-- An invocation as it is observed. -/
def Invocation.observed (invocation : Invocation σ κ) : Invocation σ κ :=
  { invocation with
    request := match invocation.request with
      | .process message strategy => .process message (strategy.announced log notes index)
      | request => request }

/-- An endpoint as it is observed in one invocation. -/
def FunctionEndpoint.observed (endpoint : FunctionEndpoint σ κ ς ι) : FunctionEndpoint σ κ ς ι :=
  let announced : LazyStart σ κ ς ι :=
    { endpoint.toLazyStart with
      engine := { endpoint.engine with
        pipeline := fun logBook started =>
          (endpoint.engine.pipeline logBook started).map (Pipeline.announced log notes index) } }
  ⟨announced.observed log index⟩

end Observed

namespace FunctionEndpoint

variable (endpoint : FunctionEndpoint σ κ ς ι) (log : Slot σ (StartLog ι))
  (notes : Slot σ (WorkLog ι))

/-- What is seen of an endpoint in the state of the host. -/
def seen (s : σ) : (StartGate ι × StartLog ι) × WorkLog ι :=
  (endpoint.toLazyStart.view log s, notes.get s)

/-- Nothing has happened that is seen. -/
def Quiet (s t : σ) : Prop := endpoint.seen log notes t = endpoint.seen log notes s

/-- Work has been done for the message of this invocation, if it may be done, and
nothing else is seen. -/
def WorksFor (index : Nat) (may : Prop) (s t : σ) : Prop :=
  endpoint.toLazyStart.view log t = endpoint.toLazyStart.view log s ∧
    ∃ more, notes.get t = notes.get s ++ more ∧
      ∀ event ∈ more, may ∧ event.invocation = index ∧ event.starts = log.get s

/-- What is answered to a message by an instance that does not receive it. -/
def Answers (invocation : Invocation σ κ) (started : ι) (answer : Except BusError Unit) : Prop :=
  invocation.request.isProcess = true → ¬endpoint.Receives invocation started →
    answer = .error .sendOnly

/-- What is seen is kept in slots of its own: what the endpoint is made of does not
reach it, and neither does the host on its own account. -/
structure Secludes [Host σ] : Prop where
  starts : endpoint.toLazyStart.Secludes log
  starts_notes : ∀ events s, endpoint.toLazyStart.view log (notes.set events s) =
    endpoint.toLazyStart.view log s
  notes_gate : ∀ gate s, notes.get (endpoint.gate.set gate s) = notes.get s
  notes_log : ∀ starts s, notes.get (log.set starts s) = notes.get s
  notes_report : ∀ diagnostic s, notes.get (Host.report diagnostic s) = notes.get s
  notes_start : endpoint.engineStart.Keeps notes.get
  identifiers : ∀ supply s,
    endpoint.Quiet log notes s ((Host.identifiers (σ := σ)).set supply s)
  loggers : ∀ context s, endpoint.Quiet log notes s (endpoint.logBook.context.set context s)
  deliveries : ∀ delivery s, endpoint.Quiet log notes s (endpoint.logBook.deliver delivery s)
  engine : endpoint.engine.ActsBy (endpoint.Quiet log notes) (endpoint.Quiet log notes)
    endpoint.logBook

variable {endpoint log notes} {index : Nat} {may : Prop} {invocation : Invocation σ κ}
  {s t : σ}

theorem worksFor_of_quiet (quiet : endpoint.Quiet log notes s t) :
    endpoint.WorksFor log notes index may s t := by
  obtain ⟨hView, hNotes⟩ := Prod.mk.inj quiet
  exact ⟨hView, [], hNotes.trans (List.append_nil _).symm, nofun⟩

theorem isProcess_observed :
    (invocation.observed log notes index).request.isProcess = invocation.request.isProcess := by
  obtain ⟨request, context, cancel⟩ := invocation
  cases request <;> rfl

theorem receives_observed {started : ι} :
    (endpoint.observed log notes index).Receives (invocation.observed log notes index) started ↔
      endpoint.Receives invocation started := by
  rw [Receives, Receives, isProcess_observed]
  simp [observed, LazyStart.observed]

theorem refuses_observed :
    (endpoint.observed log notes index).refuses (invocation.observed log notes index).request =
      endpoint.refuses invocation.request := by
  rw [refuses, isProcess_observed]
  rfl

variable [Host σ]

theorem enter_observed :
    (endpoint.observed log notes index).enter (invocation.observed log notes index) =
      endpoint.enter invocation := by
  obtain ⟨request, context, cancel⟩ := invocation
  cases request <;> rfl

namespace Secludes

variable (secludes : endpoint.Secludes log notes)
include secludes

theorem allows_quiet : Host.Allows (endpoint.Quiet log notes) where
  refl _ := rfl
  trans _ _ _ first second := second.trans first
  identifiers := secludes.identifiers
  report diagnostic s _ :=
    Prod.ext (secludes.starts.report diagnostic s) (secludes.notes_report diagnostic s)

theorem allows_worksFor : Host.Allows (endpoint.WorksFor log notes index may) where
  refl _ := worksFor_of_quiet rfl
  trans s t u := by
    rintro ⟨hView, first, hFirst, hEvents⟩ ⟨hLater, second, hSecond, hMore⟩
    have hLog : log.get t = log.get s := congrArg Prod.snd hView
    refine ⟨hLater.trans hView, first ++ second, ?_, ?_⟩
    · rw [hSecond, hFirst, List.append_assoc]
    · rw [hLog] at hMore
      exact List.forall_mem_append.mpr ⟨hEvents, hMore⟩
  identifiers supply s := worksFor_of_quiet (secludes.allows_quiet.identifiers supply s)
  report diagnostic s hOther :=
    worksFor_of_quiet (secludes.allows_quiet.report diagnostic s hOther)

theorem announce (hMay : may) (work : MessageWork) (s : σ) :
    endpoint.WorksFor log notes index may s (WorkLog.announce log notes index work s).2 := by
  refine ⟨secludes.starts_notes _ s, [⟨work, index, log.get s⟩], notes.get_set _ s, ?_⟩
  rintro _ (_ | ⟨_, ⟨⟩⟩)
  exact ⟨hMay, rfl, rfl⟩

theorem engineActs (hMay : may) :
    (endpoint.observed log notes index).engine.ActsBy (endpoint.WorksFor log notes index may)
      (endpoint.Quiet log notes) endpoint.logBook where
  pipeline started pipeline hPipeline := by
    obtain ⟨own, hOwn, rfl⟩ := Option.map_eq_some_iff.mp hPipeline
    have acts := secludes.engine.pipeline started own hOwn
    constructor
    · intro context cancel tokenActs
      apply acts_perform_andThen (secludes.announce hMay .enters)
      exact fun _ => (acts.onMessage context cancel tokenActs).widen fun _ _ => worksFor_of_quiet
    · intro context cancel tokenActs
      apply acts_perform_andThen (secludes.announce hMay .enters)
      exact fun _ => (acts.onError context cancel tokenActs).widen fun _ _ => worksFor_of_quiet
  session started := (secludes.engine.session started).widen fun _ _ => worksFor_of_quiet

theorem invocationActs (hMay : may)
    (acts : invocation.ActsBy (endpoint.Quiet log notes) (endpoint.Quiet log notes)) :
    (invocation.observed log notes index).ActsBy (endpoint.WorksFor log notes index may)
      (endpoint.Quiet log notes) := by
  obtain ⟨request, context, cancel⟩ := invocation
  cases request with
  | process message strategy =>
      rintro _ _ ⟨⟩
      obtain ⟨create, token, complete⟩ := acts message strategy rfl
      constructor
      · intro s
        have hCreate := create ((WorkLog.announce log notes index .opens) s).2
        exact ⟨secludes.allows_worksFor.trans _ _ _ (secludes.announce hMay .opens s)
          (worksFor_of_quiet hCreate.1), hCreate.2⟩
      · intro opened openedActs
        exact (token opened openedActs).widen fun _ _ => worksFor_of_quiet
      · intro opened cancel openedActs
        exact (complete opened cancel openedActs).widen fun _ _ => worksFor_of_quiet
  | _ => nofun

/-- What is done with the started instance. Work is done for a message only if the
instance receives it, and it is refused otherwise. -/
theorem acts_answer
    (acts : invocation.ActsBy (endpoint.Quiet log notes) (endpoint.Quiet log notes))
    (fresh : String) (started : ι) :
    ((endpoint.observed log notes index).answer (invocation.observed log notes index) fresh
      started).Acts (endpoint.WorksFor log notes index (endpoint.Receives invocation started))
      (endpoint.Answers invocation started) := by
  by_cases hReceives : endpoint.Receives invocation started
  · have allows : Host.Allows
        (endpoint.WorksFor log notes index (endpoint.Receives invocation started)) :=
      secludes.allows_worksFor
    have answered := FunctionEndpoint.acts_answer allows (fun _ _ => worksFor_of_quiet)
      (secludes.engineActs hReceives) (secludes.invocationActs hReceives acts) fresh started
    exact answered.mono fun _ _ _ hNot => absurd hReceives hNot
  · cases hProcess : invocation.request.isProcess with
    | true =>
        have hAnswers : endpoint.Answers invocation started (.error .sendOnly) := fun _ _ => rfl
        rw [answer_of_not_receives fresh (isProcess_observed.trans hProcess)
          (mt receives_observed.mp hReceives)]
        exact acts_done hAnswers
    | false =>
        have hOutbound : (invocation.observed log notes index).request.isProcess = false :=
          isProcess_observed.trans hProcess
        have sessionActs : ((endpoint.observed log notes index).engine.session started).ActsBy
            (endpoint.WorksFor log notes index (endpoint.Receives invocation started)) :=
          (secludes.engine.session started).widen fun _ _ => worksFor_of_quiet
        have outbound := acts_outbound secludes.allows_worksFor sessionActs hOutbound fresh
        exact outbound.mono fun _ _ hTrue => nomatch hProcess.symm.trans hTrue

/-- The start of the engine is no work for a message. -/
theorem allows_unnoted : Host.Allows fun s t => notes.get t = notes.get s where
  refl _ := rfl
  trans _ _ _ first second := second.trans first
  identifiers supply s := congrArg Prod.snd (secludes.identifiers supply s)
  report diagnostic s _ := secludes.notes_report diagnostic s

theorem acts_ensureStarted (cancel : CancellationToken σ) :
    ((endpoint.toLazyStart.observed log index).ensureStarted cancel).Acts
      (fun s t => notes.get t = notes.get s) fun _ => True := by
  apply secludes.allows_unnoted.acts_ensureStarted
  constructor
  · exact secludes.notes_gate
  · apply acts_perform_andThen fun s => secludes.notes_log _ s
    intro _
    apply secludes.notes_start.acts.bind
    intro result _
    apply acts_perform_andThen fun s => secludes.notes_log _ s
    exact fun _ => trivial

end Secludes

variable [LogSink κ]

theorem Secludes.quiet_attachLogger (secludes : endpoint.Secludes log notes)
    (context : FunctionContext κ) (s : σ) :
    endpoint.Quiet log notes s (endpoint.attachLogger context s).2 :=
  attachLogger_allowed secludes.allows_quiet.refl (fun sink => LogBook.view_perform
    secludes.loggers secludes.deliveries (LoggerContext.tryAttachSink sink)) context s

theorem Secludes.quiet_entered (secludes : endpoint.Secludes log notes)
    (invocation : Invocation σ κ) (s : σ) :
    endpoint.Quiet log notes s (endpoint.entered invocation s) :=
  secludes.allows_quiet.trans _ _ _ (secludes.quiet_attachLogger invocation.context s)
    (enter_allowed secludes.allows_quiet _)

theorem Secludes.state_entered (secludes : endpoint.Secludes log notes)
    (invocation : Invocation σ κ) (s : σ) :
    endpoint.state (endpoint.entered invocation s) = endpoint.state s :=
  congrArg (fun seen => seen.1.1.state) (secludes.quiet_entered invocation s)

theorem entered_observed :
    (endpoint.observed log notes index).entered (invocation.observed log notes index) =
      endpoint.entered invocation := by
  funext s
  rw [entered, enter_observed]
  rfl

/-- An invocation that is not refused asks for the instance as a caller for it does. -/
theorem poll_serve_observed (hServes : endpoint.refuses invocation.request = false) :
    ((endpoint.observed log notes index).serve (invocation.observed log notes index)).poll s =
      (((endpoint.toLazyStart.observed log index).ensureStarted invocation.cancel).andThen
        ((endpoint.observed log notes index).follow (invocation.observed log notes index)
          (endpoint.enter invocation (endpoint.attachLogger invocation.context s).2).1)).poll
        (endpoint.entered invocation s) := by
  rw [poll_serve_asks (refuses_observed.trans hServes), entered_observed, enter_observed]
  rfl

/-- What comes back at once does so when it is observed, too. -/
theorem poll_observed_refused (hRefuses : endpoint.refuses invocation.request = true) :
    ((endpoint.observed log notes index).serve (invocation.observed log notes index)).poll s =
      (.finished (.error .sendOnly), (endpoint.attachLogger invocation.context s).2) :=
  poll_serve_refused (refuses_observed.trans hRefuses)

theorem poll_observed_cancelled (hServes : endpoint.refuses invocation.request = false)
    (hUnstarted : (endpoint.state (endpoint.entered invocation s)).started? = none)
    (hCancel : invocation.cancel (endpoint.entered invocation s) = true) :
    ((endpoint.observed log notes index).serve (invocation.observed log notes index)).poll s =
      (.finished (.error .cancelled), endpoint.entered invocation s) := by
  rw [← entered_observed] at hUnstarted hCancel ⊢
  exact poll_serve_cancelled (refuses_observed.trans hServes) hUnstarted hCancel

theorem poll_observed_unreceived (hServes : endpoint.refuses invocation.request = false)
    {started : ι} (hStarted : endpoint.state (endpoint.entered invocation s) = .started started)
    (hProcess : invocation.request.isProcess = true)
    (hNot : ¬endpoint.Receives invocation started) :
    ((endpoint.observed log notes index).serve (invocation.observed log notes index)).poll s =
      (.finished (.error .sendOnly), endpoint.entered invocation s) := by
  rw [← entered_observed] at hStarted ⊢
  exact poll_serve_unreceived (refuses_observed.trans hServes) hStarted
    (isProcess_observed.trans hProcess) (mt receives_observed.mp hNot)

end FunctionEndpoint

end BusEndpoint
