import BusEndpoint.Proofs.Endpoint.Parts
import BusEndpoint.Task.Rounds

/-! Endpoints as their hosts use them. A host makes any number of invocations, of
one endpoint or of several; each goes on until it ends or gives up control, in any
order, and in between others change the host. -/

namespace BusEndpoint

open BusEndpoint.Task

variable {σ κ ς ι : Type}

/-- What a host asks of an endpoint. -/
inductive Request (σ : Type) where
  | process (message : WireMessage) (strategy : TransactionStrategy σ)
  | send (payload : Payload) (options : SendOptions)
  | publish (payload : Payload) (options : PublishOptions)
  | subscribe (event : String) (options : SubscribeOptions)
  | unsubscribe (event : String) (options : SubscribeOptions)

def Request.isProcess : Request σ → Bool
  | .process _ _ => true
  | _ => false

structure Invocation (σ κ : Type) where
  request : Request σ
  context : FunctionContext κ
  cancel : CancellationToken σ

/-- The strategy under which a message is processed. -/
def Invocation.ActsBy (allowed own : σ → σ → Prop) (invocation : Invocation σ κ) : Prop :=
  ∀ message strategy, invocation.request = .process message strategy →
    strategy.ActsBy allowed own

namespace FunctionEndpoint

variable [Host σ]

/-- A request that is refused before anything else is looked at. -/
def refuses (endpoint : FunctionEndpoint σ κ ς ι) (request : Request σ) : Bool :=
  request.isProcess && endpoint.configuration.sendOnly

/-- What is done before the started instance is asked for. A message gets an
identifier in case that it has none. -/
def enter (endpoint : FunctionEndpoint σ κ ς ι) (invocation : Invocation σ κ) : StateM σ String :=
  match invocation.request with
  | .process message _ => do
    let fresh ← Host.freshIdentifier
    Host.note (.span "process"
      [("endpoint", .text endpoint.configuration.endpointName),
        ("function", .text invocation.context.functionName),
        ("invocation_id", .text invocation.context.invocationId),
        ("message_id", .text (InboundMessage.ofWire fresh message).id)])
    return fresh
  | _ => return ""

/-- What is done with the started instance. -/
def answer (endpoint : FunctionEndpoint σ κ ς ι) (invocation : Invocation σ κ) (fresh : String)
    (started : ι) : Task σ (Except BusError Unit) :=
  let session := endpoint.engine.session started
  match invocation.request with
  | .process message strategy =>
    (endpoint.binding started).process (InboundMessage.ofWire fresh message) strategy
      invocation.cancel
  | .send payload options =>
    withPayload payload fun message => session.send message options invocation.cancel
  | .publish payload options =>
    withPayload payload fun message => session.publish message options invocation.cancel
  | .subscribe event options => session.subscribe event options invocation.cancel
  | .unsubscribe event options => session.unsubscribe event options invocation.cancel

/-- What follows when the started instance was asked for. -/
def follow (endpoint : FunctionEndpoint σ κ ς ι) (invocation : Invocation σ κ) (fresh : String) :
    Except BusError ι → Task σ (Except BusError Unit)
  | .error error => done (.error error)
  | .ok started => endpoint.answer invocation fresh started

/-- What is done once the logger of the invocation has been handed over. -/
def work (endpoint : FunctionEndpoint σ κ ς ι) (invocation : Invocation σ κ) :
    Task σ (Except BusError Unit) :=
  if endpoint.refuses invocation.request then done (.error .sendOnly)
  else
    (perform (endpoint.enter invocation)).andThen fun fresh =>
      (endpoint.ensureStarted invocation.cancel).andThen (endpoint.follow invocation fresh)

/-- The message of the invocation is handed to the pipeline of the instance. -/
def Receives (endpoint : FunctionEndpoint σ κ ς ι) (invocation : Invocation σ κ) (started : ι) :
    Prop :=
  invocation.request.isProcess = true ∧ endpoint.configuration.sendOnly = false ∧
    (endpoint.engine.pipeline endpoint.logBook started).isSome = true

variable {allowed own : σ → σ → Prop} {endpoint : FunctionEndpoint σ κ ς ι}
  {invocation : Invocation σ κ} {started : ι}

omit [Host σ] in
theorem refuses_iff {request : Request σ} : endpoint.refuses request = true ↔
    request.isProcess = true ∧ endpoint.configuration.sendOnly = true := by
  rw [refuses, Bool.and_eq_true]

omit [Host σ] in
theorem refuses_of_outbound {request : Request σ} (hOutbound : request.isProcess = false) :
    endpoint.refuses request = false := by
  rw [refuses, hOutbound, Bool.false_and]

omit [Host σ] in
theorem not_receives_of_none (hNone : endpoint.engine.pipeline endpoint.logBook started = none) :
    ¬endpoint.Receives invocation started := by
  rintro ⟨-, -, hSome⟩
  rw [hNone] at hSome
  cases hSome

omit [Host σ] in
theorem binding_of_not_receives (hProcess : invocation.request.isProcess = true)
    (hNot : ¬endpoint.Receives invocation started) : endpoint.binding started = .sendOnly := by
  cases hSendOnly : endpoint.configuration.sendOnly with
  | true => simp [LazyStart.binding, Engine.binding, hSendOnly]
  | false =>
      cases hPipeline : endpoint.engine.pipeline endpoint.logBook started with
      | none => simp [LazyStart.binding, Engine.binding, hSendOnly, hPipeline]
      | some pipeline => exact absurd ⟨hProcess, hSendOnly, by rw [hPipeline]; rfl⟩ hNot

/-- A message is refused by an instance that does not receive it. -/
theorem answer_of_not_receives (fresh : String) (hProcess : invocation.request.isProcess = true)
    (hNot : ¬endpoint.Receives invocation started) :
    endpoint.answer invocation fresh started = done (.error .sendOnly) := by
  have hBinding := binding_of_not_receives hProcess hNot
  obtain ⟨request, context, cancel⟩ := invocation
  cases request with
  | process message strategy =>
      simp only [answer, hBinding]
      rfl
  | _ => cases hProcess

theorem enter_allowed (allows : Host.Allows allowed) (s : σ) :
    allowed s (endpoint.enter invocation s).2 := by
  obtain ⟨request, context, cancel⟩ := invocation
  cases request with
  | process message strategy =>
      apply allows.bind allows.freshIdentifier
      intro fresh
      apply allows.bind _ fun _ => allows.refl
      intro t
      apply allows.report
      nofun
  | _ => exact allows.refl s

/-- Outbound work is done by the session. -/
theorem acts_outbound (allows : Host.Allows allowed)
    (sessionActs : (endpoint.engine.session started).ActsBy allowed)
    (hOutbound : invocation.request.isProcess = false) (fresh : String) :
    (endpoint.answer invocation fresh started).Acts allowed fun _ => True := by
  obtain ⟨request, context, cancel⟩ := invocation
  cases request with
  | process message strategy => cases hOutbound
  | send payload options => exact allows.acts_withPayload fun message => sessionActs.send message _ _
  | publish payload options =>
      exact allows.acts_withPayload fun message => sessionActs.publish message _ _
  | subscribe event options => exact sessionActs.subscribe _ _ _
  | unsubscribe event options => exact sessionActs.unsubscribe _ _ _

theorem acts_answer (allows : Host.Allows allowed) (hOwn : ∀ s t, own s t → allowed s t)
    (engineActs : endpoint.engine.ActsBy allowed own endpoint.logBook)
    (invocationActs : invocation.ActsBy allowed own) (fresh : String) (started : ι) :
    (endpoint.answer invocation fresh started).Acts allowed fun _ => True := by
  cases hRequest : invocation.request with
  | process message strategy =>
      simp only [answer, hRequest]
      exact allows.acts_process hOwn (invocationActs message strategy hRequest)
        (Engine.ActsBy.binding engineActs started)
  | _ =>
      apply acts_outbound allows (engineActs.session started)
      rw [hRequest]
      rfl

/-- An invocation does what the parts do that it is served by. -/
theorem acts_work (allows : Host.Allows allowed) (hOwn : ∀ s t, own s t → allowed s t)
    (lazyActs : endpoint.ActsBy allowed)
    (engineActs : endpoint.engine.ActsBy allowed own endpoint.logBook)
    (invocationActs : invocation.ActsBy allowed own) :
    (endpoint.work invocation).Acts allowed fun _ => True := by
  rw [work]
  split
  · trivial
  · apply acts_perform_andThen (enter_allowed allows)
    intro fresh
    apply (allows.acts_ensureStarted lazyActs).bind
    intro result _
    cases result with
    | error error => trivial
    | ok started => exact acts_answer allows hOwn engineActs invocationActs fresh started

variable [LogSink κ]

def serve (endpoint : FunctionEndpoint σ κ ς ι) (invocation : Invocation σ κ) :
    Task σ (Except BusError Unit) :=
  match invocation.request with
  | .process message strategy =>
    endpoint.processWith message strategy invocation.context invocation.cancel
  | .send payload options => endpoint.send payload options invocation.context invocation.cancel
  | .publish payload options =>
    endpoint.publish payload options invocation.context invocation.cancel
  | .subscribe event options =>
    endpoint.subscribe event options invocation.context invocation.cancel
  | .unsubscribe event options =>
    endpoint.unsubscribe event options invocation.context invocation.cancel

section Attach

variable {context : FunctionContext κ} {s : σ}

omit [Host σ] in
theorem attachLogger_of_none (hLogger : context.logger = none) :
    (endpoint.attachLogger context s).2 = s := by
  rw [attachLogger, hLogger]
  rfl

omit [Host σ] in
theorem attachLogger_of_some {sink : κ} (hLogger : context.logger = some sink) :
    (endpoint.attachLogger context s).2 =
      if (endpoint.logBook.context.get s).isAttached then s
      else (endpoint.logBook.tryAttachSink sink s).2 := by
  rw [attachLogger, hLogger]
  change ((if !(endpoint.logBook.context.get s).isAttached then do
    let _ ← endpoint.logBook.tryAttachSink sink
    else return () : StateM σ Unit) s).2 = _
  cases (endpoint.logBook.context.get s).isAttached with
  | true => rfl
  | false => rfl

omit [Host σ] in
/-- A sink that comes later is not even offered. -/
theorem attachLogger_of_attached (hAttached : (endpoint.logBook.context.get s).isAttached = true) :
    (endpoint.attachLogger context s).2 = s := by
  cases hLogger : context.logger with
  | none => exact attachLogger_of_none hLogger
  | some sink => rw [attachLogger_of_some hLogger, if_pos hAttached]

omit [Host σ] in
/-- A logger is handed over at most once. -/
theorem attachLogger_cases (endpoint : FunctionEndpoint σ κ ς ι) (context : FunctionContext κ)
    (s : σ) :
    (endpoint.attachLogger context s).2 = s ∨
      ∃ sink, (endpoint.attachLogger context s).2 = (endpoint.logBook.tryAttachSink sink s).2 := by
  cases hLogger : context.logger with
  | none => exact .inl (attachLogger_of_none hLogger)
  | some sink =>
      rw [attachLogger_of_some hLogger]
      split
      · exact .inl rfl
      · exact .inr ⟨sink, rfl⟩

omit [Host σ] in
theorem attachLogger_allowed (hRefl : ∀ s, allowed s s)
    (hAttach : ∀ sink s, allowed s (endpoint.logBook.tryAttachSink sink s).2)
    (context : FunctionContext κ) (s : σ) :
    allowed s (endpoint.attachLogger context s).2 := by
  rcases endpoint.attachLogger_cases context s with hSame | ⟨sink, hAttached⟩
  · rw [hSame]
    exact hRefl s
  · rw [hAttached]
    exact hAttach sink s

end Attach

/-- Every invocation first hands over its logger. -/
theorem poll_serve (endpoint : FunctionEndpoint σ κ ς ι) (invocation : Invocation σ κ) (s : σ) :
    (endpoint.serve invocation).poll s =
      (endpoint.work invocation).poll (endpoint.attachLogger invocation.context s).2 := by
  obtain ⟨request, context, cancel⟩ := invocation
  cases request with
  | process message strategy =>
      cases hSendOnly : endpoint.configuration.sendOnly with
      | true =>
          simp only [serve, processWith, work, refuses, hSendOnly]
          rfl
      | false =>
          simp only [serve, processWith, work, refuses, hSendOnly]
          rfl
  | send payload options => rfl
  | publish payload options => rfl
  | subscribe event options => rfl
  | unsubscribe event options => rfl

/-- The host when an invocation asks for the started instance. -/
def entered (endpoint : FunctionEndpoint σ κ ς ι) (invocation : Invocation σ κ) (s : σ) : σ :=
  (endpoint.enter invocation (endpoint.attachLogger invocation.context s).2).2

/-- Outbound work only hands over its logger before it asks for the instance. -/
theorem entered_of_outbound (hOutbound : invocation.request.isProcess = false) (s : σ) :
    endpoint.entered invocation s = (endpoint.attachLogger invocation.context s).2 := by
  obtain ⟨request, context, cancel⟩ := invocation
  cases request with
  | process message strategy => cases hOutbound
  | _ => rfl

theorem entered_allowed (allows : Host.Allows allowed)
    (hAttach : ∀ sink s, allowed s (endpoint.logBook.tryAttachSink sink s).2) (s : σ) :
    allowed s (endpoint.entered invocation s) :=
  allows.trans _ _ _ (attachLogger_allowed allows.refl hAttach invocation.context s)
    (enter_allowed allows _)

section Polls

variable {s : σ}

/-- A request that is refused comes back at once. -/
theorem poll_serve_refused (hRefuses : endpoint.refuses invocation.request = true) :
    (endpoint.serve invocation).poll s =
      (.finished (.error .sendOnly), (endpoint.attachLogger invocation.context s).2) := by
  rw [poll_serve, work, if_pos hRefuses]
  rfl

/-- Any other one asks for the started instance. -/
theorem poll_serve_asks (hServes : endpoint.refuses invocation.request = false) :
    (endpoint.serve invocation).poll s =
      ((endpoint.ensureStarted invocation.cancel).andThen (endpoint.follow invocation
        (endpoint.enter invocation (endpoint.attachLogger invocation.context s).2).1)).poll
        (endpoint.entered invocation s) := by
  rw [poll_serve, work, if_neg (by simp [hServes])]
  rfl

/-- It comes back if the call is cancelled and the instance is not there. -/
theorem poll_serve_cancelled (hServes : endpoint.refuses invocation.request = false)
    (hUnstarted : (endpoint.state (endpoint.entered invocation s)).started? = none)
    (hCancel : invocation.cancel (endpoint.entered invocation s) = true) :
    (endpoint.serve invocation).poll s =
      (.finished (.error .cancelled), endpoint.entered invocation s) := by
  rw [poll_serve_asks hServes]
  simp only [LazyStart.ensureStarted, bind_eq, pure_eq, andThen_assoc, poll_observe_andThen,
    hUnstarted, hCancel]
  rfl

/-- A message is refused at once by an instance that does not receive it, cancelled
or not. -/
theorem poll_serve_unreceived (hServes : endpoint.refuses invocation.request = false)
    (hStarted : endpoint.state (endpoint.entered invocation s) = .started started)
    (hProcess : invocation.request.isProcess = true)
    (hNot : ¬endpoint.Receives invocation started) :
    (endpoint.serve invocation).poll s =
      (.finished (.error .sendOnly), endpoint.entered invocation s) := by
  rw [poll_serve_asks hServes]
  simp only [LazyStart.ensureStarted, bind_eq, pure_eq, andThen_assoc, poll_observe_andThen,
    hStarted, StartState.started?]
  change (endpoint.answer invocation _ started).poll _ = _
  rw [answer_of_not_receives _ hProcess hNot]
  rfl

end Polls

end FunctionEndpoint

/-- An invocation that was made, and how far it has come. -/
structure Invoked (σ κ : Type) where
  invocation : Invocation σ κ
  progress : Progress σ (Except BusError Unit)

/-- A host, and all invocations that have been made so far. -/
structure Invocations (σ κ : Type) where
  host : σ
  made : List (Invoked σ κ)

namespace Invocations

/-- An invocation is made, and goes on as far as it can. -/
def make (invocation : Invocation σ κ) (task : Task σ (Except BusError Unit))
    (system : Invocations σ κ) : Invocations σ κ :=
  let polled := task.poll system.host
  ⟨polled.2, system.made ++ [⟨invocation, polled.1⟩]⟩

/-- An invocation that has given up control goes on as far as it can. -/
def resume (index : Nat) (system : Invocations σ κ) : Invocations σ κ :=
  match system.made[index]? with
  | some ⟨invocation, .suspended rest⟩ =>
    let polled := rest.poll system.host
    ⟨polled.2, system.made.set index ⟨invocation, polled.1⟩⟩
  | _ => system

/-- What an invocation has come to when it ended. -/
def result? (system : Invocations σ κ) (index : Nat) : Option (Except BusError Unit) :=
  system.made[index]?.bind fun invoked => invoked.progress.result?

section Steps

variable (tasks : Nat → Invocation σ κ → Task σ (Except BusError Unit) → Prop)
  (others : σ → σ → Prop)

/-- What can happen next. Which invocations are made and what each of them does is
left open, and so is what others do. -/
inductive Step : Invocations σ κ → Invocations σ κ → Prop where
  | makes {system : Invocations σ κ} {invocation : Invocation σ κ}
      {task : Task σ (Except BusError Unit)} (hTask : tasks system.made.length invocation task) :
      Step system (system.make invocation task)
  | resumes {system : Invocations σ κ} (index : Nat) : Step system (system.resume index)
  | changes {system : Invocations σ κ} {host : σ} (between : others system.host host) :
      Step system { system with host }

/-- Whatever may have happened since no invocation had been made. -/
inductive Reachable (start : σ → Prop) : Invocations σ κ → Prop where
  | fresh {host : σ} (hStart : start host) : Reachable start ⟨host, []⟩
  | step {system next : Invocations σ κ} (reachable : Reachable start system)
      (step : Step tasks others system next) : Reachable start next

end Steps

theorem resume_eq {system : Invocations σ κ} {index : Nat} {invocation : Invocation σ κ}
    {rest : Task σ (Except BusError Unit)}
    (hMade : system.made[index]? = some ⟨invocation, .suspended rest⟩) :
    system.resume index = ⟨(rest.poll system.host).2,
      system.made.set index ⟨invocation, (rest.poll system.host).1⟩⟩ := by
  rw [resume, hMade]

/-- A resumption of what has ended, or was never made, is without effect. -/
theorem resume_cases (system : Invocations σ κ) (index : Nat) :
    system.resume index = system ∨
      ∃ invocation rest, system.made[index]? = some ⟨invocation, .suspended rest⟩ := by
  rw [resume]
  split
  · rename_i invocation rest hMade
    exact .inr ⟨invocation, rest, hMade⟩
  · exact .inl rfl

theorem map_invocation_resume (system : Invocations σ κ) (index : Nat) :
    (system.resume index).made.map Invoked.invocation = system.made.map Invoked.invocation := by
  rcases system.resume_cases index with hSame | ⟨invocation, rest, hMade⟩
  · rw [hSame]
  · have hInvocation : (system.made.map Invoked.invocation)[index]? = some invocation := by
      rw [List.getElem?_map, hMade]
      rfl
    obtain ⟨hIndex, hInvoked⟩ := List.getElem?_eq_some_iff.mp hInvocation
    rw [resume_eq hMade, List.map_set]
    dsimp only
    rw [← hInvoked, List.set_getElem_self]

end Invocations

end BusEndpoint
