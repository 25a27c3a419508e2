import BusEndpoint.Endpoint
import BusEndpoint.Proofs.Task.Acting

/-! What the parts of an endpoint may do to the host. The engine with its
pipeline and its sessions, and the strategies of transactions, come from outside.
If all their changes are of some kind, to which those of the library belong, then
so are the changes of every piece of work that is put together from them. -/

namespace BusEndpoint

open BusEndpoint.Task

variable {σ κ ς ι α β : Type}

/-- The report of a destination that comes too late. -/
def LoggerContext.lateReport : Diagnostic := .event .warn [] lateWarning

section Parts

variable (allowed : σ → σ → Prop)

/-- What the library does to the host on its own account is allowed, and so is
any number of changes that are. Nothing but a log book reports a destination that
comes too late. -/
structure Host.Allows [Host σ] : Prop where
  refl : ∀ s, allowed s s
  trans : ∀ s t u, allowed s t → allowed t u → allowed s u
  identifiers : ∀ supply s, allowed s ((Host.identifiers (σ := σ)).set supply s)
  report : ∀ diagnostic s, diagnostic ≠ LoggerContext.lateReport →
    allowed s (Host.report diagnostic s)

structure NativeTransaction.ActsBy (native : NativeTransaction σ) : Prop where
  commit : ∀ s, allowed s (native.commit s).2
  rollback : ∀ s, allowed s (native.rollback s).2

def Transaction.ActsBy (opened : Option (Transaction σ)) : Prop :=
  ∀ transaction, opened = some transaction → transaction.native.ActsBy allowed

def TransportToken.ActsBy (token : TransportToken σ) : Prop :=
  ∀ native, token.native = some native → native.ActsBy allowed

structure Session.ActsBy (session : Session σ) : Prop where
  send : ∀ message options cancel, (session.send message options cancel).Acts allowed fun _ => True
  publish : ∀ message options cancel,
    (session.publish message options cancel).Acts allowed fun _ => True
  subscribe : ∀ event options cancel,
    (session.subscribe event options cancel).Acts allowed fun _ => True
  unsubscribe : ∀ event options cancel,
    (session.unsubscribe event options cancel).Acts allowed fun _ => True

/-- What transactions do may be less than what is allowed besides. -/
structure TransactionStrategy.ActsBy (own : σ → σ → Prop) (strategy : TransactionStrategy σ) :
    Prop where
  create : (perform strategy.create).Acts allowed (Transaction.ActsBy own)
  token : ∀ opened, Transaction.ActsBy own opened →
    (perform (strategy.token opened)).Acts allowed (TransportToken.ActsBy own)
  complete : ∀ opened cancel, Transaction.ActsBy own opened →
    (strategy.complete opened cancel).Acts allowed fun _ => True

/-- A pipeline may also do what it is given by the token of a transaction. -/
structure Pipeline.ActsBy (own : σ → σ → Prop) (pipeline : Pipeline σ) : Prop where
  onMessage : ∀ context cancel, context.token.ActsBy own →
    (pipeline.onMessage context cancel).Acts allowed fun _ => True
  onError : ∀ context cancel, context.token.ActsBy own →
    (pipeline.onError context cancel).Acts allowed fun _ => True

def Binding.ActsBy (own : σ → σ → Prop) (binding : Binding σ) : Prop :=
  ∀ pipeline, binding = .receiving pipeline → pipeline.ActsBy allowed own

/-- What an engine gives once it is started. -/
structure Engine.ActsBy (own : σ → σ → Prop) (engine : Engine σ κ ς ι) (logBook : LogBook σ κ) :
    Prop where
  pipeline : ∀ started pipeline, engine.pipeline logBook started = some pipeline →
    pipeline.ActsBy allowed own
  session : ∀ started, (engine.session started).ActsBy allowed

/-- An endpoint with its gate, and its engine with all that it gives. -/
structure LazyStart.ActsBy (lazy : LazyStart σ κ ς ι) : Prop where
  gate : ∀ gate s, allowed s (lazy.gate.set gate s)
  start : (lazy.engine.start lazy.configuration lazy.services lazy.logBook).Acts allowed
    fun _ => True

end Parts

variable {allowed own : σ → σ → Prop} {lazy : LazyStart σ κ ς ι}

theorem NativeTransaction.ActsBy.mono {native : NativeTransaction σ} (acts : native.ActsBy own)
    (hOwn : ∀ s t, own s t → allowed s t) : native.ActsBy allowed :=
  ⟨fun s => hOwn _ _ (acts.commit s), fun s => hOwn _ _ (acts.rollback s)⟩

theorem TransactionStrategy.ActsBy.widen {strategy : TransactionStrategy σ} {wide : σ → σ → Prop}
    (acts : strategy.ActsBy allowed own) (hWide : ∀ s t, allowed s t → wide s t) :
    strategy.ActsBy wide own where
  create := acts.create.widen hWide
  token opened hOpened := (acts.token opened hOpened).widen hWide
  complete opened cancel hOpened := (acts.complete opened cancel hOpened).widen hWide

theorem Session.ActsBy.widen {session : Session σ} (acts : session.ActsBy own)
    (hOwn : ∀ s t, own s t → allowed s t) : session.ActsBy allowed where
  send _ _ _ := (acts.send _ _ _).widen hOwn
  publish _ _ _ := (acts.publish _ _ _).widen hOwn
  subscribe _ _ _ := (acts.subscribe _ _ _).widen hOwn
  unsubscribe _ _ _ := (acts.unsubscribe _ _ _).widen hOwn

theorem Engine.ActsBy.binding (acts : lazy.engine.ActsBy allowed own lazy.logBook) (started : ι) :
    (lazy.binding started).ActsBy allowed own := by
  intro pipeline hBinding
  simp only [LazyStart.binding, Engine.binding] at hBinding
  split at hBinding
  · rename_i own _ hOwn
    cases hBinding
    exact acts.pipeline started pipeline hOwn
  · cases hBinding

theorem LazyStart.ActsBy.change_andThen (acts : lazy.ActsBy allowed)
    {change : StartGate ι → StartGate ι} {follow : Unit → Task σ α} {answers : α → Prop}
    (later : (follow ()).Acts allowed answers) :
    ((lazy.change change).andThen follow).Acts allowed answers :=
  acts_perform_andThen (fun s => acts.gate (change (lazy.gate.get s)) s) fun _ => later

variable [Host σ]

namespace Host.Allows

variable (allows : Host.Allows allowed)
include allows

theorem bind {change : StateM σ α} {follow : α → StateM σ β}
    (hChange : ∀ s, allowed s (change s).2) (hFollow : ∀ value s, allowed s (follow value s).2)
    (s : σ) : allowed s ((change >>= follow) s).2 :=
  allows.trans _ _ _ (hChange s) (hFollow _ _)

theorem freshIdentifier (s : σ) : allowed s ((Host.freshIdentifier : StateM σ String) s).2 :=
  allows.identifiers _ s

/-- An event with a field is not the report of a destination. -/
theorem event (severity : Severity) (field : String × FieldValue)
    (fields : List (String × FieldValue)) (message : String) (s : σ) :
    allowed s (Host.event severity (field :: fields) message s).2 := by
  apply allows.report
  intro hSame
  cases hSame

theorem acts_event_andThen {severity : Severity} {field : String × FieldValue}
    {fields : List (String × FieldValue)} {message : String} {follow : Unit → Task σ α}
    {answers : α → Prop} (later : (follow ()).Acts allowed answers) :
    ((Task.event severity (field :: fields) message).andThen follow).Acts allowed answers :=
  acts_perform_andThen (allows.event severity field fields message) fun _ => later

theorem discard {transaction : Transaction σ} (acts : transaction.native.ActsBy allowed) (s : σ) :
    allowed s (transaction.discard s).2 :=
  allows.bind (allows.event _ _ _ _) (fun _ => acts.rollback) s

theorem commit {transaction : Transaction σ} (acts : transaction.native.ActsBy allowed) (s : σ) :
    allowed s (transaction.commit s).2 := by
  apply allows.bind acts.commit
  intro result t
  cases result with
  | ok done => exact allows.refl t
  | error failure => exact allows.bind (allows.discard acts) (fun _ => allows.refl) t

section Attempts

variable (hOwn : ∀ s t, own s t → allowed s t) {opened : Option (Transaction σ)}
include hOwn

theorem acts_discardAny (acts : Transaction.ActsBy own opened) :
    (perform (Transaction.discardAny opened)).Acts allowed fun _ => True := by
  cases opened with
  | none => exact acts_perform allows.refl fun _ => trivial
  | some transaction =>
      exact acts_perform (allows.discard ((acts _ rfl).mono hOwn)) fun _ => trivial

theorem acts_commitAny (acts : Transaction.ActsBy own opened) :
    (perform (Transaction.commitAny opened)).Acts allowed fun _ => True := by
  cases opened with
  | none => exact acts_perform allows.refl fun _ => trivial
  | some transaction =>
      exact acts_perform (allows.commit ((acts _ rfl).mono hOwn)) fun _ => trivial

variable {strategy : TransactionStrategy σ} {pipeline : Pipeline σ} {message : InboundMessage}
  {cancel : CancellationToken σ}

theorem acts_settle (strategyActs : strategy.ActsBy allowed own)
    (acts : Transaction.ActsBy own opened) :
    (strategy.settle opened cancel).Acts allowed fun _ => True := by
  apply (strategyActs.complete opened cancel acts).bind
  intro completion _
  cases completion with
  | error error => exact (allows.acts_discardAny hOwn acts).bind fun _ _ => trivial
  | ok done => exact allows.acts_commitAny hOwn acts

theorem acts_recover (strategyActs : strategy.ActsBy allowed own)
    (onErrorActs : ∀ context cancel, context.token.ActsBy own →
      (pipeline.onError context cancel).Acts allowed fun _ => True) (failure : Failure) :
    (pipeline.recover message failure strategy cancel).Acts allowed fun _ => True := by
  apply allows.acts_event_andThen
  apply strategyActs.create.bind
  intro opened acts
  apply (strategyActs.token opened acts).bind
  intro token tokenActs
  apply (onErrorActs (message.errorContext failure token) cancel tokenActs).bind
  intro result _
  cases result with
  | error error =>
      apply allows.acts_event_andThen
      exact (allows.acts_discardAny hOwn acts).bind fun _ _ => trivial
  | ok verdict =>
      cases verdict with
      | handled =>
          apply (allows.acts_settle hOwn strategyActs acts).bind
          intro settled _
          cases settled with
          | error error => trivial
          | ok done => exact allows.acts_event_andThen trivial
      | retryRequired =>
          apply allows.acts_event_andThen
          exact (allows.acts_discardAny hOwn acts).bind fun _ _ => trivial

/-- From the end of the message pipeline on, only the error pipeline is called. -/
theorem acts_conclude (strategyActs : strategy.ActsBy allowed own)
    (onErrorActs : ∀ context cancel, context.token.ActsBy own →
      (pipeline.onError context cancel).Acts allowed fun _ => True)
    (acts : Transaction.ActsBy own opened) (result : Option (Except Failure Unit)) :
    (pipeline.conclude message strategy cancel opened result).Acts allowed fun _ => True := by
  cases result with
  | none => exact (allows.acts_discardAny hOwn acts).bind fun _ _ => trivial
  | some result =>
      cases result with
      | ok done =>
          apply (allows.acts_settle hOwn strategyActs acts).bind
          intro settled _
          cases settled with
          | error error => trivial
          | ok done => exact allows.acts_event_andThen trivial
      | error failure =>
          apply (allows.acts_discardAny hOwn acts).bind
          intro _ _
          split
          · trivial
          · exact allows.acts_recover hOwn strategyActs onErrorActs failure

theorem acts_attempt (strategyActs : strategy.ActsBy allowed own)
    (pipelineActs : pipeline.ActsBy allowed own) :
    (pipeline.attempt message strategy cancel).Acts allowed fun _ => True := by
  apply acts_observe_andThen allows.refl
  intro cancelled
  split
  · trivial
  · apply allows.acts_event_andThen
    apply strategyActs.create.bind
    intro opened acts
    apply (strategyActs.token opened acts).bind
    intro token tokenActs
    apply ((pipelineActs.onMessage (message.context token) cancel tokenActs).cutBy allows.refl).bind
    exact fun result _ => allows.acts_conclude hOwn strategyActs pipelineActs.onError acts result

/-- Whatever the message is, its processing does what the parts do. -/
theorem acts_process {binding : Binding σ} (strategyActs : strategy.ActsBy allowed own)
    (bindingActs : binding.ActsBy allowed own) :
    (binding.process message strategy cancel).Acts allowed fun _ => True := by
  have hAttempt : (binding.attempt message strategy cancel).Acts allowed fun _ => True := by
    cases binding with
    | unbound => trivial
    | sendOnly => trivial
    | receiving pipeline => exact allows.acts_attempt hOwn strategyActs (bindingActs pipeline rfl)
  apply hAttempt.bind
  intro result _
  cases result with
  | error error => trivial
  | ok outcome => cases outcome <;> trivial

end Attempts

theorem acts_withPayload {payload : Payload}
    {work : OutgoingMessage → Task σ (Except BusError Unit)}
    (acts : ∀ message, (work message).Acts allowed fun _ => True) :
    (FunctionEndpoint.withPayload payload work).Acts allowed fun _ => True := by
  have hMessage (s : σ) : allowed s (payload.toMessage s).2 := by
    apply allows.bind allows.freshIdentifier
    intro id t
    cases payload.body with
    | error reason => exact allows.refl t
    | ok body => exact allows.refl t
  apply acts_perform_andThen hMessage
  intro result
  cases result with
  | error error => trivial
  | ok message => exact acts message

theorem actsBy_none : (TransactionStrategy.none : TransactionStrategy σ).ActsBy allowed own where
  create := acts_perform allows.refl fun _ => nofun
  token _ _ := acts_perform (allows.bind allows.freshIdentifier fun _ => allows.refl) fun _ => nofun
  complete _ _ _ := trivial

section Start

variable {cancel : CancellationToken σ} (lazyActs : lazy.ActsBy allowed)
include lazyActs

theorem acts_start : lazy.start.Acts allowed fun _ => True := by
  apply lazyActs.change_andThen
  apply allows.acts_event_andThen
  apply lazyActs.start.bind
  intro result _
  cases result with
  | error error =>
      apply lazyActs.change_andThen
      exact allows.acts_event_andThen trivial
  | ok started =>
      apply lazyActs.change_andThen
      exact allows.acts_event_andThen trivial

theorem acts_startBehindGate : lazy.startBehindGate.Acts allowed fun _ => True := by
  have hStart : lazy.startUnlessStarted.Acts allowed fun _ => True := by
    apply acts_observe_andThen allows.refl
    intro found
    cases found with
    | some started => trivial
    | none => exact allows.acts_start lazyActs
  apply hStart.bind
  exact fun _ _ => lazyActs.change_andThen trivial

/-- Whoever asks for the started instance does what the gate and the engine do. -/
theorem acts_ensureStarted : (lazy.ensureStarted cancel).Acts allowed fun _ => True := by
  apply acts_observe_andThen allows.refl
  intro found
  cases found with
  | some started => trivial
  | none =>
      apply acts_observe_andThen allows.refl
      intro cancelled
      split
      · trivial
      · apply acts_perform_andThen fun s => lazyActs.gate (lazy.gate.get s).enter.2 s
        intro ticket
        apply acts_observe_andThen allows.refl
        intro cancelled
        split
        · exact lazyActs.change_andThen trivial
        · exact allows.acts_startBehindGate lazyActs

end Start

end Host.Allows

end BusEndpoint
