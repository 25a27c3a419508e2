import BusEndpoint.Attempt
import BusEndpoint.Proofs.Task.Runs

/-! A journal beside the host. A pipeline and a strategy on the host are
observed by running them on the host with a journal, in which every call to
them and its answer is noted; what they do to the host and what they answer
stays the same. The attempt itself is not changed: it is carried out with the
observed pipeline and the observed strategy. -/

namespace BusEndpoint

/-- What is seen of one attempt. Transactions are numbered in the order in
which they are opened; `none` is a strategy without a transaction. -/
inductive AttemptEvent (σ : Type) where
  | opened (handle : Option Nat)
  /-- The engine's token for the transaction was made; the call had or had not
  been cancelled by then. -/
  | enlisted (cancelled : Bool)
  | messageBegun (context : MessageContext σ)
  | messageEnded (result : Except Failure Unit)
  | errorBegun (context : ErrorContext σ)
  | errorEnded (result : Except Failure ErrorVerdict)
  | completionBegun (handle : Option Nat)
  | completionEnded (handle : Option Nat) (result : Except BusError Unit)
  /-- The commit of the native transaction was called, and answered. -/
  | committed (handle : Nat) (result : Except Failure Unit)
  | rolledBack (handle : Nat)
  /-- A pipeline or a completion acted on the host. -/
  | acted
  /-- The call was resumed after it had given up control; its token had or had
  not been cancelled by then. -/
  | resumed (cancelled : Bool)

abbrev Journal (σ : Type) := List (AttemptEvent σ)

variable {σ α : Type}

namespace AttemptEvent

/-- The transaction that was opened. -/
@[simp] def opened? : AttemptEvent σ → Option Nat
  | opened handle => handle
  | _ => none

/-- The answer to a commit of the transaction. -/
@[simp] def answerTo? (handle : Nat) : AttemptEvent σ → Option (Except Failure Unit)
  | committed other result => if other = handle then some result else none
  | _ => none

@[simp] def isRollbackOf (handle : Nat) : AttemptEvent σ → Bool
  | rolledBack other => decide (other = handle)
  | _ => false

@[simp] def isCompletion : AttemptEvent σ → Bool
  | completionBegun _ => true
  | _ => false

end AttemptEvent

namespace Journal

/-- The transactions that were opened. -/
def handles (journal : Journal σ) : List Nat := journal.filterMap AttemptEvent.opened?

/-- The answers to the commits of a transaction. -/
def commits (journal : Journal σ) (handle : Nat) : List (Except Failure Unit) :=
  journal.filterMap (AttemptEvent.answerTo? handle)

/-- How often a transaction was rolled back. -/
def rollbacks (journal : Journal σ) (handle : Nat) : Nat :=
  journal.countP (AttemptEvent.isRollbackOf handle)

/-- How often a completion was called. -/
def completions (journal : Journal σ) : Nat := journal.countP AttemptEvent.isCompletion

/-- A transaction is released by a commit that succeeds and by a rollback. -/
def isReleased (journal : Journal σ) (handle : Nat) : Bool :=
  ((journal.commits handle).any fun result => result.isOk) || decide (0 < journal.rollbacks handle)

/-- The transactions that have been opened and not been released. -/
def openHandles (journal : Journal σ) : List Nat :=
  journal.handles.filter fun handle => !journal.isReleased handle

variable {event : AttemptEvent σ} {first second journal : Journal σ} {handle : Nat}

@[simp] theorem handles_nil : handles ([] : Journal σ) = [] := rfl

@[simp] theorem handles_cons : handles (event :: journal) = event.opened?.toList ++ journal.handles := by
  rw [handles, List.filterMap_cons]
  cases event.opened? <;> rfl

@[simp] theorem handles_append : (first ++ second).handles = first.handles ++ second.handles :=
  List.filterMap_append

@[simp] theorem commits_nil : commits ([] : Journal σ) handle = [] := rfl

@[simp] theorem commits_cons :
    commits (event :: journal) handle = (event.answerTo? handle).toList ++ journal.commits handle := by
  rw [commits, List.filterMap_cons]
  cases event.answerTo? handle <;> rfl

@[simp] theorem commits_append :
    (first ++ second).commits handle = first.commits handle ++ second.commits handle :=
  List.filterMap_append

@[simp] theorem rollbacks_nil : rollbacks ([] : Journal σ) handle = 0 := rfl

@[simp] theorem rollbacks_cons :
    rollbacks (event :: journal) handle =
      (if event.isRollbackOf handle then 1 else 0) + journal.rollbacks handle := by
  rw [rollbacks, List.countP_cons, Nat.add_comm, rollbacks]

@[simp] theorem rollbacks_append :
    (first ++ second).rollbacks handle = first.rollbacks handle + second.rollbacks handle :=
  List.countP_append

@[simp] theorem completions_nil : completions ([] : Journal σ) = 0 := rfl

@[simp] theorem completions_cons :
    completions (event :: journal) =
      (if event.isCompletion then 1 else 0) + journal.completions := by
  rw [completions, List.countP_cons, Nat.add_comm, completions]

@[simp] theorem completions_append :
    (first ++ second).completions = first.completions + second.completions :=
  List.countP_append

end Journal

/-- Note an event. -/
def AttemptEvent.note (event : AttemptEvent σ) : StateM (σ × Journal σ) Unit :=
  modify fun state => (state.1, state.2 ++ [event])

/-- Note an event within a task. -/
def Task.note (event : AttemptEvent σ) : Task (σ × Journal σ) Unit := .perform event.note

/-- Change the host and leave the journal as it is. -/
def alongside (change : StateM σ α) : StateM (σ × Journal σ) α := fun state =>
  ((change state.1).1, ((change state.1).2, state.2))

/-- What a change does to the host if the journal is empty and not kept. -/
def forgetful (change : StateM (σ × Journal σ) α) : StateM σ α := fun s =>
  ((change (s, [])).1, (change (s, [])).2.1)

/-- A task that notes whenever it acts on the host. -/
def Task.noting : Task σ α → Task (σ × Journal σ) α
  | done value => done value
  | act update next =>
    act (fun state => (update state.1, state.2 ++ [.acted])) fun state => (next state.1).noting
  | pause next => pause next.noting
  | wait ready next => wait (fun state => ready state.1) next.noting

namespace NativeTransaction

def alongside (native : NativeTransaction σ) : NativeTransaction (σ × Journal σ) where
  commit := BusEndpoint.alongside native.commit
  rollback := BusEndpoint.alongside native.rollback

def forgetful (native : NativeTransaction (σ × Journal σ)) : NativeTransaction σ where
  commit := BusEndpoint.forgetful native.commit
  rollback := BusEndpoint.forgetful native.rollback

/-- A native transaction whose commits and rollbacks are noted under a number. -/
def observed (native : NativeTransaction σ) (handle : Nat) :
    NativeTransaction (σ × Journal σ) where
  commit := do
    let result ← BusEndpoint.alongside native.commit
    AttemptEvent.note (.committed handle result)
    return result
  rollback := do
    BusEndpoint.alongside native.rollback
    AttemptEvent.note (.rolledBack handle)

end NativeTransaction

namespace Transaction

def observed (transaction : Transaction σ) (handle : Nat) : Transaction (σ × Journal σ) :=
  ⟨transaction.id, transaction.native.observed handle⟩

def forgetful (transaction : Transaction (σ × Journal σ)) : Transaction σ :=
  ⟨transaction.id, transaction.native.forgetful⟩

/-- The number under which a transaction would note its rollback. -/
def number? (transaction : Transaction (σ × Journal σ)) (s : σ) : Option Nat :=
  (transaction.native.rollback (s, [])).2.2.findSome? fun | .rolledBack handle => some handle | _ => none

end Transaction

namespace TransportToken

/-- What an engine does with its token is no call of the attempt, and not noted
as one. -/
def alongside (token : TransportToken σ) : TransportToken (σ × Journal σ) :=
  ⟨token.id, token.native.map NativeTransaction.alongside⟩

def forgetful (token : TransportToken (σ × Journal σ)) : TransportToken σ :=
  ⟨token.id, token.native.map NativeTransaction.forgetful⟩

@[simp] theorem forgetful_alongside (token : TransportToken σ) :
    token.alongside.forgetful = token := by
  cases token with
  | mk id native => cases native <;> rfl

end TransportToken

def MessageContext.forgetful (context : MessageContext (σ × Journal σ)) : MessageContext σ :=
  ⟨context.messageId, context.headers, context.body, context.token.forgetful⟩

def ErrorContext.forgetful (context : ErrorContext (σ × Journal σ)) : ErrorContext σ :=
  ⟨context.error, context.messageId, context.headers, context.body, context.token.forgetful,
    context.deliveryCount⟩

namespace InboundMessage

@[simp] theorem forgetful_context (message : InboundMessage) (token : TransportToken σ) :
    (message.context token.alongside).forgetful = message.context token := by
  simp [context, MessageContext.forgetful]

@[simp] theorem forgetful_errorContext (message : InboundMessage) (failure : Failure)
    (token : TransportToken σ) :
    (message.errorContext failure token.alongside).forgetful = message.errorContext failure token := by
  simp [errorContext, ErrorContext.forgetful]

end InboundMessage

namespace CancellationToken

def alongside (cancel : CancellationToken σ) : CancellationToken (σ × Journal σ) :=
  fun state => cancel state.1

def forgetful (cancel : CancellationToken (σ × Journal σ)) : CancellationToken σ :=
  fun s => cancel (s, [])

end CancellationToken

/-- A strategy whose calls are noted. -/
def TransactionStrategy.observed (strategy : TransactionStrategy σ)
    (cancel : CancellationToken σ) : TransactionStrategy (σ × Journal σ) where
  create := do
    let transaction ← alongside strategy.create
    let handle := (← get).2.handles.length
    AttemptEvent.note (.opened (transaction.map fun _ => handle))
    return transaction.map fun transaction => transaction.observed handle
  token transaction := do
    let token ← alongside (strategy.token (transaction.map Transaction.forgetful))
    AttemptEvent.note (.enlisted (cancel (← get).1))
    return token.alongside
  complete transaction cancel := do
    let handle ← Task.observe fun state => transaction.bind fun t => t.number? state.1
    Task.note (.completionBegun handle)
    let result ←
      (strategy.complete (transaction.map Transaction.forgetful) cancel.forgetful).noting
    Task.note (.completionEnded handle result)
    return result

/-- A pipeline whose calls are noted. -/
def Pipeline.observed (pipeline : Pipeline σ) : Pipeline (σ × Journal σ) where
  onMessage context cancel := do
    Task.note (.messageBegun context.forgetful)
    let result ← (pipeline.onMessage context.forgetful cancel.forgetful).noting
    Task.note (.messageEnded result)
    return result
  onError context cancel := do
    Task.note (.errorBegun context.forgetful)
    let result ← (pipeline.onError context.forgetful cancel.forgetful).noting
    Task.note (.errorEnded result)
    return result

def Binding.observed : Binding σ → Binding (σ × Journal σ)
  | unbound => unbound
  | sendOnly => sendOnly
  | receiving pipeline => receiving pipeline.observed

/-- What happens while an observed call has given up control: others change the
host, and it is noted that the call is resumed. -/
def Journal.Between (others : σ → σ → Prop) (cancel : CancellationToken σ)
    (before after : σ × Journal σ) : Prop :=
  others before.1 after.1 ∧ after.2 = before.2 ++ [.resumed (cancel after.1)]

theorem Journal.between_intro {others : σ → σ → Prop} {cancel : CancellationToken σ} {s t : σ}
    {journal : Journal σ} (hOthers : others s t) :
    Journal.Between others cancel (s, journal) (t, journal ++ [.resumed (cancel t)]) :=
  ⟨hOthers, rfl⟩

namespace Binding

variable [Host σ]

/-- An attempt comes to an outcome, and its journal is the given one. -/
def Attempts (others : σ → σ → Prop) (binding : Binding σ) (message : InboundMessage)
    (strategy : TransactionStrategy σ) (cancel : CancellationToken σ) (s : σ) (journal : Journal σ)
    (outcome : Except BusError AttemptOutcome) (t : σ) : Prop :=
  (binding.observed.attempt message (strategy.observed cancel) cancel.alongside).Runs
    (Journal.Between others cancel) (s, []) outcome (t, journal)

/-- Processing a message comes to a result, and its journal is the given one. -/
def Processes (others : σ → σ → Prop) (binding : Binding σ) (message : InboundMessage)
    (strategy : TransactionStrategy σ) (cancel : CancellationToken σ) (s : σ) (journal : Journal σ)
    (result : Except BusError Unit) (t : σ) : Prop :=
  (binding.observed.process message (strategy.observed cancel) cancel.alongside).Runs
    (Journal.Between others cancel) (s, []) result (t, journal)

end Binding

end BusEndpoint
