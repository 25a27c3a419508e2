import BusEndpoint.Proofs.Recovery.Beside
import BusEndpoint.Transaction.HostManaged

/-! A record of the transactions of a host. What is done with them is noted beside
the host, call after call: their begins, commits and rollbacks, and the steps and
answers on which these depend. An engine that is enlisted in a transaction uses the
transaction itself, which is no matter of the call and not noted. -/

namespace BusEndpoint

open BusEndpoint.Task

/-- What is seen of native transactions and of the work under them. They are
numbered in the order in which they are begun, over all calls; a part that was
handed some other transaction would have no number. -/
inductive NativeEvent where
  | begun (number : Nat)
  /-- The message pipeline came to its end. -/
  | processed (answer : Except Failure Unit)
  /-- The error pipeline came to its end. -/
  | treated (answer : Except Failure ErrorVerdict)
  /-- Completion begins; the token of the call has or has not been cancelled by
  then. -/
  | completing (number : Option Nat) (cancelled : Bool)
  | stepBegun (number : Option Nat)
  | stepEnded (number : Option Nat) (result : Except BusError Unit)
  /-- The native commit was called, and answered. -/
  | committed (number : Nat) (answer : Except Failure Unit)
  | rolledBack (number : Nat)

namespace NativeEvent

@[simp] def begun? : NativeEvent → Option Nat
  | begun number => some number
  | _ => none

@[simp] def rolledBack? : NativeEvent → Option Nat
  | rolledBack number => some number
  | _ => none

@[simp] def commit? : NativeEvent → Option (Nat × Except Failure Unit)
  | committed number answer => some (number, answer)
  | _ => none

@[simp] def step? : NativeEvent → Option (Option Nat)
  | stepBegun number => some number
  | _ => none

@[simp] def isCompletion : NativeEvent → Bool
  | completing _ _ => true
  | _ => false

end NativeEvent

abbrev NativeRecord := List NativeEvent

namespace NativeRecord

/-- The transactions that were begun. -/
abbrev begins (events : NativeRecord) : List Nat := events.filterMap NativeEvent.begun?

/-- The rollbacks, in their order. -/
abbrev rollbacks (events : NativeRecord) : List Nat := events.filterMap NativeEvent.rolledBack?

/-- The calls of native commits, with their answers. -/
abbrev commits (events : NativeRecord) : List (Nat × Except Failure Unit) :=
  events.filterMap NativeEvent.commit?

/-- The transactions for which the completion step was run. -/
abbrev steps (events : NativeRecord) : List (Option Nat) := events.filterMap NativeEvent.step?

/-- How often completion was begun. -/
abbrev completions (events : NativeRecord) : Nat := events.countP NativeEvent.isCompletion

end NativeRecord

variable {σ α : Type}

/-- Add to the record. -/
def NativeEvent.record (event : NativeEvent) : StateM (σ × NativeRecord) Unit :=
  modify fun s => (s.1, s.2 ++ [event])

/-- A native transaction whose commits and rollbacks are noted under a number. -/
def NativeTransaction.recorded (native : NativeTransaction σ) (number : Nat) :
    NativeTransaction (σ × NativeRecord) where
  commit := do
    let answer ← BusEndpoint.onFirst native.commit
    NativeEvent.record (.committed number answer)
    return answer
  rollback := do
    BusEndpoint.onFirst native.rollback
    NativeEvent.record (.rolledBack number)

namespace Transaction

def recorded (transaction : Transaction σ) (number : Nat) : Transaction (σ × NativeRecord) :=
  ⟨transaction.id, transaction.native.recorded number⟩

/-- The number under which a transaction would note its rollback. -/
def recordedNumber? (transaction : Transaction (σ × NativeRecord)) (s : σ) : Option Nat :=
  (NativeRecord.rollbacks (transaction.native.rollback (s, [])).2.2).head?

end Transaction

/-- What a token is to an engine that works on the host. -/
def TransportToken.alone {ρ : Type} (kept : ρ) (token : TransportToken (σ × ρ)) :
    TransportToken σ :=
  ⟨token.id, token.native.map (NativeTransaction.alone kept)⟩

def MessageContext.alone {ρ : Type} (kept : ρ) (context : MessageContext (σ × ρ)) :
    MessageContext σ :=
  ⟨context.messageId, context.headers, context.body, context.token.alone kept⟩

def ErrorContext.alone {ρ : Type} (kept : ρ) (context : ErrorContext (σ × ρ)) : ErrorContext σ :=
  ⟨context.error, context.messageId, context.headers, context.body, context.token.alone kept,
    context.deliveryCount⟩

/-- A pipeline that works on the host, and whose answers are noted. -/
def Pipeline.recorded (pipeline : Pipeline σ) : Pipeline (σ × NativeRecord) where
  onMessage context cancel := do
    let answer ← (pipeline.onMessage (context.alone []) fun s => cancel (s, [])).onFirst
    Task.perform (NativeEvent.record (.processed answer))
    return answer
  onError context cancel := do
    let answer ← (pipeline.onError (context.alone []) fun s => cancel (s, [])).onFirst
    Task.perform (NativeEvent.record (.treated answer))
    return answer

def Binding.recorded : Binding σ → Binding (σ × NativeRecord)
  | unbound => unbound
  | sendOnly => sendOnly
  | receiving pipeline => receiving pipeline.recorded

namespace HostTransactions

/-- Host transactions whose begins and completion steps are noted. -/
def recorded (transactions : HostTransactions σ) : HostTransactions (σ × NativeRecord) where
  factory := do
    let native ← onFirst transactions.factory
    let number := (NativeRecord.begins (← get).2).length
    NativeEvent.record (.begun number)
    return native.recorded number
  completion := transactions.completion.map fun step transaction => do
    let number ← Task.observe fun s => transaction.recordedNumber? s.1
    Task.perform (NativeEvent.record (.stepBegun number))
    let result ← (step (transaction.alone [])).onFirst
    Task.perform (NativeEvent.record (.stepEnded number result))
    return result

variable [Host σ]

/-- The strategy of recorded transactions. The moment at which completion begins is
noted as well. -/
def recordedStrategy (transactions : HostTransactions σ) :
    TransactionStrategy (σ × NativeRecord) :=
  { transactions.recorded.strategy with
    complete := fun transaction cancel => do
      let begins ← Task.observe fun s =>
        NativeEvent.completing (transaction.bind fun t => t.recordedNumber? s.1) (cancel s)
      Task.perform begins.record
      transactions.recorded.complete transaction cancel }

end HostTransactions

section Reflections

variable {cancel : CancellationToken σ}

/-- To note something is to do nothing to the host. -/
theorem Task.mirrors_record {β : Type} {agree : α → β → Prop} {event : NativeEvent}
    {next : Unit → Task (σ × NativeRecord) α} {mirrored : Task σ β}
    (later : Mirrors Prod.fst agree (next ()) mirrored) :
    Mirrors Prod.fst agree ((perform event.record).andThen next) mirrored :=
  .aside (fun _ => rfl) fun _ => later

/-- Work on the host whose answer is noted. -/
theorem Task.mirrors_onFirst_record (answered : α → NativeEvent) (task : Task σ α) :
    Mirrors Prod.fst Eq
      (task.onFirst.andThen fun answer =>
        (perform (answered answer).record).andThen fun _ => done answer) task := by
  conv => rhs; rw [← andThen_done task]
  apply (mirrors_onFirst task).bind
  intro answer
  exact mirrors_record (.done rfl)

theorem Pipeline.reflects_recorded (pipeline : Pipeline σ) (cancel : CancellationToken σ) :
    pipeline.recorded.Reflects (fun seen token => seen.alone [] = token) pipeline cancel where
  onMessage := by
    rintro message seen _ rfl
    exact mirrors_onFirst_record _ _
  onError := by
    rintro message failure seen _ rfl
    exact mirrors_onFirst_record _ _

/-- What recorded host transactions open, beside what they open themselves. -/
def Transaction.Records (opened : Option (Transaction (σ × NativeRecord)))
    (transaction : Option (Transaction σ)) : Prop :=
  ∃ number, opened = transaction.map fun t => t.recorded number

variable [Host σ]

/-- The commit of a recorded transaction is that of the transaction. A rejected one is
followed by a rollback, and an accepted one by nothing. -/
theorem Transaction.commit_recorded (transaction : Transaction σ) (number : Nat)
    (s : σ × NativeRecord) :
    (∃ t, transaction.commit s.1 = (.ok (), t) ∧
      (transaction.recorded number).commit s = (.ok (), t, s.2 ++ [.committed number (.ok ())])) ∨
    ∃ failure t, transaction.commit s.1 = (.error (.transaction failure.message), t) ∧
      (transaction.recorded number).commit s =
        (.error (.transaction failure.message), t,
          s.2 ++ [.committed number (.error failure), .rolledBack number]) := by
  have hCommit : (transaction.recorded number).native.commit s =
      ((transaction.native.commit s.1).1, ((transaction.native.commit s.1).2,
        s.2 ++ [.committed number (transaction.native.commit s.1).1])) := rfl
  simp only [commit, bind, StateT.bind, hCommit]
  rcases transaction.native.commit s.1 with ⟨failure | value, t⟩
  · refine .inr ⟨failure, _, rfl, ?_⟩
    rw [List.append_cons s.2 _ [.rolledBack number]]
    rfl
  · exact .inl ⟨t, rfl, rfl⟩

theorem HostTransactions.reflects_recorded (transactions : HostTransactions σ)
    (cancel : CancellationToken σ) :
    transactions.recordedStrategy.Reflects Transaction.Records
      (fun seen token => seen.alone [] = token) transactions.strategy cancel where
  create := mirrors_perform (fun _ => ⟨_, rfl⟩) fun _ => rfl
  token := by
    rintro _ transaction ⟨number, rfl⟩
    cases transaction with
    | none => exact mirrors_perform (fun _ => rfl) fun _ => rfl
    | some transaction => exact mirrors_perform (fun _ => rfl) fun _ => rfl
  complete := by
    rintro _ transaction ⟨number, rfl⟩
    refine .aside (fun _ => rfl) fun s => mirrors_record (mirrors_ite (.done rfl) ?_)
    rcases transactions with ⟨factory, _ | step⟩
    · cases transaction <;> exact .done rfl
    · cases transaction with
      | none => exact .done rfl
      | some transaction =>
          exact .aside (fun _ => rfl) fun _ => mirrors_record (mirrors_onFirst_record _ _)
  discard := by
    rintro _ transaction ⟨number, rfl⟩
    cases transaction with
    | none => exact mirrors_perform (fun _ => rfl) fun _ => rfl
    | some transaction => exact mirrors_perform (fun _ => rfl) fun _ => rfl
  commit := by
    rintro _ transaction ⟨number, rfl⟩
    cases transaction with
    | none => exact mirrors_perform (fun _ => rfl) fun _ => rfl
    | some transaction =>
        refine mirrors_perform (fun s => ?_) fun s => ?_
        · obtain ⟨t, hCommit, hRecorded⟩ | ⟨failure, t, hCommit, hRecorded⟩ :=
            transaction.commit_recorded number s
          · exact (congrArg Prod.fst hRecorded).trans (congrArg Prod.fst hCommit).symm
          · exact (congrArg Prod.fst hRecorded).trans (congrArg Prod.fst hCommit).symm
        · obtain ⟨t, hCommit, hRecorded⟩ | ⟨failure, t, hCommit, hRecorded⟩ :=
            transaction.commit_recorded number s
          · exact (congrArg (·.2.1) hRecorded).trans (congrArg Prod.snd hCommit).symm
          · exact (congrArg (·.2.1) hRecorded).trans (congrArg Prod.snd hCommit).symm

theorem Binding.mirrors_process_recorded (binding : Binding σ) (message : InboundMessage)
    (transactions : HostTransactions σ) (cancel : CancellationToken σ) :
    Mirrors Prod.fst Eq
      (binding.recorded.process message transactions.recordedStrategy fun s => cancel s.1)
      (binding.process message transactions.strategy cancel) := by
  apply mirrors_process_of_attempt
  cases binding with
  | unbound => exact .done rfl
  | sendOnly => exact .done rfl
  | receiving pipeline =>
      exact (pipeline.reflects_recorded cancel).attempt (transactions.reflects_recorded cancel)
        message

end Reflections

end BusEndpoint
