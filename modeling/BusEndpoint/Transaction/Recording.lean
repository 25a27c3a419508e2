import BusEndpoint.Transaction.Basic
/-!
Transactions that only leave a record of what happened to them. They can be
made to reject every commit.
-/

namespace BusEndpoint

inductive TransactionEvent where
  | created (id : String)
  | completed (id : String)
  | committed (id : String)
  | rolledBack (id : String)
deriving DecidableEq

namespace TransactionEvent

def name : TransactionEvent → String
  | created _ => "created"
  | completed _ => "completed"
  | committed _ => "committed"
  | rolledBack _ => "rolled_back"

/-- The transaction to which it happened. -/
def id : TransactionEvent → String
  | created id | completed id | committed id | rolledBack id => id

end TransactionEvent

/-- What happened, in order. -/
abbrev TransactionRecord := List TransactionEvent

namespace TransactionRecord

def created (record : TransactionRecord) : List String :=
  record.filterMap fun | .created id => some id | _ => none

def completed (record : TransactionRecord) : List String :=
  record.filterMap fun | .completed id => some id | _ => none

def committed (record : TransactionRecord) : List String :=
  record.filterMap fun | .committed id => some id | _ => none

def rolledBack (record : TransactionRecord) : List String :=
  record.filterMap fun | .rolledBack id => some id | _ => none

end TransactionRecord

/-- A strategy that keeps its record in a slot. -/
structure RecordingTransactions (σ : Type) where
  record : Slot σ TransactionRecord
  rejectsCommits : Bool

namespace RecordingTransactions

variable {σ : Type} [Host σ]

def add (transactions : RecordingTransactions σ) (event : TransactionEvent) : StateM σ Unit :=
  modify (transactions.record.modify (· ++ [event]))

/-- A commit is recorded even if it is then rejected. -/
def native (transactions : RecordingTransactions σ) (id : String) : NativeTransaction σ where
  commit := do
    transactions.add (.committed id)
    if transactions.rejectsCommits then return .error (.plain "commit rejected")
    return .ok ()
  rollback := transactions.add (.rolledBack id)

def complete (transactions : RecordingTransactions σ) (transaction : Option (Transaction σ)) :
    Task σ (Except BusError Unit) := do
  match transaction with
  | some transaction =>
    transactions.add (.completed transaction.id)
    return .ok ()
  | none => return .ok ()

def strategy (transactions : RecordingTransactions σ) : TransactionStrategy σ where
  create := do
    let id ← Host.freshIdentifier
    transactions.add (.created id)
    return some ⟨id, transactions.native id⟩
  token _ := TransportToken.empty
  complete transaction _ := transactions.complete transaction

end RecordingTransactions

end BusEndpoint
