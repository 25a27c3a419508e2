import BusEndpoint.InMemory.HostState
import BusEndpoint.Transaction.HostManaged
import BusEndpoint.Transaction.Recording
/-!
Transaction strategies to try out: none, one that keeps a record, and one on
native transactions whose commits and completions fail as a script says. The
native transactions are numbered from 1.
-/

namespace BusEndpoint.Scripted

open InMemory (HostState)

/-- The failures of commits and completions by number; a missing one
succeeds. -/
structure TransactionScript where
  commits : List (Option Failure) := []
  /-- The results of the completion step, if there is such a step. -/
  completions : Option (List (Option BusError)) := none

namespace TransactionScript

/-- The result of the call with a number from 1. -/
def resultAt {ε : Type} (failures : List (Option ε)) (number : Nat) : Except ε Unit :=
  match failures[number - 1]? with
  | some (some failure) => .error failure
  | _ => .ok ()

/-- The native transaction with a number. -/
def native (script : TransactionScript) (number : Nat) : NativeTransaction HostState where
  commit := do
    HostState.record (.transactionCommitting number)
    return resultAt script.commits number
  rollback := HostState.record (.transactionRolledBack number)

/-- The transactions of a script, which are counted under a name. -/
def toHostTransactions (script : TransactionScript) (name : String) :
    HostTransactions HostState where
  factory := do
    let number ← HostState.count (name ++ " begun")
    HostState.record (.transactionBegun number)
    return script.native number
  completion := script.completions.map fun failures transaction => do
    let call ← HostState.count (name ++ " completing")
    HostState.record (.transactionCompleting call transaction.id)
    return resultAt failures call

end TransactionScript

inductive StrategyScript where
  | none
  | recording (rejectsCommits : Bool)
  | host (script : TransactionScript)

namespace StrategyScript

/-- The strategy, which keeps its state under a name. -/
def strategy (script : StrategyScript) (name : String) : TransactionStrategy HostState :=
  match script with
  | none => .none
  | recording rejectsCommits =>
    (RecordingTransactions.mk (HostState.transactionRecord name) rejectsCommits).strategy
  | host script => (script.toHostTransactions name).strategy

/-- What a recording strategy has kept. -/
def record? (script : StrategyScript) (name : String) (h : HostState) :
    Option TransactionRecord :=
  match script with
  | recording _ => some ((HostState.transactionRecord name).get h)
  | _ => .none

/-- The strategy in a diagnostic line; a recording one has none. -/
def line : StrategyScript → String
  | none => "NoTransactionStrategy"
  | recording _ => ""
  | host script => (script.toHostTransactions "").line

end StrategyScript

end BusEndpoint.Scripted
