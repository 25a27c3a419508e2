import BusEndpoint.Transaction.Basic
/-!
Transactions of the host. Every attempt gets a new native transaction, the
engine is enlisted in it, and an optional completion step runs before the
commit unless the call has been cancelled by then.
-/

namespace BusEndpoint

structure HostTransactions (σ : Type) where
  factory : StateM σ (NativeTransaction σ)
  completion : Option (Transaction σ → Task σ (Except BusError Unit))

namespace HostTransactions

variable {σ : Type} [Host σ]

def complete (transactions : HostTransactions σ) (transaction : Option (Transaction σ))
    (cancel : CancellationToken σ) : Task σ (Except BusError Unit) := do
  if ← Task.observe cancel then return .error .cancelled
  match transaction, transactions.completion with
  | some transaction, some step => step transaction
  | _, _ => return .ok ()

def strategy (transactions : HostTransactions σ) : TransactionStrategy σ where
  create := do
    let native ← transactions.factory
    let transaction ← Transaction.begin native
    return some transaction
  token
    | some transaction => TransportToken.enlisted transaction.native
    | none => TransportToken.empty
  complete := transactions.complete

def line (transactions : HostTransactions σ) : String :=
  Text.recordLine "HostTransactionStrategy"
    [("completion", Text.truth transactions.completion.isSome)]

end HostTransactions

end BusEndpoint
