import BusEndpoint.Failure
import BusEndpoint.Host
import BusEndpoint.Text.Quoted
/-!
Transactions around the processing of a message. An open transaction is
either committed or discarded; whoever holds one releases it in exactly one of
these ways. A commit that is rejected discards the transaction.
-/

namespace BusEndpoint

/-- The transaction of an outside resource, as two calls to it. -/
structure NativeTransaction (σ : Type) where
  commit : StateM σ (Except Failure Unit)
  rollback : StateM σ Unit

/-- An open transaction. -/
structure Transaction (σ : Type) where
  id : String
  native : NativeTransaction σ

/-- What the engine is given so that it can take part in a transaction. -/
structure TransportToken (σ : Type) where
  id : String
  native : Option (NativeTransaction σ)

/-- How transactions are opened, shown to the engine, and completed before
they are committed. -/
structure TransactionStrategy (σ : Type) where
  create : StateM σ (Option (Transaction σ))
  token : Option (Transaction σ) → StateM σ (TransportToken σ)
  complete : Option (Transaction σ) → CancellationToken σ → Task σ (Except BusError Unit)

variable {σ : Type} [Host σ]

namespace Transaction

def begin (native : NativeTransaction σ) : StateM σ (Transaction σ) := do
  let id ← Host.freshIdentifier
  return ⟨id, native⟩

/-- Release a transaction without a commit. -/
def discard (transaction : Transaction σ) : StateM σ Unit := do
  Host.event .debug [("transaction_id", .text transaction.id)]
    "discarding uncommitted transaction"
  transaction.native.rollback

def commit (transaction : Transaction σ) : StateM σ (Except BusError Unit) := do
  match ← transaction.native.commit with
  | .ok () => return .ok ()
  | .error failure =>
    transaction.discard
    return .error (.transaction failure.message)

/-- The transaction in a diagnostic line. -/
def line (transaction : Transaction σ) : String :=
  Text.recordLine "TransactionHandle" [("id", transaction.id), ("committed", Text.truth false)]

/-- Release the transaction of an attempt, if it has one. -/
def discardAny : Option (Transaction σ) → StateM σ Unit
  | some transaction => transaction.discard
  | none => return ()

def commitAny : Option (Transaction σ) → StateM σ (Except BusError Unit)
  | some transaction => transaction.commit
  | none => return .ok ()

end Transaction

namespace TransportToken

/-- A token without a transaction behind it. -/
def empty : StateM σ (TransportToken σ) := do
  let id ← Host.freshIdentifier
  return ⟨id, none⟩

def enlisted (native : NativeTransaction σ) : StateM σ (TransportToken σ) := do
  let id ← Host.freshIdentifier
  return ⟨id, some native⟩

def line (token : TransportToken σ) : String :=
  Text.recordLine "TransportTransaction"
    [("id", token.id), ("native", Text.truth token.native.isSome)]

end TransportToken

namespace TransactionStrategy

/-- Work without transactions. -/
def none : TransactionStrategy σ where
  create := return .none
  token _ := TransportToken.empty
  complete _ _ := return .ok ()

/-- Complete a transaction and commit it. A transaction whose completion fails
is discarded. -/
def settle (strategy : TransactionStrategy σ) (transaction : Option (Transaction σ))
    (cancel : CancellationToken σ) : Task σ (Except BusError Unit) := do
  match ← strategy.complete transaction cancel with
  | .error error =>
    Transaction.discardAny transaction
    return .error error
  | .ok () => Transaction.commitAny transaction

end TransactionStrategy

end BusEndpoint
