import BusEndpoint.Pipeline
/-!
One attempt to process a message. The message pipeline runs under a
transaction of its own, which is completed and committed if it succeeds. If it
fails, that transaction is discarded and the error pipeline runs under a new
one, which is committed only if the failure counts as handled. A cancelled
attempt discards its transaction and never reaches the error pipeline.
-/

namespace BusEndpoint

/-- What messages are handed to. A binding is made once. -/
inductive Binding (σ : Type) where
  | unbound
  | sendOnly
  | receiving (pipeline : Pipeline σ)

inductive AttemptOutcome where
  | success
  | handledFailure
  | retryRequired (cause : Failure)

def AttemptOutcome.name : AttemptOutcome → String
  | success => "Success"
  | handledFailure => "HandledFailure"
  | retryRequired _ => "RetryRequired"

/-- The host need not deliver the message again. -/
def AttemptOutcome.isConsumed : AttemptOutcome → Bool
  | success | handledFailure => true
  | retryRequired _ => false

variable {σ : Type} [Host σ]

namespace Pipeline

/-- The second half of an attempt, after the message pipeline failed. -/
def recover (pipeline : Pipeline σ) (message : InboundMessage) (failure : Failure)
    (strategy : TransactionStrategy σ) (cancel : CancellationToken σ) :
    Task σ (Except BusError AttemptOutcome) := do
  Task.event .warn
    [("message_id", .text message.id), ("delivery_count", .count message.deliveryCount.toNat),
      ("error", .text failure.message)]
    "message pipeline failed, invoking error pipeline"
  let transaction ← strategy.create
  let token ← strategy.token transaction
  match ← pipeline.onError (message.errorContext failure token) cancel with
  | .error error =>
    Task.event .error [("message_id", .text message.id), ("error", .text error.message)]
      "error pipeline failed"
    Transaction.discardAny transaction
    return .error (.errorPipeline error)
  | .ok .handled =>
    match ← strategy.settle transaction cancel with
    | .error error => return .error error
    | .ok () =>
      Task.event .debug [("message_id", .text message.id)] "failure handled by error pipeline"
      return .ok .handledFailure
  | .ok .retryRequired =>
    Task.event .debug [("message_id", .text message.id)]
      "retry required, returning failure to host"
    Transaction.discardAny transaction
    return .ok (.retryRequired failure)

/-- What follows the message pipeline; `none` is one that was cut short. -/
def conclude (pipeline : Pipeline σ) (message : InboundMessage)
    (strategy : TransactionStrategy σ) (cancel : CancellationToken σ)
    (transaction : Option (Transaction σ)) :
    Option (Except Failure Unit) → Task σ (Except BusError AttemptOutcome)
  | none => do
    Transaction.discardAny transaction
    return .error .cancelled
  | some (.ok ()) => do
    match ← strategy.settle transaction cancel with
    | .error error => return .error error
    | .ok () =>
      Task.event .debug [("message_id", .text message.id)] "message processed"
      return .ok .success
  | some (.error failure) => do
    Transaction.discardAny transaction
    if failure.isCancellation then return .error .cancelled
    pipeline.recover message failure strategy cancel

/-- One attempt on a pipeline. -/
def attempt (pipeline : Pipeline σ) (message : InboundMessage)
    (strategy : TransactionStrategy σ) (cancel : CancellationToken σ) :
    Task σ (Except BusError AttemptOutcome) := do
  if ← Task.observe cancel then return .error .cancelled
  Task.event .debug
    [("message_id", .text message.id), ("delivery_count", .count message.deliveryCount.toNat)]
    "processing message"
  let transaction ← strategy.create
  let token ← strategy.token transaction
  let result ← (pipeline.onMessage (message.context token) cancel).cutBy cancel
  pipeline.conclude message strategy cancel transaction result

end Pipeline

namespace Binding

def bind (binding : Binding σ) (target : Binding σ) : Except BusError Unit × Binding σ :=
  match binding with
  | unbound => (.ok (), target)
  | bound => (.error (.configuration "message processor is already bound"), bound)

def isReady : Binding σ → Bool
  | unbound => false
  | _ => true

def isSendOnly : Binding σ → Bool
  | sendOnly => true
  | _ => false

/-- One attempt on the pipeline that is bound. -/
def attempt (binding : Binding σ) (message : InboundMessage) (strategy : TransactionStrategy σ)
    (cancel : CancellationToken σ) : Task σ (Except BusError AttemptOutcome) :=
  match binding with
  | unbound => return .error .notInitialized
  | sendOnly => return .error .sendOnly
  | receiving pipeline => pipeline.attempt message strategy cancel

/-- Process a message. It is acknowledged exactly by a success. -/
def process (binding : Binding σ) (message : InboundMessage) (strategy : TransactionStrategy σ)
    (cancel : CancellationToken σ) : Task σ (Except BusError Unit) := do
  match ← binding.attempt message strategy cancel with
  | .error error => return .error error
  | .ok .success => return .ok ()
  | .ok .handledFailure => return .ok ()
  | .ok (.retryRequired cause) => return .error (.pipeline cause)

def line (binding : Binding σ) : String :=
  let state := match binding with
    | unbound => "uninitialized"
    | sendOnly => "send_only"
    | receiving _ => "ready"
  Text.recordLine "PipelineInvoker" [("state", Text.quoted state)]

end Binding

end BusEndpoint
