/-!
What can go wrong, as causes. `BusError` is the closed list of failures of
the library's own operations; `Failure` is any failure, those of handlers and
of the host included. Both may carry an earlier failure as their source.
-/

namespace BusEndpoint

mutual

/-- A failure of one of the library's operations. -/
inductive BusError where
  /-- The message pipeline failed and the error pipeline asked for a retry. -/
  | pipeline (cause : Failure)
  /-- The error pipeline itself failed. -/
  | errorPipeline (cause : Failure)
  /-- The endpoint does not receive messages. -/
  | sendOnly
  /-- The host cancelled the operation. -/
  | cancelled
  /-- Starting the engine failed. -/
  | startup (cause : Failure)
  /-- A message came before the endpoint was bound to a pipeline. -/
  | notInitialized
  | transaction (reason : String)
  | configuration (reason : String)
  | serialization (reason : String)
  | transport (reason : String)
  | noHandler (messageType : String)
  | routing (reason : String)

/-- Any failure. -/
inductive Failure where
  | bus (error : BusError)
  /-- A text or value that is not of the required form. -/
  | malformed (message : String)
  /-- A failure of the application. -/
  | application (message : String)
  /-- A failure of the application with an earlier one behind it. -/
  | applicationFrom (message : String) (source : Failure)
  /-- A failure of which only the wording is known. -/
  | plain (message : String)

end

instance : Inhabited Failure := ⟨.plain ""⟩

mutual

/-- The wording of a failure of the library. A carried failure is quoted in
full. -/
def BusError.message : BusError → String
  | .pipeline cause => "message pipeline failed: " ++ cause.message
  | .errorPipeline cause => "error pipeline failed: " ++ cause.message
  | .sendOnly =>
    "endpoint cannot process messages in send-only mode; remove the `send_only` setting from " ++
      "the endpoint configuration to receive messages"
  | .cancelled => "operation cancelled"
  | .startup cause => "endpoint start failed: " ++ cause.message
  | .notInitialized => "message processor is not initialized"
  | .transaction reason => "transaction error: " ++ reason
  | .configuration reason => "configuration error: " ++ reason
  | .serialization reason => "serialization error: " ++ reason
  | .transport reason => "transport error: " ++ reason
  | .noHandler messageType => "no handler registered for message type: " ++ messageType
  | .routing reason => "routing error: " ++ reason

def Failure.message : Failure → String
  | .bus error => error.message
  | .malformed message => message
  | .application message => message
  | .applicationFrom message _ => message
  | .plain message => message

end

mutual

/-- The failures behind a failure of the library, the nearest first. -/
def BusError.sources : BusError → List Failure
  | .pipeline cause | .errorPipeline cause | .startup cause => cause :: cause.sources
  | .sendOnly | .cancelled | .notInitialized | .transaction _ | .configuration _
  | .serialization _ | .transport _ | .noHandler _ | .routing _ => []

/-- The failures behind this one, the nearest first. -/
def Failure.sources : Failure → List Failure
  | .bus error => error.sources
  | .applicationFrom _ source => source :: source.sources
  | .malformed _ | .application _ | .plain _ => []

end

namespace BusError

/-- The kind of failure as a word. -/
def name : BusError → String
  | pipeline _ => "Pipeline"
  | errorPipeline _ => "ErrorPipeline"
  | sendOnly => "SendOnly"
  | cancelled => "Cancelled"
  | startup _ => "Startup"
  | notInitialized => "NotInitialized"
  | transaction _ => "Transaction"
  | configuration _ => "Configuration"
  | serialization _ => "Serialization"
  | transport _ => "Transport"
  | noHandler _ => "NoHandler"
  | routing _ => "Routing"

/-- The failure that this one carries. -/
def cause? : BusError → Option Failure
  | pipeline cause | errorPipeline cause | startup cause => some cause
  | _ => none

def isCancelled : BusError → Bool
  | cancelled => true
  | _ => false

/-- Whether another attempt may end differently. Contradictions in the
configuration stay, and a cancelled operation is not to be repeated. -/
def isRetryable : BusError → Bool
  | sendOnly | configuration _ | cancelled => false
  | _ => true

end BusError

namespace Failure

/-- The failure behind this one. -/
def source? : Failure → Option Failure
  | bus error => error.cause?
  | applicationFrom _ source => some source
  | _ => none

theorem sources_eq (failure : Failure) :
    failure.sources = match failure.source? with
      | none => []
      | some source => source :: source.sources := by
  cases failure with
  | bus error => cases error <;> simp [sources, BusError.sources, source?, BusError.cause?]
  | _ => simp [sources, source?]

/-- This very failure is the cancellation of a library operation. -/
def isCancelled : Failure → Bool
  | bus error => error.isCancelled
  | _ => false

/-- A cancellation, or a failure with a cancellation anywhere behind it. -/
def isCancellation (failure : Failure) : Bool :=
  failure.isCancelled || failure.sources.any isCancelled

end Failure

end BusEndpoint
