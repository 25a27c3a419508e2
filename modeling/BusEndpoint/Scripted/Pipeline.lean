import BusEndpoint.InMemory.HostState
/-!
Pipelines that follow a script. The n-th call of an entry point does what is
written for it: it may suspend itself, cancel its own call, and end in any
way. Where nothing is written, messages succeed and failures are handled.
-/

namespace BusEndpoint.Scripted

open InMemory (HostState)

inductive PipelineAction where
  | suspend
  /-- Cancel the call in which the action takes place, and go on. -/
  | cancel
  | fail (failure : Failure)
  /-- Ask the host to deliver the message again. -/
  | retry

/-- Act up to the first action that ends the call. -/
def PipelineAction.follow : List PipelineAction → Task HostState (Except Failure ErrorVerdict)
  | [] => return .ok .handled
  | .suspend :: rest => do
    Task.yieldOnce
    follow rest
  | .cancel :: rest => do
    HostState.cancelRunning
    follow rest
  | .fail failure :: _ => return .error failure
  | .retry :: _ => return .ok .retryRequired

/-- What is written for the call with a number from 1. -/
def callEntry {α : Type} (script : List (List α)) (number : Nat) : List α :=
  (script[number - 1]?).getD []

structure PipelineScript where
  onMessage : List (List PipelineAction) := []
  onError : List (List PipelineAction) := []

def PipelineScript.toPipeline (script : PipelineScript) : Pipeline HostState where
  onMessage context _ := do
    HostState.record (.message (.ofMessage context))
    let number ← HostState.count "message pipeline"
    let verdict ← PipelineAction.follow (callEntry script.onMessage number)
    return verdict.map fun _ => ()
  onError context _ := do
    HostState.record
      (.failedMessage (.ofFailedMessage context) context.deliveryCount context.error)
    let number ← HostState.count "error pipeline"
    PipelineAction.follow (callEntry script.onError number)

end BusEndpoint.Scripted
