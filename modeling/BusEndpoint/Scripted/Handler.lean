import BusEndpoint.Endpoint
import BusEndpoint.InMemory.HostState
/-!
Message handlers that follow a script. The n-th call does what is written for
it, and the last entry serves for all later calls. An action that fails ends
the call with its failure.
-/

namespace BusEndpoint.Scripted

open InMemory (HostState HandlerContext Handler)

inductive HandlerAction where
  | suspend
  | cancel
  | fail (failure : Failure)
  | send (payload : Payload) (options : SendOptions)
  | publish (payload : Payload) (options : PublishOptions)
  /-- Send to the address at which the sender of the handled message wants an
  answer. -/
  | reply (payload : Payload) (options : SendOptions)
  | subscribe (event : String)
  | unsubscribe (event : String)

namespace HandlerAction

/-- Do outbound work with a payload, which nothing cancels. -/
def outbound (payload : Payload)
    (work : OutgoingMessage → CancellationToken HostState → Task HostState (Except BusError Unit)) :
    Task HostState (Except Failure Unit) := do
  let result ← FunctionEndpoint.withPayload payload fun message => work message fun _ => false
  return result.mapError .bus

def perform (context : HandlerContext HostState) :
    HandlerAction → Task HostState (Except Failure Unit)
  | suspend => do
    Task.yieldOnce
    return .ok ()
  | cancel => do
    HostState.cancelRunning
    return .ok ()
  | fail failure => return .error failure
  | send payload options =>
    outbound payload fun message => context.session.send message options
  | publish payload options =>
    outbound payload fun message => context.session.publish message options
  | reply payload options =>
    match context.headers.get? Header.replyToAddress with
    | none => return .error (.plain "missing reply-to")
    | some address =>
      outbound payload fun message =>
        context.session.send message { options with destination := some address }
  | subscribe event => do
    let result ← context.session.subscribe event {} fun _ => false
    return result.mapError .bus
  | unsubscribe event => do
    let result ← context.session.unsubscribe event {} fun _ => false
    return result.mapError .bus

/-- Act up to the first action that fails. -/
def follow (context : HandlerContext HostState) :
    List HandlerAction → Task HostState (Except Failure Unit)
  | [] => return .ok ()
  | action :: rest => do
    match ← action.perform context with
    | .error failure => return .error failure
    | .ok () => follow context rest

end HandlerAction

/-- The handler of a message type at an endpoint; its calls are counted under
both names. -/
def handler (endpoint messageType : String) (decode : Decoder Json)
    (script : List (List HandlerAction)) : Handler HostState :=
  .ofType decode fun message context => do
    HostState.record (.handling messageType message context.messageId context.headers)
    let number ← HostState.count ("handler " ++ endpoint ++ " " ++ messageType)
    HandlerAction.follow context ((script[number - 1]?).getD (script.getLast?.getD []))

end BusEndpoint.Scripted
