import BusEndpoint.Failure
import BusEndpoint.Message.Wire
import BusEndpoint.Task
/-!
How a host delivers a message that is not acknowledged: again, with its
delivery count raised by one.
-/

namespace BusEndpoint

def WireMessage.redelivered (message : WireMessage) : WireMessage :=
  { message with deliveryCount := message.deliveryCount + 1 }

/-- Deliver a message until it is acknowledged, at most `limit` times. The
answers are those of the deliveries, each with what was seen of it. -/
def WireMessage.deliver {σ α : Type} (message : WireMessage)
    (process : WireMessage → Task σ (Except BusError Unit × α)) :
    Nat → Task σ (List (Except BusError Unit × α))
  | 0 => return []
  | limit + 1 => do
    let answer ← process message
    match answer.1 with
    | .ok () => return [answer]
    | .error _ =>
      let later ← message.redelivered.deliver process limit
      return answer :: later

end BusEndpoint
