import BusEndpoint.Header
import BusEndpoint.Message.Wire
/-!
The message as an endpoint works on it: an identifier that is never empty, a
body, headers, and the number of the delivery, from 1.
-/

namespace BusEndpoint

structure InboundMessage where
  id : String
  body : Bytes
  headers : Headers
  deliveryCount : UInt32

/-- The identifier on the wire, or the given fresh one if there is none. -/
def resolveMessageId (fresh : String) (wireId : Option String) : String :=
  match wireId with
  | some id => if id = "" then fresh else id
  | none => fresh

namespace InboundMessage

/-- Translate a message from the wire. The fresh identifier is for a message
without one of its own. -/
def ofWire (fresh : String) (wire : WireMessage) : InboundMessage where
  id := resolveMessageId fresh wire.messageId
  body := wire.body.getD []
  headers := Header.translate wire.applicationProperties wire.replyTo wire.correlationId
  deliveryCount := max wire.deliveryCount 1

def header? (message : InboundMessage) (name : String) : Option String := message.headers.get? name

end InboundMessage

end BusEndpoint
