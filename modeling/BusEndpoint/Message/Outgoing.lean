import BusEndpoint.Header
import BusEndpoint.Message.Wire
import BusEndpoint.Text.Utf8
/-!
The message that an endpoint sends, before it goes onto the wire. There the
two address headers become native fields, and the transport's encoding marker
is added.
-/

namespace BusEndpoint

structure OutgoingMessage where
  messageId : String
  messageType : String
  body : Bytes
  headers : Headers
deriving DecidableEq

namespace OutgoingMessage

/-- A message with a JSON body. -/
def ofJson (id sentAt messageType : String) (body : Json) : OutgoingMessage where
  messageId := id
  messageType := messageType
  body := Text.utf8 body.compact
  headers := .ofList
    [(Header.messageId, id), (Header.enclosedMessageTypes, messageType),
      (Header.contentType, Header.jsonContentType), (Header.timeSent, sentAt)]

/-- Headers that travel in native fields and not among the properties. -/
def isNative (name : String) : Bool :=
  decide (name = Header.replyToAddress) || decide (name = Header.correlationId)

def toWire (message : OutgoingMessage) : WireMessage where
  messageId := some message.messageId
  body := some message.body
  applicationProperties :=
    ((message.headers.filter fun name _ => !isNative name).map Json.string).insert
      Header.transportEncoding (.string Header.octetStream)
  deliveryCount := 1
  replyTo := message.headers.get? Header.replyToAddress
  correlationId := message.headers.get? Header.correlationId

end OutgoingMessage

end BusEndpoint
