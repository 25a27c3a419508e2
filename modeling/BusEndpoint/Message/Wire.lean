import BusEndpoint.Json.Decode
/-!
The message as the host's trigger delivers it and as the transport carries
it, with its JSON form. An absent body differs from an empty one.
-/

namespace BusEndpoint

abbrev Bytes := List UInt8

structure WireMessage where
  messageId : Option String := none
  body : Option Bytes := none
  applicationProperties : Dictionary Json := .empty
  deliveryCount : UInt32 := 1
  replyTo : Option String := none
  correlationId : Option String := none

namespace WireMessage

instance : Inhabited WireMessage := ⟨{}⟩

def setProperty (message : WireMessage) (name value : String) : WireMessage :=
  { message with
    applicationProperties := message.applicationProperties.insert name (.string value) }

/-- A member that is written only if there is a value. -/
def optionalMember (name : String) : Option Json → List (String × Json)
  | none => []
  | some value => [(name, value)]

def toJson (message : WireMessage) : Json :=
  .ofMembers <|
    optionalMember "messageId" (message.messageId.map .string) ++
    optionalMember "body"
      (message.body.map fun bytes => .array (bytes.map fun byte => .natural byte.toNat)) ++
    [("applicationProperties", .ofDictionary message.applicationProperties),
      ("deliveryCount", .natural message.deliveryCount.toNat)] ++
    optionalMember "replyTo" (message.replyTo.map .string) ++
    optionalMember "correlationId" (message.correlationId.map .string)

open Decode in
/-- The fields in declared order. None of them is required. -/
def fields : List (RecordField WireMessage) :=
  [field "messageId" (optional text) fun id m => { m with messageId := id },
    field "body" (optional (sequence word8)) fun body m => { m with body },
    field "applicationProperties" (dictionary any)
      fun properties m => { m with applicationProperties := properties },
    field "deliveryCount" word32 fun count m => { m with deliveryCount := count },
    field "replyTo" (optional text) fun address m => { m with replyTo := address },
    field "correlationId" (optional text) fun id m => { m with correlationId := id }]

/-- Read a message. Fields that are not given have their defaults. -/
def ofJson : Decoder WireMessage := Decode.record "WireMessage" fields {}

end WireMessage

end BusEndpoint
