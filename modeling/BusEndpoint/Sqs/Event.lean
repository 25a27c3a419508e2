import BusEndpoint.Message.Wire
import BusEndpoint.Text.Utf8
/-!
Batches of queue records as SQS delivers them to a function, with their JSON
forms, and the translation of a record into a message. Only attributes with a
string value become properties.
-/

namespace BusEndpoint

structure SqsAttribute where
  stringValue : Option String := none
  dataType : String := ""
deriving DecidableEq

structure SqsRecord where
  messageId : String := ""
  body : String := ""
  attributes : Dictionary String := .empty
  messageAttributes : Dictionary SqsAttribute := .empty
  receiptHandle : String := ""
deriving DecidableEq

structure SqsEvent where
  records : List SqsRecord := []
deriving DecidableEq

/-- The identifiers of the records that are to be delivered again. -/
structure SqsBatchResponse where
  failures : List String := []
deriving DecidableEq

namespace SqsAttribute

def toJson (given : SqsAttribute) : Json :=
  .ofMembers <|
    WireMessage.optionalMember "stringValue" (given.stringValue.map .string) ++
    [("dataType", .string given.dataType)]

open Decode in
def fields : List (RecordField SqsAttribute) :=
  [field "stringValue" (optional text) fun value a => { a with stringValue := value },
    field "dataType" text fun kind a => { a with dataType := kind }]

def ofJson : Decoder SqsAttribute := Decode.record "SqsMessageAttribute" fields {}

end SqsAttribute

namespace SqsRecord

def toJson (record : SqsRecord) : Json :=
  .ofMembers
    [("messageId", .string record.messageId), ("body", .string record.body),
      ("attributes", .ofDictionary (record.attributes.map .string)),
      ("messageAttributes", .ofDictionary (record.messageAttributes.map SqsAttribute.toJson)),
      ("receiptHandle", .string record.receiptHandle)]

open Decode in
def fields : List (RecordField SqsRecord) :=
  [field "messageId" text fun id r => { r with messageId := id },
    field "body" text fun body r => { r with body },
    field "attributes" (dictionary text) fun attributes r => { r with attributes },
    field "messageAttributes" (dictionary SqsAttribute.ofJson)
      fun attributes r => { r with messageAttributes := attributes },
    field "receiptHandle" text fun handle r => { r with receiptHandle := handle }]

def ofJson : Decoder SqsRecord := Decode.record "SqsMessage" fields {}

/-- The attribute that counts the deliveries of a record. -/
def receiveCountAttribute : String := "ApproximateReceiveCount"

/-- A count that is no counter counts as one delivery. -/
def deliveryCount (record : SqsRecord) : UInt32 :=
  ((record.attributes.get? receiveCountAttribute).bind Text.counter?).getD 1

def properties (record : SqsRecord) : Dictionary Json :=
  .ofList (record.messageAttributes.entries.filterMap fun e =>
    e.2.stringValue.map fun value => (e.1, .string value))

/-- The record as a message. -/
def toWire (record : SqsRecord) : WireMessage where
  messageId := if record.messageId = "" then none else some record.messageId
  body := some (Text.utf8 record.body)
  applicationProperties := record.properties
  deliveryCount := record.deliveryCount

end SqsRecord

namespace SqsEvent

def toJson (event : SqsEvent) : Json :=
  .ofMembers [("Records", .array (event.records.map SqsRecord.toJson))]

open Decode in
def fields : List (RecordField SqsEvent) :=
  [field "Records" (sequence SqsRecord.ofJson) fun records _ => { records }]

def ofJson : Decoder SqsEvent := Decode.record "SqsEvent" fields {}

end SqsEvent

def SqsBatchResponse.toJson (response : SqsBatchResponse) : Json :=
  let item (id : String) : Json := .ofMembers [("itemIdentifier", .string id)]
  .ofMembers [("batchItemFailures", .array (response.failures.map item))]

end BusEndpoint
