import BusEndpoint.Json.Writer
import BusEndpoint.Text.Blank
/-!
Message headers. On the wire a message has properties of any JSON kind and
two native address fields; inside an endpoint all of these are headers, which
are texts. The translation keeps every property but the encoding marker of
the transport, and a native field that is not blank replaces the property of
its name.
-/

namespace BusEndpoint

abbrev Headers := Dictionary String

namespace Header

def messageId : String := "Bus.MessageId"
def replyToAddress : String := "Bus.ReplyToAddress"
def correlationId : String := "Bus.CorrelationId"
def enclosedMessageTypes : String := "Bus.EnclosedMessageTypes"
def contentType : String := "Bus.ContentType"
def originatingEndpoint : String := "Bus.OriginatingEndpoint"
def timeSent : String := "Bus.TimeSent"
/-- The number of delayed retries that a message has behind it. -/
def delayedRetries : String := "Bus.Retries"
def failedQueue : String := "Bus.FailedQ"
def exceptionMessage : String := "Bus.ExceptionInfo.Message"
/-- A marker of the transport, which is never a header. -/
def transportEncoding : String := "Bus.Transport.Encoding"

def jsonContentType : String := "application/json"
def octetStream : String := "application/octet-stream"

/-- A property as the text of a header. -/
def ofProperty : Json → String
  | .string text => text
  | .null => ""
  | value => value.compact

/-- Set a header from a native field, unless the field is absent or blank. -/
def setNative (name : String) (value : Option String) (headers : Headers) : Headers :=
  match value.bind Text.nonBlank with
  | some text => headers.insert name text
  | none => headers

/-- The headers of a message with these properties and native fields. -/
def translate (properties : Dictionary Json) (replyTo correlation : Option String) : Headers :=
  let kept := (properties.filter fun name _ => !decide (name = transportEncoding)).map ofProperty
  setNative correlationId correlation (setNative replyToAddress replyTo kept)

theorem get?_setNative (name query : String) (value : Option String) (headers : Headers) :
    (setNative name value headers).get? query =
      if name = query then (value.bind Text.nonBlank).or (headers.get? query)
      else headers.get? query := by
  unfold setNative
  cases value.bind Text.nonBlank with
  | none => by_cases h : name = query <;> simp [h]
  | some text => by_cases h : name = query <;> simp [Dictionary.get?_insert, h]

end Header

end BusEndpoint
