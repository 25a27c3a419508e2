import BusEndpoint.Endpoint
import BusEndpoint.Sqs.Event
/-!
The function that SQS invokes with a batch. Records are processed one after
the other; those that fail, and all from the first one that finds the call
cancelled, are reported so that only they are delivered again.
-/

namespace BusEndpoint

structure SqsTrigger (σ κ ς ι : Type) where
  endpoint : FunctionEndpoint σ κ ς ι
  functionName : String
  logger : Option κ := none

namespace SqsTrigger

variable {σ κ ς ι : Type}

/-- The variable that holds the name of the function. -/
def functionNameVariable : String := "AWS_LAMBDA_FUNCTION_NAME"

/-- A trigger for an endpoint. Without a name for the function it bears the
name of the endpoint. -/
def ofEndpoint (endpoint : FunctionEndpoint σ κ ς ι) (environment : SettingsSource) :
    SqsTrigger σ κ ς ι where
  endpoint := endpoint
  functionName := (environment functionNameVariable).getD endpoint.configuration.endpointName

variable [Host σ] [LogSink κ]

/-- Process one record; the answer tells whether it is acknowledged. -/
def handleRecord (trigger : SqsTrigger σ κ ς ι) (context : FunctionContext κ)
    (cancel : CancellationToken σ) (record : SqsRecord) : Task σ Bool := do
  if ← Task.observe cancel then return false
  let id := ("message_id", FieldValue.text record.messageId)
  match ← trigger.endpoint.process record.toWire context cancel with
  | .ok () =>
    Task.event .debug [id] "record processed"
    return true
  | .error error =>
    Task.event .error [id, ("error", .text error.message)] "record processing failed"
    return false

/-- Process the records in order, and collect the identifiers of those that
are not acknowledged. -/
def handleRecords (trigger : SqsTrigger σ κ ς ι) (context : FunctionContext κ)
    (cancel : CancellationToken σ) : List SqsRecord → Task σ (List String)
  | [] => return []
  | record :: rest => do
    let acknowledged ← trigger.handleRecord context cancel record
    let failures ← trigger.handleRecords context cancel rest
    return if acknowledged then failures else record.messageId :: failures

def handle (trigger : SqsTrigger σ κ ς ι) (event : SqsEvent) (invocationId : String)
    (cancel : CancellationToken σ) : Task σ SqsBatchResponse := do
  let context : FunctionContext κ :=
    { invocationId, functionName := trigger.functionName, logger := trigger.logger }
  let failures ← trigger.handleRecords context cancel event.records
  return { failures }

end SqsTrigger

end BusEndpoint
