import BusEndpoint.Duration
import BusEndpoint.Header
import BusEndpoint.Json.Decode
/-!
The retry policy of an endpoint. A failed message is first delivered again at
once, then after growing delays, and at last put into the error queue; which
of these applies depends on the delivery count and on the number of delayed
retries behind the message, and on nothing else.
-/

namespace BusEndpoint

structure RecoverabilitySettings where
  immediateRetries : UInt32 := 5
  delayedRetries : UInt32 := 3
  /-- The delay of the first delayed retry, and what each further one adds. -/
  delayedRetryBase : Duration := .ofSeconds 10
  errorQueue : String := "error"
  sendFailedMessagesToErrorQueue : Bool := true
deriving DecidableEq

inductive RecoverabilityAction where
  | immediateRetry
  | delayedRetry (attempt : UInt32) (delay : Duration)
  | moveToErrorQueue (queue : String)
  | fail
deriving DecidableEq

namespace RecoverabilitySettings

/-- The base is written in whole seconds. -/
def toJson (settings : RecoverabilitySettings) : Json :=
  .ofMembers
    [("immediate_retries", .natural settings.immediateRetries.toNat),
      ("delayed_retries", .natural settings.delayedRetries.toNat),
      ("delayed_retry_base", .natural settings.delayedRetryBase.seconds),
      ("error_queue", .string settings.errorQueue),
      ("send_failed_messages_to_error_queue", .boolean settings.sendFailedMessagesToErrorQueue)]

open Decode in
def fields : List (RecordField RecoverabilitySettings) :=
  [field "immediate_retries" word32 fun n s => { s with immediateRetries := n },
    field "delayed_retries" word32 fun n s => { s with delayedRetries := n },
    field "delayed_retry_base" word64 fun n s => { s with delayedRetryBase := .ofSeconds n },
    field "error_queue" text fun queue s => { s with errorQueue := queue },
    field "send_failed_messages_to_error_queue" boolean
      fun b s => { s with sendFailedMessagesToErrorQueue := b }]

/-- Read settings. Fields that are not given have their defaults. -/
def ofJson : Decoder RecoverabilitySettings := Decode.record "RecoverabilitySettings" fields {}

/-- The number of delayed retries behind a message. A header that is no
counter counts as none. -/
def retriesBehind (headers : Headers) : UInt32 :=
  ((headers.get? Header.delayedRetries).bind Text.counter?).getD 0

/-- What to do with a message whose delivery has failed. -/
def action (settings : RecoverabilitySettings) (deliveryCount : UInt32) (headers : Headers) :
    RecoverabilityAction :=
  if deliveryCount ≤ settings.immediateRetries then .immediateRetry
  else if retriesBehind headers < settings.delayedRetries then
    let attempt := retriesBehind headers + 1
    .delayedRetry attempt (settings.delayedRetryBase.times attempt.toNat)
  else if settings.sendFailedMessagesToErrorQueue then .moveToErrorQueue settings.errorQueue
  else .fail

end RecoverabilitySettings

end BusEndpoint
