import BusEndpoint.InMemory.HostState
import BusEndpoint.Proofs.Delivery.Plan
import BusEndpoint.Proofs.Messages.Headers
import BusEndpoint.Proofs.Recovery.Decisions

/-! Copies of copies. A failed message is put back as a copy that has its headers
as plain properties, without the native fields it came with; when that copy fails,
a copy of the copy is made of what an endpoint has read of it. A header that such a
generation dropped, blanked or wrote in another way would be lost for all later
ones. -/

namespace BusEndpoint

/-- A message whose headers have never had the marker of the transport. -/
def InboundMessage.Unmarked (message : InboundMessage) : Prop :=
  message.headers.get? Header.transportEncoding = none

theorem InboundMessage.unmarked_ofWire (fresh : String) (wire : WireMessage) :
    (InboundMessage.ofWire fresh wire).Unmarked := by
  rw [Unmarked, ofWire, Header.get?_translate, if_pos rfl]

theorem InboundMessage.id_ofWire_ne_empty {fresh : String} (hFresh : fresh ≠ "")
    (wire : WireMessage) : (InboundMessage.ofWire fresh wire).id ≠ "" := by
  simp only [ofWire, resolveMessageId]
  split
  · split
    · exact hFresh
    · assumption
  · exact hFresh

/-- A native field that is not blank is a header of the message. -/
theorem InboundMessage.replyTo_ofWire {fresh address : String} {wire : WireMessage}
    (hNative : wire.replyTo.bind Text.nonBlank = some address) :
    (InboundMessage.ofWire fresh wire).headers.get? Header.replyToAddress = some address := by
  rw [ofWire, Header.get?_translate, if_neg Header.replyToAddress_ne_transportEncoding, if_pos rfl,
    hNative, Option.some_or]

theorem InboundMessage.correlation_ofWire {fresh id : String} {wire : WireMessage}
    (hNative : wire.correlationId.bind Text.nonBlank = some id) :
    (InboundMessage.ofWire fresh wire).headers.get? Header.correlationId = some id := by
  rw [ofWire, Header.get?_translate, if_neg Header.correlationId_ne_transportEncoding,
    if_neg Header.replyToAddress_ne_correlationId.symm, if_pos rfl, hNative, Option.some_or]

namespace InMemory

variable {σ κ : Type}

/-- A receiver has of a copy what the endpoint had of the message, and the headers
that the copy was made with. How often the copy was delivered is its own affair. -/
theorem Receiver.ofWire_failedCopy (fresh : String) {message : InboundMessage} (failure : Failure)
    (token : TransportToken σ) {extra : List (String × String)} (count : UInt32)
    (hId : message.id ≠ "") (unmarked : message.Unmarked)
    (hExtra : Header.transportEncoding ∉ extra.map Prod.fst) :
    InboundMessage.ofWire fresh
        { failedCopy (message.errorContext failure token) extra with deliveryCount := count } =
      ⟨message.id, message.body, message.headers.insertAll extra, max count 1⟩ := by
  have hHeaders : Header.translate ((message.headers.insertAll extra).map Json.string) none none =
      message.headers.insertAll extra := by
    have hMarker : (message.headers.insertAll extra).get? Header.transportEncoding = none := by
      rw [Dictionary.get?_insertAll_of_not_mem _ hExtra, unmarked]
    exact Header.translate_texts hMarker none none
  have hName : resolveMessageId fresh (some message.id) = message.id := if_neg hId
  change InboundMessage.mk (resolveMessageId fresh (some message.id)) message.body
    (Header.translate ((message.headers.insertAll extra).map Json.string) none none) _ = _
  rw [hName, hHeaders]

/-- A message that an endpoint could not process, and the host when it is treated. -/
structure Failing (σ : Type) where
  message : InboundMessage
  failure : Failure
  token : TransportToken σ
  start : σ

/-- The headers that delayed retries with these numbers have set. -/
def retriesSet (numbers : List UInt32) : List (String × String) :=
  (numbers.getLast?.map fun number => (Header.delayedRetries, Text.decimal number.toNat)).toList

/-- A message read again: another one with some headers set. -/
structure Regains (original message : InboundMessage) (set : List (String × String)) : Prop where
  id : message.id = original.id
  body : message.body = original.body
  headers : message.headers = original.headers.insertAll set

namespace Receiver

variable [LogSink κ] (receiver : Receiver σ κ)

def decision (failing : Failing σ) : RecoverabilityAction :=
  receiver.recoverability.action failing.message.deliveryCount failing.message.headers

/-- The transport after a failed message was treated. -/
def treated (failing : Failing σ) : Transport :=
  receiver.transport.get
    (receiver.onError (failing.message.errorContext failing.failure failing.token) failing.start).2

/-- The treatment of a message has deferred this copy of it. -/
def Defers (failing : Failing σ) (number : UInt32) (copy : WireMessage) : Prop :=
  ∃ delay, receiver.decision failing = .delayedRetry number delay ∧
    (receiver.treated failing).deferred.getLast? = some ⟨receiver.endpoint, delay, copy⟩

/-- The treatment of a message has put this copy of it into the error queue. -/
def Parks (failing : Failing σ) (copy : WireMessage) : Prop :=
  ∃ queue, receiver.decision failing = .moveToErrorQueue queue ∧
    ((receiver.treated failing).contents queue).getLast? = some copy

/-- A message after delayed retries with these numbers: every retry delivers the copy
that was deferred when the message failed before, and delivers it any number of
times. -/
inductive Retried (original : InboundMessage) : List UInt32 → InboundMessage → Prop where
  | never : Retried original [] original
  | again {numbers : List UInt32} {failing : Failing σ} {number : UInt32} {copy : WireMessage}
      (earlier : Retried original numbers failing.message)
      (defers : receiver.Defers failing number copy) (fresh : String) (count : UInt32) :
      Retried original (numbers ++ [number])
        (InboundMessage.ofWire fresh { copy with deliveryCount := count })

section Treated

variable {receiver} {failing : Failing σ} {number : UInt32} {delay : Duration} {queue : String}
  {copy : WireMessage}

/-- After the log was written, all that is done about a message is done to the
transport. -/
theorem exists_treated (receiver : Receiver σ κ) (failing : Failing σ) :
    ∃ transport, receiver.treated failing =
      (applyDecision receiver.endpoint
        (failing.message.errorContext failing.failure failing.token) failing.failure.message
        (receiver.decision failing) transport).2 :=
  ⟨_, receiver.transport.get_set _ _⟩

theorem getLast?_deferred (hDecision : receiver.decision failing = .delayedRetry number delay) :
    (receiver.treated failing).deferred.getLast? =
      some ⟨receiver.endpoint, delay,
        failedCopy (failing.message.errorContext failing.failure failing.token)
          [(Header.delayedRetries, Text.decimal number.toNat)]⟩ := by
  obtain ⟨transport, hTreated⟩ := receiver.exists_treated failing
  rw [hTreated, hDecision]
  exact List.getLast?_concat

theorem getLast?_contents (hDecision : receiver.decision failing = .moveToErrorQueue queue) :
    ((receiver.treated failing).contents queue).getLast? =
      some (failedCopy (failing.message.errorContext failing.failure failing.token)
        [(Header.failedQueue, receiver.endpoint),
          (Header.exceptionMessage, failing.failure.message)]) := by
  obtain ⟨transport, hTreated⟩ := receiver.exists_treated failing
  rw [hTreated, hDecision]
  change ((transport.enqueue queue _).contents queue).getLast? = _
  rw [Transport.contents_enqueue, if_pos rfl, List.getLast?_concat]

theorem Defers.copy_eq (defers : receiver.Defers failing number copy) :
    copy = failedCopy (failing.message.errorContext failing.failure failing.token)
      [(Header.delayedRetries, Text.decimal number.toNat)] := by
  obtain ⟨delay, hDecision, hLast⟩ := defers
  have hSame := Option.some.inj (hLast.symm.trans (getLast?_deferred hDecision))
  exact congrArg DeferredMessage.message hSame

theorem Parks.copy_eq (parks : receiver.Parks failing copy) :
    copy = failedCopy (failing.message.errorContext failing.failure failing.token)
      [(Header.failedQueue, receiver.endpoint),
        (Header.exceptionMessage, failing.failure.message)] := by
  obtain ⟨queue, hDecision, hLast⟩ := parks
  exact Option.some.inj (hLast.symm.trans (getLast?_contents hDecision))

/-- A delayed retry has the next number. -/
theorem Defers.toNat_number (defers : receiver.Defers failing number copy) :
    number.toNat =
      (RecoverabilitySettings.retriesBehind failing.message.headers).toNat + 1 := by
  obtain ⟨delay, hDecision, -⟩ := defers
  rcases receiver.recoverability.action_cases failing.message.deliveryCount
    failing.message.headers with ⟨-, hAction⟩ | ⟨-, -, next, hNext, hAction⟩ | ⟨-, -, hAction⟩
  · cases hAction.symm.trans hDecision
  · cases hAction.symm.trans hDecision
    exact hNext
  · have hLast := hAction.symm.trans hDecision
    rw [RecoverabilitySettings.lastAction] at hLast
    split at hLast <;> cases hLast

end Treated

end Receiver

section Generations

variable [LogSink κ] {receiver : Receiver σ κ} {original message : InboundMessage}
  {numbers : List UInt32} {failing : Failing σ} {number : UInt32} {copy : WireMessage}

theorem retriesSet_concat (numbers : List UInt32) (number : UInt32) :
    retriesSet (numbers ++ [number]) = [(Header.delayedRetries, Text.decimal number.toNat)] := by
  rw [retriesSet, List.getLast?_concat]
  rfl

/-- Only the last of the numbers stays. -/
theorem insertAll_retriesSet (headers : Headers) (numbers : List UInt32) (number : UInt32) :
    (headers.insertAll (retriesSet numbers)).insertAll
        [(Header.delayedRetries, Text.decimal number.toNat)] =
      headers.insertAll (retriesSet (numbers ++ [number])) := by
  rw [retriesSet_concat, retriesSet]
  cases numbers.getLast? with
  | none => rfl
  | some earlier => exact Dictionary.insert_insert ..

theorem retriesBehind_insertAll (headers : Headers) (numbers : List UInt32) (number : UInt32) :
    RecoverabilitySettings.retriesBehind
      (headers.insertAll (retriesSet (numbers ++ [number]))) = number := by
  rw [retriesSet_concat]
  change RecoverabilitySettings.retriesBehind (headers.insert _ _) = number
  rw [RecoverabilitySettings.retriesBehind, Dictionary.get?_insert_self, Option.bind_some,
    Text.counter?_decimal]
  rfl

/-- What has become of a message after delayed retries with these numbers. -/
structure RetriedAs (original : InboundMessage) (numbers : List UInt32)
    (message : InboundMessage) : Prop where
  regains : Regains original message (retriesSet numbers)
  unmarked : message.Unmarked
  counted : (RecoverabilitySettings.retriesBehind message.headers).toNat =
    (RecoverabilitySettings.retriesBehind original.headers).toNat + numbers.length

theorem RetriedAs.regains_failedCopy (retried : RetriedAs original numbers failing.message)
    (hId : original.id ≠ "") (fresh : String) (extra : List (String × String)) (count : UInt32)
    (hExtra : Header.transportEncoding ∉ extra.map Prod.fst) :
    InboundMessage.ofWire fresh
        { Receiver.failedCopy
            (failing.message.errorContext failing.failure failing.token) extra with
          deliveryCount := count } =
      ⟨original.id, original.body,
        (original.headers.insertAll (retriesSet numbers)).insertAll extra, max count 1⟩ := by
  have hNamed : failing.message.id ≠ "" := retried.regains.id ▸ hId
  rw [Receiver.ofWire_failedCopy fresh _ _ count hNamed retried.unmarked hExtra,
    retried.regains.id, retried.regains.body, retried.regains.headers]

/-- One more generation. -/
theorem RetriedAs.again (retried : RetriedAs original numbers failing.message)
    (hId : original.id ≠ "") (defers : receiver.Defers failing number copy) (fresh : String)
    (count : UInt32) :
    RetriedAs original (numbers ++ [number])
      (InboundMessage.ofWire fresh { copy with deliveryCount := count }) := by
  have hMarker : Header.transportEncoding ∉ [Header.delayedRetries] := by decide
  have hCopy := retried.regains_failedCopy hId fresh
    [(Header.delayedRetries, Text.decimal number.toNat)] count hMarker
  rw [← defers.copy_eq, insertAll_retriesSet] at hCopy
  refine ⟨?_, InboundMessage.unmarked_ofWire _ _, ?_⟩
  · rw [hCopy]
    exact ⟨rfl, rfl, rfl⟩
  · rw [hCopy, retriesBehind_insertAll, defers.toNat_number, retried.counted, List.length_append,
      List.length_singleton, Nat.add_assoc]

theorem Receiver.Retried.retriedAs (hId : original.id ≠ "") (unmarked : original.Unmarked)
    (retried : receiver.Retried original numbers message) : RetriedAs original numbers message := by
  induction retried with
  | never => exact ⟨⟨rfl, rfl, rfl⟩, unmarked, rfl⟩
  | again _ defers fresh count ih => exact ih.again hId defers fresh count

/-- Whoever reads the copy has the message that came on the wire, in its first
delivery and with some headers set. An address of a native field is a header. -/
structure IsCopyOf (fresh : String) (wire : WireMessage) (set : List (String × String))
    (copy : WireMessage) : Prop where
  regains : ∀ other,
    Regains (InboundMessage.ofWire fresh wire) (InboundMessage.ofWire other copy) set
  first : ∀ other, (InboundMessage.ofWire other copy).deliveryCount = 1
  replyTo : ∀ other address, wire.replyTo.bind Text.nonBlank = some address →
    (InboundMessage.ofWire other copy).header? Header.replyToAddress = some address
  correlation : ∀ other id, wire.correlationId.bind Text.nonBlank = some id →
    (InboundMessage.ofWire other copy).header? Header.correlationId = some id

/-- A message that came on the wire fails after delayed retries with these numbers,
and is put back. The copy for the next retry has its number, which is one more than
before; a copy in the error queue keeps the number of the last retry, or what was
there before the first. -/
structure Receiver.PutsBack (receiver : Receiver σ κ) (fresh : String) (wire : WireMessage)
    (numbers : List UInt32) (failing : Failing σ) : Prop where
  defers : ∀ number delay, receiver.decision failing = .delayedRetry number delay →
    ∃ copy, receiver.Defers failing number copy
  deferred : ∀ number copy, receiver.Defers failing number copy →
    number.toNat =
        (RecoverabilitySettings.retriesBehind (InboundMessage.ofWire fresh wire).headers).toNat +
          numbers.length + 1 ∧
      IsCopyOf fresh wire [(Header.delayedRetries, Text.decimal number.toNat)] copy
  parks : ∀ queue, receiver.decision failing = .moveToErrorQueue queue →
    ∃ copy, receiver.Parks failing copy
  parked : ∀ copy, receiver.Parks failing copy →
    IsCopyOf fresh wire
      (retriesSet numbers ++
        [(Header.failedQueue, receiver.endpoint),
          (Header.exceptionMessage, failing.failure.message)]) copy

/-- A copy that is read with the identifier, the body and the headers of the message
is one of it if the native names are not among the headers that are set. -/
theorem isCopyOf_of_ofWire {fresh : String} {wire : WireMessage} {set : List (String × String)}
    (hCopy : ∀ other, InboundMessage.ofWire other copy =
      ⟨(InboundMessage.ofWire fresh wire).id, (InboundMessage.ofWire fresh wire).body,
        (InboundMessage.ofWire fresh wire).headers.insertAll set, 1⟩)
    (hReply : Header.replyToAddress ∉ set.map Prod.fst)
    (hCorrelation : Header.correlationId ∉ set.map Prod.fst) : IsCopyOf fresh wire set copy where
  regains other := by
    rw [hCopy]
    exact ⟨rfl, rfl, rfl⟩
  first other := by rw [hCopy]
  replyTo other address hNative := by
    rw [hCopy, InboundMessage.header?, Dictionary.get?_insertAll_of_not_mem _ hReply]
    exact InboundMessage.replyTo_ofWire hNative
  correlation other id hNative := by
    rw [hCopy, InboundMessage.header?, Dictionary.get?_insertAll_of_not_mem _ hCorrelation]
    exact InboundMessage.correlation_ofWire hNative

theorem not_mem_retriesSet {name : String} (hName : Header.delayedRetries ≠ name)
    (numbers : List UInt32) : name ∉ (retriesSet numbers).map Prod.fst := by
  rw [retriesSet]
  cases numbers.getLast? with
  | none => simp
  | some number => simpa using Ne.symm hName

/-- Whatever befalls a message on its way, every copy of it is read as that
message. -/
theorem Receiver.Retried.putsBack {fresh : String} {wire : WireMessage} (hFresh : fresh ≠ "")
    (retried : receiver.Retried (InboundMessage.ofWire fresh wire) numbers failing.message) :
    receiver.PutsBack fresh wire numbers failing := by
  have hId := InboundMessage.id_ofWire_ne_empty hFresh wire
  have retriedAs := retried.retriedAs hId (InboundMessage.unmarked_ofWire fresh wire)
  refine ⟨?_, ?_, ?_, ?_⟩
  · intro number delay hDecision
    exact ⟨_, delay, hDecision, getLast?_deferred hDecision⟩
  · intro number copy defers
    refine ⟨by rw [defers.toNat_number, retriedAs.counted], ?_⟩
    rw [← retriesSet_concat numbers]
    refine isCopyOf_of_ofWire (fun other => ?_) (not_mem_retriesSet (by decide) _)
      (not_mem_retriesSet (by decide) _)
    have hMarker : Header.transportEncoding ∉ [Header.delayedRetries] := by decide
    rw [defers.copy_eq, ← insertAll_retriesSet]
    exact retriedAs.regains_failedCopy hId other _ 1 hMarker
  · intro queue hDecision
    exact ⟨_, queue, hDecision, getLast?_contents hDecision⟩
  · intro copy parks
    have hSet {name : String} (hRetries : Header.delayedRetries ≠ name)
        (hFailure : name ∉ [Header.failedQueue, Header.exceptionMessage]) :
        name ∉ (retriesSet numbers ++ [(Header.failedQueue, receiver.endpoint),
          (Header.exceptionMessage, failing.failure.message)]).map Prod.fst := by
      rw [List.map_append, List.mem_append, not_or]
      exact ⟨not_mem_retriesSet hRetries numbers, hFailure⟩
    refine isCopyOf_of_ofWire (fun other => ?_) (hSet (by decide) (by decide))
      (hSet (by decide) (by decide))
    have hMarker : Header.transportEncoding ∉ [Header.failedQueue, Header.exceptionMessage] := by
      decide
    rw [parks.copy_eq, Dictionary.insertAll_append]
    exact retriedAs.regains_failedCopy hId other _ 1 hMarker

end Generations

/-- A bakery that tries an order once more before it gives up. -/
def bakery : Receiver HostState Sink where
  endpoint := "bakery"
  handlers := .empty
  session := (SessionState.mk HostState.queues "bakery" .empty).toSession
  transport := HostState.queues
  recoverability := { immediateRetries := 0, delayedRetries := 1 }
  logBook := HostState.logBook "bakery"

/-- An order without an identifier, which is to be answered to the shop. -/
def breadOrder : WireMessage where
  body := some (Text.utf8 "3")
  applicationProperties := .ofList [("Fresh", .boolean true), ("Remark", .null)]
  replyTo := some "shop"
  correlationId := some " "

/-- The bakery cannot bake. -/
def unbaked (message : InboundMessage) : Failing HostState :=
  ⟨message, .application "no flour", ⟨"token", none⟩, {}⟩

/-- The copy of the order that is tried again is parked when it was delivered
twice. -/
theorem putsBack_unbaked :
    let order := InboundMessage.ofWire "order-1" breadOrder
    bakery.decision (unbaked order) =
        .delayedRetry 1 (bakery.recoverability.delayedRetryBase.times 1) ∧
      ∃ copy, bakery.Defers (unbaked order) 1 copy ∧
        let retried := unbaked (InboundMessage.ofWire "other" { copy with deliveryCount := 2 })
        bakery.PutsBack "order-1" breadOrder [1] retried ∧
          bakery.decision retried = .moveToErrorQueue "error" := by
  intro order
  have hDecision : bakery.decision (unbaked order) =
      .delayedRetry 1 (bakery.recoverability.delayedRetryBase.times 1) := by decide
  have hFresh : "order-1" ≠ "" := by decide
  obtain ⟨copy, defers⟩ := (Receiver.Retried.putsBack hFresh .never).defers _ _ hDecision
  refine ⟨hDecision, copy, defers, Receiver.Retried.putsBack hFresh (.again .never defers _ _), ?_⟩
  rw [defers.copy_eq]
  decide

end InMemory

end BusEndpoint
