import BusEndpoint.Proofs.Delivery.Contents
import BusEndpoint.Proofs.Delivery.Traffic

/-! The messages that there are in the traffic of an endpoint. A call that is
acknowledged adds one to those that have been processed or are with the
transport, and a call that fails adds none. -/

namespace BusEndpoint.InMemory

variable {σ κ ς : Type}

namespace Traffic

/-- All of the traffic that is about messages. -/
def store (traffic : Traffic) : Dictionary (List WireMessage) × List DeferredMessage × List Answer :=
  (traffic.transport.queues, traffic.transport.deferred, traffic.answers)

/-- The messages that a handler has processed successfully. -/
def processed (traffic : Traffic) : List (Option String) :=
  traffic.answers.filterMap fun answer =>
    match answer.result with
    | .ok () => some (some answer.messageId)
    | .error _ => none

/-- All messages that have been processed or are with the transport. -/
def ids (traffic : Traffic) : List (Option String) :=
  traffic.processed ++
    (traffic.transport.queued ++ traffic.transport.waiting).map WireMessage.messageId

theorem ids_of_store {first second : Traffic} (hStore : first.store = second.store) :
    first.ids = second.ids := by
  obtain ⟨hQueues, hRest⟩ := Prod.mk.inj hStore
  obtain ⟨hDeferred, hAnswers⟩ := Prod.mk.inj hRest
  rw [ids, ids, processed, processed, Transport.queued, Transport.queued, Transport.waiting,
    Transport.waiting, hQueues, hDeferred, hAnswers]

/-- Some messages come to the transport. -/
theorem ids_of_perm (traffic : Traffic) {transport : Transport} (messages : List WireMessage)
    (hMessages : (transport.queued ++ transport.waiting).Perm
      (messages ++ (traffic.transport.queued ++ traffic.transport.waiting))) :
    { traffic with transport }.ids.Perm (messages.map WireMessage.messageId ++ traffic.ids) := by
  refine ((hMessages.map WireMessage.messageId).append_left traffic.processed).trans ?_
  rw [List.map_append]
  exact List.perm_append_comm_assoc _ _ _

/-- Only a success is the processing of a message. -/
theorem ids_noted_ok (traffic : Traffic) (messageId : String) :
    (traffic.noted messageId (.ok ())).ids.Perm (some messageId :: traffic.ids) := by
  have hProcessed : (traffic.noted messageId (.ok ())).processed =
      traffic.processed ++ [some messageId] := by
    simp [processed, noted]
  rw [ids, hProcessed, List.append_assoc]
  exact List.perm_middle

theorem ids_noted_error (traffic : Traffic) (messageId : String) (failure : Failure)
    (transport : Transport) :
    { traffic.noted messageId (.error failure) with transport }.ids =
      { traffic with transport }.ids := by
  simp [ids, processed, noted]

end Traffic

namespace Receiver

variable {endpoint reason : String} {context : ErrorContext σ} {action : RecoverabilityAction}
  {transport : Transport}

/-- A failure that is handled leaves one copy of the message with the
transport. -/
theorem applyDecision_handled
    (handled : (applyDecision endpoint context reason action transport).1 = .handled) :
    ∃ copy, copy.messageId = some context.messageId ∧
      ((applyDecision endpoint context reason action transport).2.queued ++
        (applyDecision endpoint context reason action transport).2.waiting).Perm
          (copy :: (transport.queued ++ transport.waiting)) := by
  cases action with
  | immediateRetry => cases handled
  | fail => cases handled
  | delayedRetry attempt delay =>
      refine ⟨failedCopy context [(Header.delayedRetries, Text.decimal attempt.toNat)], rfl, ?_⟩
      have hWaiting : (transport.schedule endpoint
          (failedCopy context [(Header.delayedRetries, Text.decimal attempt.toNat)]) delay).waiting =
          transport.waiting ++
            [failedCopy context [(Header.delayedRetries, Text.decimal attempt.toNat)]] := by
        simp [Transport.waiting, Transport.schedule]
      change (transport.queued ++ Transport.waiting (transport.schedule _ _ _)).Perm _
      rw [hWaiting, ← List.append_assoc]
      exact List.perm_append_singleton _ _
  | moveToErrorQueue queue =>
      refine ⟨failedCopy context
        [(Header.failedQueue, endpoint), (Header.exceptionMessage, reason)], rfl, ?_⟩
      exact (transport.queued_enqueue queue _).append_right _

/-- A failure that is not handled leaves the transport as it was. -/
theorem applyDecision_retryRequired
    (retryRequired : (applyDecision endpoint context reason action transport).1 = .retryRequired) :
    (applyDecision endpoint context reason action transport).2 = transport := by
  cases action with
  | immediateRetry => rfl
  | fail => rfl
  | delayedRetry attempt delay => cases retryRequired
  | moveToErrorQueue queue => cases retryRequired

end Receiver

namespace Effect

variable {installation : Installation σ κ ς} {message : InboundMessage} {before after : Traffic}

/-- A message that is acknowledged has been processed, or a copy of it is with the
transport. -/
theorem ids_of_ok (effect : Effect installation message before (.ok ()) after) :
    after.ids.Perm (some message.id :: before.ids) := by
  cases effect with
  | succeeded => exact before.ids_noted_ok message.id
  | failed genuine recovers =>
      obtain ⟨token, hAnswer, rfl⟩ := recovers
      cases hVerdict : (installation.recovery message _ token before.transport).1 with
      | retryRequired =>
          rw [hVerdict] at hAnswer
          cases hAnswer
      | handled =>
          obtain ⟨copy, hCopy, hTransport⟩ := Receiver.applyDecision_handled hVerdict
          rw [Traffic.ids_noted_error]
          have hIds := before.ids_of_perm [copy] hTransport
          rwa [List.map_singleton, hCopy] at hIds

/-- A message that is not acknowledged has not been processed, and there is no
copy of it. -/
theorem ids_of_error {error : BusError}
    (effect : Effect installation message before (.error error) after) : after.ids = before.ids := by
  cases effect with
  | refused => rfl
  | cancelled cancellation => exact before.ids_noted_error _ _ before.transport
  | failed genuine recovers =>
      obtain ⟨token, hAnswer, rfl⟩ := recovers
      cases hVerdict : (installation.recovery message _ token before.transport).1 with
      | handled =>
          rw [hVerdict] at hAnswer
          cases hAnswer
      | retryRequired =>
          have hSame := Receiver.applyDecision_retryRequired hVerdict
          rw [Traffic.ids_noted_error]
          exact congrArg (fun transport => { before with transport }.ids) hSame

end Effect

end BusEndpoint.InMemory
