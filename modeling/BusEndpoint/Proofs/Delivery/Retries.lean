import BusEndpoint.Proofs.Delivery.Plan
import BusEndpoint.Proofs.Delivery.Processing

/-! A message that fails at every attempt. The host delivers it again after a
failure, with its delivery count raised, and delivers the released copy after a
delayed retry; attempt by attempt, what is planned for the message is done, until
the plan ends. -/

namespace BusEndpoint

/-- The number of the delivery, from 1. -/
def WireMessage.delivery (message : WireMessage) : UInt32 := max message.deliveryCount 1

theorem WireMessage.toNat_delivery (message : WireMessage) :
    message.delivery.toNat = max message.deliveryCount.toNat 1 := by
  change (if message.deliveryCount ≤ 1 then 1 else message.deliveryCount).toNat = _
  split
  · rename_i hCount
    exact (Nat.max_eq_right (UInt32.le_iff_toNat_le.mp hCount)).symm
  · rename_i hCount
    have hLater := UInt32.lt_iff_toNat_lt.mp (UInt32.not_le.mp hCount)
    exact (Nat.max_eq_left (Nat.le_of_lt hLater)).symm

/-- The headers with which an endpoint works on the message. -/
def WireMessage.headers (message : WireMessage) : Headers :=
  Header.translate message.applicationProperties message.replyTo message.correlationId

/-- The delayed retries behind the message. -/
def WireMessage.retries (message : WireMessage) : UInt32 :=
  RecoverabilitySettings.retriesBehind message.headers

namespace InMemory

open BusEndpoint.Task

variable {σ κ ς : Type}

/-- The number of the delayed retry travels in the copy that is made for it. -/
theorem Receiver.retries_failedCopy (context : ErrorContext σ) (number : UInt32) :
    (failedCopy context [(Header.delayedRetries, Text.decimal number.toNat)]).retries = number := by
  have hHeader : (Header.translate (failedCopy context
      [(Header.delayedRetries, Text.decimal number.toNat)]).applicationProperties none none).get?
        Header.delayedRetries = some (Text.decimal number.toNat) := by
    have hName : Header.delayedRetries ≠ Header.transportEncoding := by decide
    simp [Header.translate, Header.setNative, failedCopy, Dictionary.insertAll,
      Dictionary.get?_map, Dictionary.get?_filter, hName, Header.ofProperty]
  change RecoverabilitySettings.retriesBehind (Header.translate _ none none) = number
  rw [RecoverabilitySettings.retriesBehind, hHeader, Option.bind_some, Text.counter?_decimal]
  rfl

/-- An attempt to process a message whose message pipeline has failed. -/
structure Attempt (σ : Type) where
  wire : WireMessage
  start : σ
  /-- What the message pipeline has failed with, and the transport then. -/
  failure : Failure
  transport : Transport
  answer : Except BusError Unit
  finish : σ

/-- What others may do to the host while the message is processed. They may work
on other messages and on the queues; the record is about this message alone. -/
def Installation.OthersMay (installation : Installation σ κ ς) (s t : σ) : Prop :=
  (installation.IsSound s → installation.IsSound t) ∧
    (installation.traffic t).answers = (installation.traffic s).answers

namespace Attempt

variable (installation : Installation σ κ ς) (attempt : Attempt σ)

/-- The attempt was made, and has failed with an error that is no cancellation. -/
def IsMade [Host σ] [LogSink κ] : Prop :=
  attempt.failure.isCancellation = false ∧
    (∃ context cancel, Runs installation.OthersMay
      (installation.endpoint.process attempt.wire context cancel) attempt.start attempt.answer
        attempt.finish) ∧
    ∃ messageId, (installation.traffic attempt.finish).answers =
      (installation.traffic attempt.start).answers ++
        [⟨messageId, .error attempt.failure, attempt.transport⟩]

/-- The action for the delivery of the attempt. -/
def action : RecoverabilityAction :=
  installation.configuration.recoverability.action attempt.wire.delivery attempt.wire.headers

/-- A copy of the message, for its first delivery. -/
def IsCopy (copy : WireMessage) : Prop :=
  copy.deliveryCount = 1 ∧ copy.body = some (attempt.wire.body.getD []) ∧
    ∃ fresh, copy.messageId = some (resolveMessageId fresh attempt.wire.messageId)

/-- What the attempt has answered, and what it has done to the transport that its
message pipeline has left. -/
def Takes : RecoverabilityAction → Prop
  | .immediateRetry | .fail =>
    attempt.answer = .error (.pipeline attempt.failure) ∧
      (installation.traffic attempt.finish).transport = attempt.transport
  | .delayedRetry number delay =>
    attempt.answer = .ok () ∧ ∃ copy, attempt.IsCopy copy ∧ copy.retries = number ∧
      (installation.traffic attempt.finish).transport =
        attempt.transport.schedule installation.configuration.endpointName copy delay
  | .moveToErrorQueue queue =>
    attempt.answer = .ok () ∧ ∃ copy, attempt.IsCopy copy ∧
      (installation.traffic attempt.finish).transport = attempt.transport.enqueue queue copy

/-- The delivery of the message after the attempt: the host delivers it again
with the delivery count raised, or delivers the copy that the attempt has
deferred, once it is released. -/
inductive Next (raise : UInt32 → UInt32) : WireMessage → Prop where
  | redelivered {error : BusError} (hAnswer : attempt.answer = .error error) :
      Next raise { attempt.wire with deliveryCount := raise attempt.wire.deliveryCount }
  | released {deferred : DeferredMessage} (hAnswer : attempt.answer = .ok ())
      (hDeferred : (installation.traffic attempt.finish).transport.deferred =
        attempt.transport.deferred ++ [deferred]) :
      Next raise deferred.message

end Attempt

/-- The host drives a message on from a state: attempts to process it, each of
which fails, one after the other. -/
inductive Drive [Host σ] [LogSink κ] (installation : Installation σ κ ς)
    (raise : UInt32 → UInt32) : WireMessage → σ → List (Attempt σ) → Prop where
  | ends {s : σ} {attempt : Attempt σ} (between : installation.OthersMay s attempt.start)
      (made : attempt.IsMade installation) : Drive installation raise attempt.wire s [attempt]
  | goesOn {s : σ} {attempt : Attempt σ} {next : WireMessage} {rest : List (Attempt σ)}
      (between : installation.OthersMay s attempt.start) (made : attempt.IsMade installation)
      (hNext : attempt.Next installation raise next)
      (later : Drive installation raise next attempt.finish rest) :
      Drive installation raise attempt.wire s (attempt :: rest)

/-- What is planned for a message from its delivery on. -/
def Installation.plan (installation : Installation σ κ ς) (wire : WireMessage) :
    List RecoverabilityAction :=
  installation.configuration.recoverability.plan wire.delivery.toNat wire.retries.toNat

/-- A host raises delivery counts by one. It may have taken a count of 0 for 1
before. -/
structure Raises (raise : UInt32 → UInt32) : Prop where
  zero : raise 0 = 1 ∨ raise 0 = 2
  later : ∀ count, 1 ≤ count → raise count = count + 1

/-- What is planned for a message with such a host. If 0 is raised to 1, there are
two deliveries that count as the first. -/
def Installation.planWith (installation : Installation σ κ ς) (raise : UInt32 → UInt32)
    (wire : WireMessage) : List RecoverabilityAction :=
  if raise 0 = 1 ∧ wire.deliveryCount = 0 ∧
      1 ≤ installation.configuration.recoverability.immediateRetries.toNat then
    .immediateRetry :: installation.plan wire
  else installation.plan wire

section Planned

variable {installation : Installation σ κ ς} {raise : UInt32 → UInt32} {attempt : Attempt σ}
  {wire next : WireMessage}

theorem plan_eq (installation : Installation σ κ ς) (wire : WireMessage) :
    installation.plan wire =
      installation.configuration.recoverability.action wire.delivery wire.headers ::
        installation.configuration.recoverability.rest wire.delivery.toNat wire.retries.toNat
          (installation.configuration.recoverability.action wire.delivery wire.headers) :=
  installation.configuration.recoverability.plan_eq wire.delivery wire.headers

theorem planWith_of_pos (hCount : 1 ≤ wire.deliveryCount.toNat) :
    installation.planWith raise wire = installation.plan wire := by
  apply if_neg
  rintro ⟨-, hZero, -⟩
  rw [hZero] at hCount
  cases hCount

theorem planWith_of_lt (hCount : installation.configuration.recoverability.immediateRetries.toNat <
    wire.delivery.toNat) : installation.planWith raise wire = installation.plan wire := by
  apply if_neg
  rintro ⟨-, hZero, hImmediate⟩
  rw [wire.toNat_delivery, hZero] at hCount
  exact Nat.not_lt.mpr hImmediate hCount

/-- A host goes on with the next number, or delivers the message as the first one
again. -/
theorem Raises.cases (raises : Raises raise)
    (hBound : wire.delivery.toNat + 1 < UInt32.size)
    (hCount : wire.delivery.toNat ≤
      installation.configuration.recoverability.immediateRetries.toNat) :
    (raise wire.deliveryCount).toNat = wire.delivery.toNat + 1 ∧
        installation.planWith raise wire = installation.plan wire ∨
      (raise wire.deliveryCount).toNat = 1 ∧ wire.delivery.toNat = 1 ∧
        installation.planWith raise wire = .immediateRetry :: installation.plan wire := by
  have hDelivery := wire.toNat_delivery
  by_cases hZero : wire.deliveryCount = 0
  · have hFirst : wire.delivery.toNat = 1 := by
      rw [hDelivery, hZero]
      rfl
    rcases raises.zero with hRaise | hRaise
    · refine .inr ⟨by rw [hZero, hRaise]; rfl, hFirst, if_pos ⟨hRaise, hZero, ?_⟩⟩
      exact hFirst ▸ hCount
    · refine .inl ⟨by rw [hZero, hRaise, hFirst]; rfl, if_neg ?_⟩
      rintro ⟨hOther, -⟩
      rw [hRaise] at hOther
      cases hOther
  · have hPos : 1 ≤ wire.deliveryCount.toNat :=
      Nat.one_le_iff_ne_zero.mpr fun hNone => hZero (UInt32.toNat.inj hNone)
    rw [Nat.max_eq_left hPos] at hDelivery
    refine .inl ⟨?_, planWith_of_pos hPos⟩
    rw [raises.later _ (UInt32.le_iff_toNat_le.mpr hPos), UInt32.toNat_add, hDelivery]
    exact Nat.mod_eq_of_lt (hDelivery ▸ hBound)

/-- What an attempt does is the first that is planned. -/
theorem planWith_head (installation : Installation σ κ ς) (raise : UInt32 → UInt32)
    (attempt : Attempt σ) :
    ∃ rest, installation.planWith raise attempt.wire = attempt.action installation :: rest := by
  by_cases hPlan : raise 0 = 1 ∧ attempt.wire.deliveryCount = 0 ∧
      1 ≤ installation.configuration.recoverability.immediateRetries.toNat
  · obtain ⟨-, hZero, hImmediate⟩ := id hPlan
    have hFirst : attempt.wire.delivery.toNat = 1 := by
      rw [attempt.wire.toNat_delivery, hZero]
      rfl
    have hAction : attempt.action installation = .immediateRetry := by
      rcases installation.configuration.recoverability.action_cases attempt.wire.delivery
        attempt.wire.headers with ⟨-, hAction⟩ | ⟨hCount, -⟩ | ⟨hCount, -⟩
      · exact hAction
      · exact absurd (hFirst ▸ hImmediate) (Nat.not_le.mpr hCount)
      · exact absurd (hFirst ▸ hImmediate) (Nat.not_le.mpr hCount)
    rw [Installation.planWith, if_pos hPlan, hAction]
    exact ⟨_, rfl⟩
  · rw [Installation.planWith, if_neg hPlan, plan_eq]
    exact ⟨_, rfl⟩

/-- After a retry the rest of the plan is planned for the next delivery. -/
theorem Attempt.Next.planned
    (hBound : installation.configuration.recoverability.immediateRetries.toNat + 1 < UInt32.size)
    (raises : Raises raise) (takes : attempt.Takes installation (attempt.action installation))
    (hRetry : (attempt.action installation).isRetry = true)
    (hNext : attempt.Next installation raise next) :
    installation.planWith raise attempt.wire =
      attempt.action installation :: installation.planWith raise next := by
  rcases installation.configuration.recoverability.action_cases attempt.wire.delivery
    attempt.wire.headers with
    ⟨hCount, hAction⟩ | ⟨hCount, -, number, hNumber, hAction⟩ | ⟨-, -, hAction⟩
  · rw [Attempt.action, hAction] at takes
    cases hNext with
    | released hAnswer => cases hAnswer.symm.trans takes.1
    | redelivered hAnswer =>
        have hDelivery := WireMessage.toNat_delivery { attempt.wire with
          deliveryCount := raise attempt.wire.deliveryCount }
        rw [Attempt.action, hAction]
        rcases raises.cases (by omega) hCount with ⟨hRaise, hPlan⟩ | ⟨hRaise, hFirst, hPlan⟩
        · rw [hRaise, Nat.max_eq_left (Nat.le_add_left 1 _)] at hDelivery
          rw [hPlan, planWith_of_pos (hRaise ▸ Nat.le_add_left 1 _), plan_eq, hAction,
            Installation.plan, hDelivery]
          rfl
        · rw [hRaise, Nat.max_self] at hDelivery
          rw [hPlan, planWith_of_pos (Nat.le_of_eq hRaise.symm), Installation.plan,
            Installation.plan, hDelivery, hFirst]
          rfl
  · rw [Attempt.action, hAction] at takes
    obtain ⟨hOk, copy, hCopy, hRetries, hTransport⟩ := takes
    cases hNext with
    | redelivered hAnswer => cases hAnswer.symm.trans hOk
    | @released deferred hAnswer hDeferred =>
        rw [hTransport] at hDeferred
        have hAdded : [_] = [deferred] := List.append_cancel_left hDeferred
        obtain rfl : copy = deferred.message := by
          cases hAdded
          rfl
        have hDelivery : deferred.message.delivery.toNat = 1 := by
          rw [WireMessage.toNat_delivery, hCopy.1]
          rfl
        rw [planWith_of_lt hCount, planWith_of_pos (by rw [hCopy.1]; exact Nat.le_refl 1), plan_eq,
          Installation.plan, hDelivery, hRetries, hNumber, Attempt.action, hAction]
        rfl
  · rw [Attempt.action, hAction, RecoverabilitySettings.isRetry_lastAction] at hRetry
    cases hRetry

/-- The plan ends with an attempt that is no retry. -/
theorem planWith_of_last (raise : UInt32 → UInt32)
    (hLast : (attempt.action installation).isRetry = false) :
    installation.planWith raise attempt.wire = [attempt.action installation] ∧
      attempt.action installation = installation.configuration.recoverability.lastAction := by
  rcases installation.configuration.recoverability.action_cases attempt.wire.delivery
    attempt.wire.headers with
    ⟨-, hAction⟩ | ⟨-, -, number, -, hAction⟩ | ⟨hCount, hRetries, hAction⟩
  · rw [Attempt.action, hAction] at hLast
    cases hLast
  · rw [Attempt.action, hAction] at hLast
    cases hLast
  · rw [planWith_of_lt hCount, Attempt.action, hAction]
    exact ⟨RecoverabilitySettings.plan_of_exhausted _ hCount hRetries, rfl⟩

/-- An attempt that is a retry leads to another delivery. -/
theorem Attempt.Takes.exists_next {action : RecoverabilityAction} (raise : UInt32 → UInt32)
    (takes : attempt.Takes installation action) (hRetry : action.isRetry = true) :
    ∃ next, attempt.Next installation raise next := by
  cases action with
  | immediateRetry => exact ⟨_, .redelivered takes.1⟩
  | delayedRetry number delay =>
      obtain ⟨hOk, copy, -, -, hTransport⟩ := takes
      exact ⟨_, .released hOk (congrArg Transport.deferred hTransport)⟩
  | moveToErrorQueue queue => cases hRetry
  | fail => cases hRetry

end Planned

section Drives

variable [Host σ] [LogSink κ] {installation : Installation σ κ ς} {attempt : Attempt σ}

/-- An attempt that has failed does what the settings say. -/
theorem Attempt.IsMade.takes (secludes : installation.Secludes)
    (handlers : installation.HandlersUnseen Traffic.answers)
    (sound : installation.IsSound attempt.start) (made : attempt.IsMade installation) :
    installation.IsSound attempt.finish ∧
      attempt.Takes installation (attempt.action installation) := by
  obtain ⟨genuine, ⟨context, cancel, run⟩, messageId, hNoted⟩ := made
  obtain ⟨fresh, soundFinish, traffic, hAnswers, effect⟩ :=
    (secludes.actsLast_process handlers attempt.wire context sound).runs
      (fun _ _ between => between.1) (fun _ _ between => between.2) run
  refine ⟨soundFinish, ?_⟩
  generalize hAnswer : attempt.answer = answer at effect
  generalize hAfter : installation.traffic attempt.finish = after at effect
  rw [hAfter, ← hAnswers] at hNoted
  have hOne (failure : Failure) (id : String) (transport : Transport)
      (hSame : traffic.answers ++ [⟨id, .error failure, transport⟩] =
        traffic.answers ++ [⟨messageId, .error attempt.failure, attempt.transport⟩]) :
      failure = attempt.failure ∧ transport = attempt.transport := by
    have hLast := List.append_cancel_left hSame
    simp only [List.cons.injEq, Answer.mk.injEq, Except.error.injEq, and_true] at hLast
    exact hLast.2
  cases effect with
  | refused => simp at hNoted
  | succeeded => simp [Traffic.noted] at hNoted
  | cancelled cancellation =>
      obtain ⟨rfl, -⟩ := hOne _ _ _ hNoted
      rw [genuine] at cancellation
      cases cancellation
  | failed genuine' recovers =>
      obtain ⟨token, rfl, rfl⟩ := recovers
      obtain ⟨rfl, hTransport⟩ := hOne _ _ _ hNoted
      rw [hTransport] at hAnswer hAfter
      have hAction : installation.recovery (InboundMessage.ofWire fresh attempt.wire)
          attempt.failure token = Receiver.applyDecision installation.configuration.endpointName
            ((InboundMessage.ofWire fresh attempt.wire).errorContext attempt.failure token)
            attempt.failure.message (attempt.action installation) := rfl
      rw [hAction] at hAnswer hAfter
      have hFinish := congrArg Traffic.transport hAfter
      have hCopy (extra : List (String × String)) : attempt.IsCopy (Receiver.failedCopy
          ((InboundMessage.ofWire fresh attempt.wire).errorContext attempt.failure token) extra) :=
        ⟨rfl, rfl, fresh, rfl⟩
      cases hTaken : attempt.action installation with
      | immediateRetry =>
          rw [hTaken] at hAnswer hFinish
          exact ⟨hAnswer, hFinish⟩
      | fail =>
          rw [hTaken] at hAnswer hFinish
          exact ⟨hAnswer, hFinish⟩
      | delayedRetry number delay =>
          rw [hTaken] at hAnswer hFinish
          exact ⟨hAnswer, _, hCopy _, Receiver.retries_failedCopy _ number, hFinish⟩
      | moveToErrorQueue queue =>
          rw [hTaken] at hAnswer hFinish
          exact ⟨hAnswer, _, hCopy _, hFinish⟩

/-- Attempt by attempt, what is planned is done. -/
theorem Drive.takes (secludes : installation.Secludes)
    (handlers : installation.HandlersUnseen Traffic.answers)
    (hBound : installation.configuration.recoverability.immediateRetries.toNat + 1 < UInt32.size)
    {raise : UInt32 → UInt32} {wire : WireMessage} {s : σ} {attempts : List (Attempt σ)}
    (raises : Raises raise) (sound : installation.IsSound s)
    (drive : Drive installation raise wire s attempts) {k : Nat} {action : RecoverabilityAction}
    (hAttempt : attempts[k]? = some attempt)
    (hAction : (installation.planWith raise wire)[k]? = some action) :
    attempt.Takes installation action := by
  induction drive generalizing k with
  | @ends s first between made =>
      obtain ⟨-, takes⟩ := made.takes secludes handlers (between.1 sound)
      obtain ⟨rest, hPlan⟩ := planWith_head installation raise first
      cases k with
      | zero =>
          rw [hPlan] at hAction
          cases hAttempt
          cases hAction
          exact takes
      | succ k => cases hAttempt
  | @goesOn s first next rest between made hNext later ih =>
      obtain ⟨soundFinish, takes⟩ := made.takes secludes handlers (between.1 sound)
      cases k with
      | zero =>
          obtain ⟨rest, hPlan⟩ := planWith_head installation raise first
          rw [hPlan] at hAction
          cases hAttempt
          cases hAction
          exact takes
      | succ k =>
          cases hRetry : (first.action installation).isRetry with
          | true =>
              rw [hNext.planned hBound raises takes hRetry] at hAction
              exact ih soundFinish hAttempt hAction
          | false =>
              rw [(planWith_of_last raise hRetry).1] at hAction
              cases hAction

end Drives

end InMemory

end BusEndpoint
