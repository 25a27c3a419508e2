import BusEndpoint.InMemory.Engine
import BusEndpoint.Proofs.Dictionary
import BusEndpoint.Proofs.Transport.Sending

/-! What a decision on a failed message shows of itself: the level of an entry in
the log, a change of the transport, and a verdict. A message that somebody else
takes care of is handled, and every other one is left to the host. -/

namespace BusEndpoint

namespace Transport

variable {before after : Transport} {message : WireMessage} {gains : String → Prop}

theorem Gains.ne {queue : String} (hGains : before.Gains after message gains)
    (hQueue : gains queue) : after ≠ before := by
  rintro rfl
  simpa using hGains.gained queue hQueue

end Transport

namespace InMemory

variable {σ : Type}

/-- A message once more, for its first delivery, with these headers set. -/
structure Copies (message : InboundMessage) (extra : List (String × String)) (copy : WireMessage) :
    Prop where
  messageId : copy.messageId = some message.id
  body : copy.body = some message.body
  deliveryCount : copy.deliveryCount = 1
  set : ∀ name value, (name, value) ∈ extra →
    copy.applicationProperties.get? name = some (.string value)
  kept : ∀ name, name ∉ extra.map Prod.fst →
    copy.applicationProperties.get? name = (message.headers.get? name).map .string

theorem Receiver.copies_failedCopy (message : InboundMessage) (failure : Failure)
    (token : TransportToken σ) {extra : List (String × String)}
    (distinct : (extra.map Prod.fst).Nodup) :
    Copies message extra (failedCopy (message.errorContext failure token) extra) where
  messageId := rfl
  body := rfl
  deliveryCount := rfl
  set name value hExtra := by
    rw [failedCopy, Dictionary.get?_map, Dictionary.get?_insertAll_of_mem _ distinct hExtra,
      Option.map_some]
  kept name hName := by
    rw [failedCopy, Dictionary.get?_map, Dictionary.get?_insertAll_of_not_mem _ hName]
    rfl

/-- What is seen of the treatment of a failed message. -/
structure Treatment where
  level : LogLevel
  before : Transport
  after : Transport
  verdict : ErrorVerdict

namespace Treatment

variable {endpoint reason : String} {message : InboundMessage} {treatment : Treatment}
  {action : RecoverabilityAction}

/-- A message of an endpoint that has failed for a reason is treated according to
a decision. -/
def Follows (endpoint : String) (message : InboundMessage) (reason : String)
    (treatment : Treatment) : RecoverabilityAction → Prop
  | .immediateRetry =>
    treatment.level = .warn ∧ treatment.after = treatment.before ∧
      treatment.verdict = .retryRequired
  | .delayedRetry attempt delay =>
    treatment.level = .warn ∧ treatment.verdict = .handled ∧
      ∃ copy, Copies message [(Header.delayedRetries, Text.decimal attempt.toNat)] copy ∧
        treatment.after =
          { treatment.before with
            deferred := treatment.before.deferred ++ [⟨endpoint, delay, copy⟩] }
  | .moveToErrorQueue queue =>
    treatment.level = .error ∧ treatment.verdict = .handled ∧
      ∃ copy, Copies message
          [(Header.failedQueue, endpoint), (Header.exceptionMessage, reason)] copy ∧
        treatment.before.Gains treatment.after copy (· = queue)
  | .fail =>
    treatment.level = .error ∧ treatment.after = treatment.before ∧
      treatment.verdict = .retryRequired

/-- The host is to deliver the message again exactly if nothing was done about
it. -/
theorem Follows.verdict_iff (follows : treatment.Follows endpoint message reason action) :
    treatment.verdict = .retryRequired ↔ treatment.after = treatment.before := by
  cases action with
  | immediateRetry =>
      obtain ⟨-, hAfter, hVerdict⟩ := follows
      exact iff_of_true hVerdict hAfter
  | delayedRetry attempt delay =>
      obtain ⟨-, hVerdict, copy, -, hAfter⟩ := follows
      refine iff_of_false (by simp [hVerdict]) ?_
      intro hSame
      simpa using congrArg Transport.deferred (hAfter.symm.trans hSame)
  | moveToErrorQueue queue =>
      obtain ⟨-, hVerdict, copy, -, hGains⟩ := follows
      exact iff_of_false (by simp [hVerdict]) (hGains.ne rfl)
  | fail =>
      obtain ⟨-, hAfter, hVerdict⟩ := follows
      exact iff_of_true hVerdict hAfter

end Treatment

/-- What is logged on a decision, and what is done. -/
theorem Receiver.follows_applyDecision (endpoint reason : String) (message : InboundMessage)
    (failure : Failure) (token : TransportToken σ) (action : RecoverabilityAction)
    (transport : Transport) :
    let decided := applyDecision endpoint (message.errorContext failure token) reason action transport
    Treatment.Follows endpoint message reason
      ⟨(decisionEntry (message.errorContext failure token) reason action).level, transport,
        decided.2, decided.1⟩ action := by
  cases action with
  | immediateRetry => exact ⟨rfl, rfl, rfl⟩
  | delayedRetry attempt delay =>
      have distinct : [Header.delayedRetries].Nodup := by decide
      exact ⟨rfl, rfl, _, copies_failedCopy message failure token distinct, rfl⟩
  | moveToErrorQueue queue =>
      have distinct : [Header.failedQueue, Header.exceptionMessage].Nodup := by decide
      exact ⟨rfl, rfl, _, copies_failedCopy message failure token distinct,
        transport.gains_enqueue queue _⟩
  | fail => exact ⟨rfl, rfl, rfl⟩

end InMemory

end BusEndpoint
