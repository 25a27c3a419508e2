import BusEndpoint.Proofs.Delivery.Failing
import BusEndpoint.Proofs.Delivery.Noting

/-! The end of all retries. A message that fails at every attempt is delivered as
often as the settings say, and no more often: what is planned for it is done one
after the other, and the plan is as long as the retries that are left. -/

namespace BusEndpoint.InMemory

open BusEndpoint.Task

variable {σ κ ς : Type} [Host σ] [LogSink κ]

section Plans

variable (installation : Installation σ κ ς) (raise : UInt32 → UInt32) (wire : WireMessage)

/-- The deliveries that may come after one, as long as the message fails. -/
inductive Follows : WireMessage → WireMessage → Prop where
  | itself (wire : WireMessage) : Follows wire wire
  | later {attempt : Attempt σ} {next last : WireMessage} (made : attempt.IsMade installation)
      (hNext : attempt.Next installation raise next) (follows : Follows next last) :
      Follows attempt.wire last

/-- Every attempt to process the message fails, whenever it is delivered. -/
def FailsAlways : Prop :=
  ∀ last, Follows installation raise wire last → ∀ s, installation.IsSound s →
    ∃ attempt : Attempt σ, attempt.wire = last ∧ installation.OthersMay s attempt.start ∧
      attempt.IsMade installation

/-- A message that fails at every attempt is treated as planned, and delivered as
often. -/
structure AsPlanned (s : σ) (plan : List RecoverabilityAction) : Prop where
  /-- Attempt by attempt, what is planned is done. -/
  takes : ∀ attempts, Drive installation raise wire s attempts →
    ∀ (k : Nat) (attempt : Attempt σ) (action : RecoverabilityAction),
      attempts[k]? = some attempt → plan[k]? = some action → attempt.Takes installation action
  /-- As long as something is planned, there is another delivery. -/
  goesOn : ∀ attempts, Drive installation raise wire s attempts → attempts.length < plan.length →
    ∃ last next, attempts.getLast? = some last ∧ last.Next installation raise next
  /-- A message that is put into the error queue is not delivered again. -/
  ends : installation.configuration.recoverability.sendFailedMessagesToErrorQueue = true →
    ∀ attempts, Drive installation raise wire s attempts → attempts.length ≤ plan.length
  /-- The plan is carried out to its end if the message keeps failing. -/
  reaches : FailsAlways installation raise wire →
    ∃ attempts, Drive installation raise wire s attempts ∧ attempts.length = plan.length

/-- The next delivery count with a host that takes 0 for 1. -/
def countedOn (count : UInt32) : UInt32 := if count = 0 then 2 else count + 1

/-- The retries of a message that fails at every attempt. There are as many
deliveries as the settings say. All before the last are retries, and the delayed
ones are numbered consecutively and delayed accordingly; the last one is parked,
or fails. -/
structure RetriesExactly (s : σ) : Prop where
  length : (installation.plan wire).length =
    (if wire.delivery.toNat ≤ installation.configuration.recoverability.immediateRetries.toNat
      then installation.configuration.recoverability.immediateRetries.toNat + 2 -
        wire.delivery.toNat
      else 1) +
    (installation.configuration.recoverability.delayedRetries.toNat - wire.retries.toNat) *
      (installation.configuration.recoverability.immediateRetries.toNat + 1)
  retries : ∀ (k : Nat) (action : RecoverabilityAction),
    (installation.plan wire)[k]? = some action → k + 1 < (installation.plan wire).length →
      action.isRetry = true
  delayed : (installation.plan wire).filterMap RecoverabilityAction.delayed? =
    (List.range' (wire.retries.toNat + 1)
      (installation.configuration.recoverability.delayedRetries.toNat - wire.retries.toNat)).map
        fun number => (.ofNat number,
          installation.configuration.recoverability.delayedRetryBase.times number)
  last : (installation.plan wire).getLast? =
    some installation.configuration.recoverability.lastAction
  counted : AsPlanned installation countedOn wire s (installation.plan wire)
  /-- If a host takes no count for another one, a message with the count 0 may be
  delivered once more. -/
  uncounted : ∀ raise, Raises raise →
    AsPlanned installation raise wire s (installation.planWith raise wire)

end Plans

section Drives

variable {installation : Installation σ κ ς} {raise : UInt32 → UInt32} {wire : WireMessage} {s : σ}
  {attempts : List (Attempt σ)}

theorem FailsAlways.next {attempt : Attempt σ} {next : WireMessage}
    (fails : FailsAlways installation raise attempt.wire) (made : attempt.IsMade installation)
    (hNext : attempt.Next installation raise next) : FailsAlways installation raise next :=
  fun last follows => fails last (.later made hNext follows)

/-- A message fails at every attempt if its handlers do. -/
theorem Installation.Fails.failsAlways (secludes : installation.Secludes)
    (fails : installation.Fails) (hReceives : installation.configuration.sendOnly = false) :
    FailsAlways installation raise wire :=
  fun last _ s _ => exists_process secludes fails hReceives last s

section Bounded

variable (secludes : installation.Secludes) (handlers : installation.HandlersUnseen Traffic.answers)
  (hBound : installation.configuration.recoverability.immediateRetries.toNat + 1 < UInt32.size)
  (raises : Raises raise)
include secludes handlers hBound raises

theorem Drive.goesOn_of_lt (sound : installation.IsSound s)
    (drive : Drive installation raise wire s attempts)
    (hLength : attempts.length < (installation.planWith raise wire).length) :
    ∃ last next, attempts.getLast? = some last ∧ last.Next installation raise next := by
  induction drive with
  | @ends s first between made =>
      obtain ⟨-, takes⟩ := made.takes secludes handlers (between.1 sound)
      cases hRetry : (first.action installation).isRetry with
      | true =>
          obtain ⟨next, hNext⟩ := takes.exists_next raise hRetry
          exact ⟨first, next, rfl, hNext⟩
      | false =>
          rw [(planWith_of_last raise hRetry).1] at hLength
          cases Nat.lt_irrefl _ hLength
  | @goesOn s first next rest between made hNext later ih =>
      obtain ⟨soundFinish, takes⟩ := made.takes secludes handlers (between.1 sound)
      cases hRetry : (first.action installation).isRetry with
      | true =>
          rw [hNext.planned hBound raises takes hRetry] at hLength
          obtain ⟨last, next, hLast, hNext⟩ := ih soundFinish (Nat.lt_of_succ_lt_succ hLength)
          refine ⟨last, next, ?_, hNext⟩
          rw [List.getLast?_cons, hLast]
          rfl
      | false =>
          rw [(planWith_of_last raise hRetry).1, List.length_cons, List.length_singleton] at hLength
          omega

theorem Drive.length_le (sound : installation.IsSound s)
    (hQueue : installation.configuration.recoverability.sendFailedMessagesToErrorQueue = true)
    (drive : Drive installation raise wire s attempts) :
    attempts.length ≤ (installation.planWith raise wire).length := by
  induction drive with
  | @ends s first between made =>
      obtain ⟨rest, hPlan⟩ := planWith_head installation raise first
      rw [hPlan]
      exact Nat.succ_le_succ (Nat.zero_le _)
  | @goesOn s first next rest between made hNext later ih =>
      obtain ⟨soundFinish, takes⟩ := made.takes secludes handlers (between.1 sound)
      cases hRetry : (first.action installation).isRetry with
      | true =>
          rw [hNext.planned hBound raises takes hRetry]
          exact Nat.succ_le_succ (ih soundFinish)
      | false =>
          rw [(planWith_of_last raise hRetry).2, RecoverabilitySettings.lastAction,
            if_pos hQueue] at takes
          obtain ⟨hOk, copy, -, hTransport⟩ := takes
          cases hNext with
          | redelivered hAnswer => cases hAnswer.symm.trans hOk
          | @released deferred hAnswer hDeferred =>
              rw [hTransport] at hDeferred
              have hMore : first.transport.deferred = first.transport.deferred ++ [deferred] :=
                hDeferred
              simp at hMore

theorem FailsAlways.exists_drive (fails : FailsAlways installation raise wire)
    (sound : installation.IsSound s) :
    ∃ attempts, Drive installation raise wire s attempts ∧
      attempts.length = (installation.planWith raise wire).length := by
  generalize hPlan : installation.planWith raise wire = plan
  induction plan generalizing wire s with
  | nil =>
      obtain ⟨attempt, rfl, -⟩ := fails wire (.itself wire) s sound
      obtain ⟨rest, hHead⟩ := planWith_head installation raise attempt
      cases hPlan.symm.trans hHead
  | cons action plan ih =>
      obtain ⟨attempt, rfl, between, made⟩ := fails wire (.itself wire) s sound
      obtain ⟨soundFinish, takes⟩ := made.takes secludes handlers (between.1 sound)
      cases hRetry : (attempt.action installation).isRetry with
      | true =>
          obtain ⟨next, hNext⟩ := takes.exists_next raise hRetry
          have hTail := (hNext.planned hBound raises takes hRetry).symm.trans hPlan
          obtain ⟨rest, later, hLength⟩ :=
            ih (fails.next made hNext) soundFinish (List.cons.inj hTail).2
          exact ⟨_, .goesOn between made hNext later, congrArg (· + 1) hLength⟩
      | false =>
          have hOnly := (planWith_of_last raise hRetry).1.symm.trans hPlan
          obtain ⟨-, rfl⟩ := List.cons.inj hOnly
          exact ⟨[attempt], .ends between made, rfl⟩

theorem asPlanned (sound : installation.IsSound s) :
    AsPlanned installation raise wire s (installation.planWith raise wire) where
  takes := fun _ drive _ _ _ hAttempt hAction =>
    drive.takes secludes handlers hBound raises sound hAttempt hAction
  goesOn := fun _ drive hLength =>
    drive.goesOn_of_lt secludes handlers hBound raises sound hLength
  ends := fun hQueue _ drive => drive.length_le secludes handlers hBound raises sound hQueue
  reaches := fun fails => fails.exists_drive secludes handlers hBound raises sound

end Bounded

theorem raises_countedOn : Raises countedOn where
  zero := .inr rfl
  later := by
    intro count hCount
    apply if_neg
    rintro rfl
    cases hCount

end Drives

namespace Installation

/-- An endpoint without handlers that makes one immediate and one delayed retry. -/
def unhandled : Installation (HostState × List Answer) Sink Unit :=
  onHost "orders"
    ⟨"orders", "", none, .receiveOnly, { immediateRetries := 1, delayedRetries := 1 }, false⟩ .empty

theorem fails_unhandled : unhandled.Fails where
  ends := fun _ _ => ends_of_finished rfl
  fails := fun _ _ sound => ⟨sound, rfl, _, rfl, rfl⟩

end Installation

end BusEndpoint.InMemory
