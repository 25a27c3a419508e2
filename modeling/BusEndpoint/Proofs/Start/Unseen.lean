import BusEndpoint.Proofs.Start.Line
import BusEndpoint.Proofs.Task.Ends
import BusEndpoint.Proofs.Task.LastPoll

/-! A caller for the started instance, and somebody who sees a part of the host. If
neither the gate nor a start shows there, nothing of what the caller does shows,
whether it waits, gives up or makes the start. It comes back if it gets its turn at the
gate. -/

namespace BusEndpoint.LazyStart

open BusEndpoint.Task

variable {σ κ ς ι β : Type} [Host σ]

/-- Neither the gate nor a start is seen, and what a start comes to, or has come to
before, is as said. -/
structure Unseen (lazy : LazyStart σ κ ς ι) (invariant : σ → Prop) (view : σ → β)
    (answers : Except BusError ι → Prop) : Prop where
  found : ∀ s started, invariant s → lazy.state s = .started started → answers (.ok started)
  gate : ∀ {α : Type} (f : StartGate ι → α × StartGate ι),
    (∀ gate, (f gate).2.state = gate.state) →
      (perform (lazy.gate.update f)).Rests invariant view fun _ => True
  start : lazy.start.Rests invariant view answers

/-- Whoever comes to the gate now gets its turn some time, whatever others do in
between. -/
def LetsIn (lazy : LazyStart σ κ ς ι) (others : σ → σ → Prop) (s : σ) : Prop :=
  Ends others
    (Task.wait (fun t => (lazy.gate.get t).isTurnOf (lazy.gate.get s).enter.1) (done ()))
    (lazy.gate.set (lazy.gate.get s).enter.2 s)

variable {lazy : LazyStart σ κ ς ι} {invariant : σ → Prop} {view : σ → β}
  {answers : Except BusError ι → Prop} {cancel : CancellationToken σ}

namespace Unseen

variable (unseen : lazy.Unseen invariant view answers)
include unseen

theorem rests_found :
    (observe fun s => (lazy.state s).started?).Rests invariant view
      fun found => ∀ started, found = some started → answers (.ok started) := by
  apply rests_observe
  intro s hs started hFound
  exact unseen.found s started hs (StartState.started?_eq_some_iff.mp hFound)

theorem rests_change {f : StartGate ι → StartGate ι}
    (hState : ∀ gate, (f gate).state = gate.state) :
    (lazy.change f).Rests invariant view fun _ => True :=
  unseen.gate (fun gate => ((), f gate)) hState

theorem rests_startBehindGate : lazy.startBehindGate.Rests invariant view answers := by
  have hStart : lazy.startUnlessStarted.Rests invariant view answers := by
    apply unseen.rests_found.bind
    intro found hFound
    cases found with
    | some started => exact rests_done (hFound started rfl)
    | none => exact unseen.start
  apply hStart.bind
  intro result hResult
  apply (unseen.rests_change (f := StartGate.release) fun _ => rfl).bind
  exact fun _ _ => rests_done hResult

theorem rests_ensureStarted
    (hCancelled : ∀ s, invariant s → cancel s = true → answers (.error .cancelled)) :
    (lazy.ensureStarted cancel).Rests invariant view answers := by
  have hCancel : (observe cancel).Rests invariant view
      fun cancelled => cancelled = true → answers (.error .cancelled) :=
    rests_observe hCancelled
  apply unseen.rests_found.bind
  intro found hFound
  cases found with
  | some started => exact rests_done (hFound started rfl)
  | none =>
      apply hCancel.bind
      intro cancelled hAnswer
      split
      · rename_i hCut
        exact rests_done (hAnswer hCut)
      · apply (unseen.gate StartGate.enter fun _ => StartGate.state_enter).bind
        intro ticket _
        apply rests_wait
        apply hCancel.bind
        intro cancelled hAnswer
        split
        · rename_i hCut
          apply (unseen.rests_change (f := StartGate.leave ticket)
            fun _ => StartGate.state_leave).bind
          exact fun _ _ => rests_done (hAnswer hCut)
        · exact unseen.rests_startBehindGate

end Unseen

section Ends

variable {others : σ → σ → Prop} {s : σ}

omit [Host σ] in
/-- Nobody has to wait at a free gate. -/
theorem letsIn_of_free (hFree : (lazy.gate.get s).holder = none) : lazy.LetsIn others s := by
  rw [LetsIn, ends_wait_iff_of_ready]
  · exact ends_of_finished rfl
  · rw [lazy.gate.get_set, StartGate.enter, hFree]
    exact decide_eq_true rfl

/-- An instance that is there is given at once. -/
theorem poll_ensureStarted_of_found {started : ι}
    (hFound : (lazy.state s).started? = some started) :
    (lazy.ensureStarted cancel).poll s = (.finished (.ok started), s) := by
  simp only [ensureStarted, bind_eq, pure_eq, poll_observe_andThen, hFound]
  rfl

theorem ends_startBehindGate (hStart : ∀ s, Ends others lazy.start s) :
    Ends others lazy.startBehindGate s := by
  have hUnlessStarted : Ends others lazy.startUnlessStarted s := by
    cases hState : (lazy.state s).started? with
    | some started =>
        have hPoll : lazy.startUnlessStarted.poll s = (.finished (.ok started), s) := by
          simp only [startUnlessStarted, bind_eq, pure_eq, poll_observe_andThen, hState]
          rfl
        exact ends_of_finished hPoll
    | none =>
        have hPoll : lazy.startUnlessStarted.poll s = lazy.start.poll s := by
          simp only [startUnlessStarted, bind_eq, pure_eq, poll_observe_andThen, hState]
        exact ends_of_poll_eq hPoll (hStart s)
  exact hUnlessStarted.andThen fun _ _ _ => ends_of_finished rfl

/-- A caller comes back, with the instance that is there or after its turn. -/
theorem ends_ensureStarted (hStart : ∀ s, Ends others lazy.start s)
    (hTurn : (∀ started, lazy.state s ≠ .started started) → lazy.LetsIn others s) :
    Ends others (lazy.ensureStarted cancel) s := by
  cases hState : (lazy.state s).started? with
  | some started => exact ends_of_finished (poll_ensureStarted_of_found hState)
  | none =>
      have hUnstarted := StartState.started?_eq_none_iff.mp hState
      have hBehind (ticket : Nat) (t : σ) :
          Ends others ((observe cancel).andThen fun cancelled =>
            if cancelled then (lazy.change (StartGate.leave ticket)).andThen fun _ =>
              done (.error .cancelled)
            else lazy.startBehindGate) t := by
        apply ends_act_iff.mpr
        change Ends others (if cancel t then _ else lazy.startBehindGate) t
        split
        · exact ends_of_finished rfl
        · exact ends_startBehindGate hStart
      have hWaits : Ends others
          (Task.wait (fun t => cancel t || (lazy.gate.get t).isTurnOf (lazy.gate.get s).enter.1)
            ((observe cancel).andThen fun cancelled =>
              if cancelled then (lazy.change (StartGate.leave (lazy.gate.get s).enter.1)).andThen
                fun _ => done (.error .cancelled)
              else lazy.startBehindGate)) (lazy.gate.set (lazy.gate.get s).enter.2 s) :=
        (hTurn hUnstarted).wait_of_imp (fun t hReady => by simp [hReady]) (hBehind _)
      cases hCancel : cancel s with
      | true =>
          apply ends_of_finished (s := s) (t := s)
          simp only [ensureStarted, bind_eq, pure_eq, poll_observe_andThen, hState, hCancel]
          rfl
      | false =>
          refine ends_of_poll_eq ?_ hWaits
          simp only [ensureStarted, bind_eq, pure_eq, poll_observe_andThen, hState, hCancel]
          rfl

end Ends

end BusEndpoint.LazyStart
