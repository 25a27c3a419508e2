import BusEndpoint.Attempt
import BusEndpoint.Proofs.Task.Ends
import BusEndpoint.Transaction.Recording

/-! Calls come back. An attempt waits for nothing but the parts that it calls, so
that it comes to its end if they do. A message pipeline that never ends need not
be waited for once the call is cancelled. -/

namespace BusEndpoint

open BusEndpoint.Task

variable {σ : Type} {others : σ → σ → Prop} {strategy : TransactionStrategy σ}
  {cancel : CancellationToken σ} {s : σ}

/-- The parts of a call come to their end whenever they are called; the message
pipeline is called under the token. -/
structure Pipeline.PartsEnd (others : σ → σ → Prop) (pipeline : Pipeline σ)
    (strategy : TransactionStrategy σ) (cancel : CancellationToken σ) : Prop where
  message : ∀ context s, Ends others ((pipeline.onMessage context cancel).cutBy cancel) s
  error : ∀ context s, Ends others (pipeline.onError context cancel) s
  completion : ∀ transaction s, Ends others (strategy.complete transaction cancel) s

namespace Pipeline

variable {pipeline : Pipeline σ}

/-- The message pipeline ends under the token if it would end without one. -/
theorem partsEnd_of_ends (message : ∀ context s, Ends others (pipeline.onMessage context cancel) s)
    (error : ∀ context s, Ends others (pipeline.onError context cancel) s)
    (completion : ∀ transaction s, Ends others (strategy.complete transaction cancel) s) :
    pipeline.PartsEnd others strategy cancel where
  message := by
    intro context s
    exact (message context s).cutBy
  error := error
  completion := completion

/-- Whatever the message pipeline does, it ends if the call has been cancelled
whenever it is resumed. -/
theorem partsEnd_of_cancelled (cancelled : ∀ s t, others s t → cancel t = true)
    (error : ∀ context s, Ends others (pipeline.onError context cancel) s)
    (completion : ∀ transaction s, Ends others (strategy.complete transaction cancel) s) :
    pipeline.PartsEnd others strategy cancel where
  message := by
    intro context s
    exact ends_cutBy cancelled _ s
  error := error
  completion := completion

end Pipeline

theorem RecordingTransactions.complete_ends (transactions : RecordingTransactions σ)
    (transaction : Option (Transaction σ)) (s : σ) :
    Ends others (transactions.complete transaction) s := by
  cases transaction with
  | none => exact ends_of_finished rfl
  | some transaction => exact ends_of_finished rfl

variable [Host σ] {pipeline : Pipeline σ} {message : InboundMessage}

theorem TransactionStrategy.settle_ends
    (completion : ∀ transaction s, Ends others (strategy.complete transaction cancel) s)
    (transaction : Option (Transaction σ)) (s : σ) :
    Ends others (strategy.settle transaction cancel) s := by
  apply (completion transaction s).andThen
  intro completed t run
  cases completed with
  | error error => exact ends_of_finished rfl
  | ok value => exact ends_of_finished rfl

theorem Task.ends_event (severity : Severity) (fields : List (String × FieldValue)) (text : String)
    (s : σ) : Ends others (event severity fields text) s :=
  ends_of_finished rfl

namespace Pipeline

theorem PartsEnd.recover (parts : pipeline.PartsEnd others strategy cancel)
    (message : InboundMessage) (failure : Failure) (s : σ) :
    Ends others (pipeline.recover message failure strategy cancel) s := by
  apply (ends_event _ _ _ s).andThen
  intro _ s _
  apply (ends_perform _ s).andThen
  intro transaction s _
  apply (ends_perform _ s).andThen
  intro token s _
  apply (parts.error _ s).andThen
  intro answer s _
  cases answer with
  | error error =>
      apply (ends_event _ _ _ s).andThen
      intro _ _ _
      exact ends_of_finished rfl
  | ok verdict =>
      cases verdict with
      | retryRequired =>
          apply (ends_event _ _ _ s).andThen
          intro _ _ _
          exact ends_of_finished rfl
      | handled =>
          apply (TransactionStrategy.settle_ends parts.completion transaction s).andThen
          intro settled _ _
          cases settled with
          | error error => exact ends_of_finished rfl
          | ok value => exact ends_of_finished rfl

theorem PartsEnd.conclude (parts : pipeline.PartsEnd others strategy cancel)
    (message : InboundMessage) (transaction : Option (Transaction σ))
    (ended : Option (Except Failure Unit)) (s : σ) :
    Ends others (pipeline.conclude message strategy cancel transaction ended) s := by
  rcases ended with _ | ⟨failure | value⟩
  · exact ends_of_finished rfl
  · apply (ends_perform _ s).andThen
    intro _ s _
    split
    · exact ends_of_finished rfl
    · exact parts.recover message failure s
  · apply (TransactionStrategy.settle_ends parts.completion transaction s).andThen
    intro settled _ _
    cases settled with
    | error error => exact ends_of_finished rfl
    | ok value => exact ends_of_finished rfl

/-- A cancelled call comes back at once, and any other one if its parts do. -/
theorem attempt_ends
    (parts : cancel s = true ∨ pipeline.PartsEnd others strategy cancel) :
    Ends others (pipeline.attempt message strategy cancel) s := by
  apply ends_unless_stopped
  intro hCancel
  have parts : pipeline.PartsEnd others strategy cancel := by simpa [hCancel] using parts
  apply (ends_event _ _ _ s).andThen
  intro _ s _
  apply (ends_perform _ s).andThen
  intro transaction s _
  apply (ends_perform _ s).andThen
  intro token s _
  apply (parts.message _ s).andThen
  intro ended s _
  exact parts.conclude message transaction ended s

end Pipeline

namespace Binding

/-- A call with a message comes back, as one attempt and as one to process the
message. -/
structure ComesBack (others : σ → σ → Prop) (binding : Binding σ) (message : InboundMessage)
    (strategy : TransactionStrategy σ) (cancel : CancellationToken σ) (s : σ) : Prop where
  attempt : Ends others (binding.attempt message strategy cancel) s
  process : Ends others (binding.process message strategy cancel) s

theorem comesBack (parts : cancel s = true ∨ pipeline.PartsEnd others strategy cancel) :
    (receiving pipeline).ComesBack others message strategy cancel s := by
  have attempt : Ends others ((receiving pipeline).attempt message strategy cancel) s :=
    Pipeline.attempt_ends parts
  refine ⟨attempt, ?_⟩
  apply attempt.andThen
  intro outcome _ _
  rcases outcome with error | _ | _ | cause
  · exact ends_of_finished rfl
  · exact ends_of_finished rfl
  · exact ends_of_finished rfl
  · exact ends_of_finished rfl

end Binding

end BusEndpoint
