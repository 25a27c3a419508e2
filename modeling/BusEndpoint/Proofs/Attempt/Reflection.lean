import BusEndpoint.Attempt
import BusEndpoint.Proofs.Task.Mirror

/-! Attempts on a host beside which something is kept. If the pipeline and the
strategy of an attempt do to the host what other ones do, then the attempt does
to the host what an attempt with those does. -/

namespace BusEndpoint

open BusEndpoint.Task

variable {σ ρ : Type}

/-- A strategy that does to the host what another one does. It opens what belongs
to what the other one opens, and shows engines tokens that belong to each
other. -/
structure TransactionStrategy.Reflects [Host σ]
    (opens : Option (Transaction (σ × ρ)) → Option (Transaction σ) → Prop)
    (shows : TransportToken (σ × ρ) → TransportToken σ → Prop)
    (strategy : TransactionStrategy (σ × ρ)) (mirrored : TransactionStrategy σ)
    (cancel : CancellationToken σ) : Prop where
  create : Mirrors Prod.fst opens (perform strategy.create) (perform mirrored.create)
  token : ∀ {opened transaction}, opens opened transaction →
    Mirrors Prod.fst shows (perform (strategy.token opened)) (perform (mirrored.token transaction))
  complete : ∀ {opened transaction}, opens opened transaction →
    Mirrors Prod.fst Eq (strategy.complete opened fun s => cancel s.1)
      (mirrored.complete transaction cancel)
  discard : ∀ {opened transaction}, opens opened transaction →
    Mirrors Prod.fst Eq (perform (Transaction.discardAny opened))
      (perform (Transaction.discardAny transaction))
  commit : ∀ {opened transaction}, opens opened transaction →
    Mirrors Prod.fst Eq (perform (Transaction.commitAny opened))
      (perform (Transaction.commitAny transaction))

/-- A pipeline that does to the host what another one does, if it is shown a token
that belongs to the other one's. -/
structure Pipeline.Reflects (shows : TransportToken (σ × ρ) → TransportToken σ → Prop)
    (pipeline : Pipeline (σ × ρ)) (mirrored : Pipeline σ) (cancel : CancellationToken σ) :
    Prop where
  onMessage : ∀ (message : InboundMessage) {seen token}, shows seen token →
    Mirrors Prod.fst Eq (pipeline.onMessage (message.context seen) fun s => cancel s.1)
      (mirrored.onMessage (message.context token) cancel)
  onError : ∀ (message : InboundMessage) (failure : Failure) {seen token}, shows seen token →
    Mirrors Prod.fst Eq (pipeline.onError (message.errorContext failure seen) fun s => cancel s.1)
      (mirrored.onError (message.errorContext failure token) cancel)

variable [Host σ] {cancel : CancellationToken σ}
  {opens : Option (Transaction (σ × ρ)) → Option (Transaction σ) → Prop}
  {shows : TransportToken (σ × ρ) → TransportToken σ → Prop}
  {strategy : TransactionStrategy (σ × ρ)} {mirrored : TransactionStrategy σ}
  {opened : Option (Transaction (σ × ρ))} {transaction : Option (Transaction σ)}

theorem Task.mirrors_report (diagnostic : Diagnostic) :
    Mirrors Prod.fst Eq (perform (Host.note diagnostic) : Task (σ × ρ) Unit)
      (perform (Host.note diagnostic)) :=
  mirrors_perform (fun _ => rfl) fun _ => rfl

theorem TransactionStrategy.Reflects.settle
    (reflects : strategy.Reflects opens shows mirrored cancel) (hOpens : opens opened transaction) :
    Mirrors Prod.fst Eq (strategy.settle opened fun s => cancel s.1)
      (mirrored.settle transaction cancel) := by
  apply (reflects.complete hOpens).bind
  intro completion
  cases completion with
  | error error =>
      apply (reflects.discard hOpens).bind
      intro _
      exact .done rfl
  | ok value => exact reflects.commit hOpens

namespace Pipeline.Reflects

variable {pipeline : Pipeline (σ × ρ)} {other : Pipeline σ}
  (pipelines : pipeline.Reflects shows other cancel)
  (strategies : strategy.Reflects opens shows mirrored cancel)
include pipelines strategies

theorem recover (message : InboundMessage) (failure : Failure) :
    Mirrors Prod.fst Eq (pipeline.recover message failure strategy fun s => cancel s.1)
      (other.recover message failure mirrored cancel) := by
  refine (mirrors_report _).bind fun _ => ?_
  refine strategies.create.andThen fun opened transaction hOpens => ?_
  refine (strategies.token hOpens).andThen fun seen token hShows => ?_
  apply (pipelines.onError message failure hShows).bind
  intro answer
  cases answer with
  | error error =>
      refine (mirrors_report _).bind fun _ => ?_
      exact (strategies.discard hOpens).bind fun _ => .done rfl
  | ok verdict =>
      cases verdict with
      | retryRequired =>
          refine (mirrors_report _).bind fun _ => ?_
          exact (strategies.discard hOpens).bind fun _ => .done rfl
      | handled =>
          apply (strategies.settle hOpens).bind
          intro settled
          cases settled with
          | error error => exact .done rfl
          | ok value => exact (mirrors_report _).bind fun _ => .done rfl

theorem conclude (message : InboundMessage) (hOpens : opens opened transaction)
    (ended : Option (Except Failure Unit)) :
    Mirrors Prod.fst Eq (pipeline.conclude message strategy (fun s => cancel s.1) opened ended)
      (other.conclude message mirrored cancel transaction ended) := by
  rcases ended with _ | ⟨failure | value⟩
  · exact (strategies.discard hOpens).bind fun _ => .done rfl
  · refine (strategies.discard hOpens).bind fun _ => ?_
    split
    · exact .done rfl
    · exact pipelines.recover strategies message failure
  · apply (strategies.settle hOpens).bind
    intro settled
    cases settled with
    | error error => exact .done rfl
    | ok value => exact (mirrors_report _).bind fun _ => .done rfl

theorem attempt (message : InboundMessage) :
    Mirrors Prod.fst Eq (pipeline.attempt message strategy fun s => cancel s.1)
      (other.attempt message mirrored cancel) := by
  refine mirrors_ite (.done rfl) ?_
  refine (mirrors_report _).bind fun _ => ?_
  refine strategies.create.andThen fun opened transaction hOpens => ?_
  refine (strategies.token hOpens).andThen fun seen token hShows => ?_
  apply ((pipelines.onMessage message hShows).cutBy cancel).bind
  intro ended
  exact pipelines.conclude strategies message hOpens ended

end Pipeline.Reflects

/-- The answer to a call is that of its attempt. -/
theorem Binding.mirrors_process_of_attempt {binding : Binding (σ × ρ)} {other : Binding σ}
    {message : InboundMessage}
    (mirrors : Mirrors Prod.fst Eq (binding.attempt message strategy fun s => cancel s.1)
      (other.attempt message mirrored cancel)) :
    Mirrors Prod.fst Eq (binding.process message strategy fun s => cancel s.1)
      (other.process message mirrored cancel) := by
  apply mirrors.bind
  intro outcome
  rcases outcome with error | _ | _ | cause <;> exact .done rfl

end BusEndpoint
