import BusEndpoint.Proofs.Attempt.Ends
import BusEndpoint.Proofs.Attempt.Protocol
import BusEndpoint.Proofs.Attempt.Reflection

/-! Observing changes nothing. A call that is observed does to the host what the
call itself does, gives up control where the call does, and comes to the same
end, so that what is shown of journals is said of all runs of the call. -/

namespace BusEndpoint

open BusEndpoint.Task

variable {σ α : Type}

/-- What an observed strategy opens, beside what the strategy itself opens. -/
def Transaction.Observes (observed : Option (Transaction (σ × Journal σ)))
    (transaction : Option (Transaction σ)) : Prop :=
  ∃ handle, observed = transaction.map fun t => t.observed handle

theorem Task.mirrors_noting (task : Task σ α) : Mirrors Prod.fst Eq task.noting task := by
  induction task with
  | done value => exact .done rfl
  | act update next ih => exact .act (fun _ => rfl) fun state => ih state.1
  | pause next ih => exact .pause ih
  | wait ready next ih => exact .wait (fun _ => rfl) ih

/-- To note something is to do nothing to the host. -/
theorem Task.mirrors_note {β : Type} {agree : α → β → Prop} {event : AttemptEvent σ}
    {next : Unit → Task (σ × Journal σ) α} {mirrored : Task σ β}
    (later : Mirrors Prod.fst agree (next ()) mirrored) :
    Mirrors Prod.fst agree ((note event).andThen next) mirrored :=
  .aside (fun _ => rfl) fun _ => later

/-- A part that is called and whose answer is noted. -/
theorem Task.mirrors_noting_note (answered : α → AttemptEvent σ) (task : Task σ α) :
    Mirrors Prod.fst Eq
      (task.noting.andThen fun result => (note (answered result)).andThen fun _ => done result)
      task := by
  conv => rhs; rw [← andThen_done task]
  apply (mirrors_noting task).bind
  intro result
  exact mirrors_note (.done rfl)

section Calls

variable {cancel : CancellationToken σ} {observed : Option (Transaction (σ × Journal σ))}
  {transaction : Option (Transaction σ)}

theorem TransactionStrategy.mirrors_create (strategy : TransactionStrategy σ)
    (cancel : CancellationToken σ) :
    Mirrors Prod.fst Transaction.Observes (perform (strategy.observed cancel).create)
      (perform strategy.create) :=
  mirrors_perform (fun _ => ⟨_, rfl⟩) fun _ => rfl

theorem TransactionStrategy.mirrors_token (strategy : TransactionStrategy σ)
    (cancel : CancellationToken σ) (observes : Transaction.Observes observed transaction) :
    Mirrors Prod.fst (fun seen token => seen = token.alongside)
      (perform ((strategy.observed cancel).token observed)) (perform (strategy.token transaction)) := by
  obtain ⟨handle, rfl⟩ := observes
  cases transaction with
  | none => exact mirrors_perform (fun _ => rfl) fun _ => rfl
  | some transaction => exact mirrors_perform (fun _ => rfl) fun _ => rfl

theorem TransactionStrategy.mirrors_complete (strategy : TransactionStrategy σ)
    (observes : Transaction.Observes observed transaction) :
    Mirrors Prod.fst Eq ((strategy.observed cancel).complete observed cancel.alongside)
      (strategy.complete transaction cancel) := by
  obtain ⟨handle, rfl⟩ := observes
  have hForgetful :
      (transaction.map fun t => t.observed handle).map Transaction.forgetful = transaction := by
    cases transaction <;> rfl
  refine .aside (fun _ => rfl) fun state => mirrors_note ?_
  rw [hForgetful]
  exact mirrors_noting_note _ _

theorem Pipeline.mirrors_onMessage (pipeline : Pipeline σ) (message : InboundMessage)
    (token : TransportToken σ) :
    Mirrors Prod.fst Eq
      (pipeline.observed.onMessage (message.context token.alongside) cancel.alongside)
      (pipeline.onMessage (message.context token) cancel) := by
  refine mirrors_note ?_
  rw [InboundMessage.forgetful_context]
  exact mirrors_noting_note _ _

theorem Pipeline.mirrors_onError (pipeline : Pipeline σ) (message : InboundMessage)
    (failure : Failure) (token : TransportToken σ) :
    Mirrors Prod.fst Eq
      (pipeline.observed.onError (message.errorContext failure token.alongside) cancel.alongside)
      (pipeline.onError (message.errorContext failure token) cancel) := by
  refine mirrors_note ?_
  rw [InboundMessage.forgetful_errorContext]
  exact mirrors_noting_note _ _

end Calls

section Attempts

variable [Host σ] {observed : Option (Transaction (σ × Journal σ))}
  {transaction : Option (Transaction σ)}

theorem Transaction.mirrors_discardAny (observes : Transaction.Observes observed transaction) :
    Mirrors Prod.fst Eq (perform (Transaction.discardAny observed))
      (perform (Transaction.discardAny transaction)) := by
  obtain ⟨handle, rfl⟩ := observes
  cases transaction with
  | none => exact mirrors_perform (fun _ => rfl) fun _ => rfl
  | some transaction => exact mirrors_perform (fun _ => rfl) fun _ => rfl

theorem Transaction.mirrors_commitAny (observes : Transaction.Observes observed transaction) :
    Mirrors Prod.fst Eq (perform (Transaction.commitAny observed))
      (perform (Transaction.commitAny transaction)) := by
  obtain ⟨handle, rfl⟩ := observes
  cases transaction with
  | none => exact mirrors_perform (fun _ => rfl) fun _ => rfl
  | some transaction =>
      refine mirrors_perform ?_ ?_
      · intro state
        obtain ⟨answers, hCommit, -⟩ := transaction.commit_observed handle state.1 state.2
        exact congrArg Prod.fst hCommit
      · intro state
        obtain ⟨answers, hCommit, -⟩ := transaction.commit_observed handle state.1 state.2
        exact congrArg (fun answered => answered.2.1) hCommit

theorem TransactionStrategy.reflects_observed (strategy : TransactionStrategy σ)
    (cancel : CancellationToken σ) :
    (strategy.observed cancel).Reflects Transaction.Observes
      (fun seen token => seen = token.alongside) strategy cancel where
  create := strategy.mirrors_create cancel
  token := strategy.mirrors_token cancel
  complete := strategy.mirrors_complete
  discard := Transaction.mirrors_discardAny
  commit := Transaction.mirrors_commitAny

omit [Host σ] in
theorem Pipeline.reflects_observed (pipeline : Pipeline σ) (cancel : CancellationToken σ) :
    pipeline.observed.Reflects (fun seen token => seen = token.alongside) pipeline cancel where
  onMessage := by
    rintro message _ token rfl
    exact pipeline.mirrors_onMessage message token
  onError := by
    rintro message failure _ token rfl
    exact pipeline.mirrors_onError message failure token

namespace Binding

theorem mirrors_attempt (binding : Binding σ) (message : InboundMessage)
    (strategy : TransactionStrategy σ) (cancel : CancellationToken σ) :
    Mirrors Prod.fst Eq
      (binding.observed.attempt message (strategy.observed cancel) cancel.alongside)
      (binding.attempt message strategy cancel) := by
  cases binding with
  | unbound => exact .done rfl
  | sendOnly => exact .done rfl
  | receiving pipeline =>
      exact (pipeline.reflects_observed cancel).attempt (strategy.reflects_observed cancel) message

theorem mirrors_process (binding : Binding σ) (message : InboundMessage)
    (strategy : TransactionStrategy σ) (cancel : CancellationToken σ) :
    Mirrors Prod.fst Eq
      (binding.observed.process message (strategy.observed cancel) cancel.alongside)
      (binding.process message strategy cancel) :=
  mirrors_process_of_attempt (binding.mirrors_attempt message strategy cancel)

end Binding

end Attempts

/-- A task has exactly the runs of those tasks that observe it, whatever their
journals are. -/
theorem Task.Mirrors.runs_iff {others : σ → σ → Prop} {cancel : CancellationToken σ}
    {task : Task (σ × Journal σ) α} {mirrored : Task σ α} (mirrors : Mirrors Prod.fst Eq task mirrored)
    {s t : σ} {value : α} :
    Runs others mirrored s value t ↔
      ∃ journal, Runs (Journal.Between others cancel) task (s, []) value (t, journal) := by
  constructor
  · intro run
    have hAround (state : σ × Journal σ) (u : σ) (between : others state.1 u) :
        ∃ after, Journal.Between others cancel state after ∧ after.1 = u :=
      ⟨_, Journal.between_intro between, rfl⟩
    obtain ⟨_, ⟨u, journal⟩, rfl, rfl, observed⟩ := mirrors.runs_of hAround (s := (s, [])) run
    exact ⟨journal, observed⟩
  · intro hObserved
    obtain ⟨journal, observed⟩ := hObserved
    obtain ⟨_, rfl, run⟩ := mirrors.runs (fun _ _ between => between.1) observed
    exact run

namespace Binding

variable [Host σ] {others : σ → σ → Prop} {binding : Binding σ} {message : InboundMessage}
  {strategy : TransactionStrategy σ} {cancel : CancellationToken σ} {s t : σ}

/-- The runs of an attempt are those that are observed. -/
theorem runs_attempt_iff {outcome : Except BusError AttemptOutcome} :
    Runs others (binding.attempt message strategy cancel) s outcome t ↔
      ∃ journal, binding.Attempts others message strategy cancel s journal outcome t :=
  (binding.mirrors_attempt message strategy cancel).runs_iff

/-- The runs in which a message is processed are those that are observed. -/
theorem runs_process_iff {result : Except BusError Unit} :
    Runs others (binding.process message strategy cancel) s result t ↔
      ∃ journal, binding.Processes others message strategy cancel s journal result t :=
  (binding.mirrors_process message strategy cancel).runs_iff

end Binding

end BusEndpoint
