import BusEndpoint.Task

/-! Tasks that leave a part of the state alone. What they do to the rest, and
where they give up control, is not looked at. -/

namespace BusEndpoint.Task

variable {σ τ α β : Type}

/-- The task never changes what is seen of the state. -/
def Keeps (view : σ → β) : Task σ α → Prop
  | done _ => True
  | act update next => ∀ s, view (update s) = view s ∧ (next s).Keeps view
  | pause next => next.Keeps view
  | wait _ next => next.Keeps view

/-- A poll changes nothing of what is seen, and what is left to be done will not
either. -/
theorem Keeps.poll {view : σ → β} {task : Task σ α} (keeps : task.Keeps view) (s : σ) :
    view (task.poll s).2 = view s ∧
      ∀ rest, (task.poll s).1 = .suspended rest → rest.Keeps view := by
  induction task generalizing s with
  | done value => exact ⟨rfl, nofun⟩
  | act update next ih =>
      obtain ⟨hView, hRest⟩ := ih s (keeps s).2 (update s)
      exact ⟨hView.trans (keeps s).1, hRest⟩
  | pause next ih =>
      refine ⟨rfl, ?_⟩
      rintro rest ⟨⟩
      exact keeps
  | wait ready next ih =>
      rw [Task.poll]
      split
      · exact ih keeps s
      · refine ⟨rfl, ?_⟩
        rintro rest ⟨⟩
        exact keeps

/-- A task on one part of a state leaves the other part alone. -/
theorem keeps_within {view : τ → β} {get : τ → σ} {set : σ → τ → τ}
    (hSet : ∀ s t, view (set s t) = view t) (task : Task σ α) :
    (task.within get set).Keeps view := by
  induction task with
  | done value => trivial
  | act update next ih => exact fun t => ⟨hSet _ t, ih (get t)⟩
  | pause next ih => exact ih
  | wait ready next ih => exact ih

theorem poll_observe_andThen {read : σ → α} {follow : α → Task σ β} {s : σ} :
    ((observe read).andThen follow).poll s = (follow (read s)).poll s :=
  rfl

/-- A task that is not given up when it is started goes on until it is resumed. -/
theorem poll_cutBy_andThen {stop : σ → Bool} {task : Task σ α} {follow : Option α → Task σ β}
    {s : σ} :
    ((task.cutBy stop).andThen follow).poll s =
      if stop s then (follow none).poll s
      else ((task.cutAtResumption stop).andThen follow).poll s := by
  change ((if stop s then done none else task.cutAtResumption stop).andThen follow).poll s = _
  split <;> rfl

end BusEndpoint.Task
