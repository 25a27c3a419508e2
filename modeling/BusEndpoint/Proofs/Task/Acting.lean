import BusEndpoint.Proofs.Task.Frame
import BusEndpoint.Proofs.Task.Runs

/-! Tasks all of whose changes are of some kind. A task is asked for its single
changes; what it does between two points at which it gives up control, and what
it does together with others who make such changes only, follows. -/

namespace BusEndpoint.Task

variable {σ α β γ : Type} {allowed : σ → σ → Prop} {answers : α → Prop} {task : Task σ α}

/-- Every single change that the task makes is allowed, and its answer is as
said. -/
def Acts (allowed : σ → σ → Prop) (answers : α → Prop) : Task σ α → Prop
  | done value => answers value
  | act update next => ∀ s, allowed s (update s) ∧ (next s).Acts allowed answers
  | pause next => next.Acts allowed answers
  | wait _ next => next.Acts allowed answers

theorem acts_done {value : α} (hAnswers : answers value) : (done value).Acts allowed answers :=
  hAnswers

theorem acts_perform {change : StateM σ α} (hAllowed : ∀ s, allowed s (change s).2)
    (hAnswers : ∀ s, answers (change s).1) : (perform change).Acts allowed answers :=
  fun s => ⟨hAllowed s, hAnswers s⟩

theorem acts_perform_andThen {change : StateM σ β} {follow : β → Task σ α}
    (hAllowed : ∀ s, allowed s (change s).2) (later : ∀ value, (follow value).Acts allowed answers) :
    ((perform change).andThen follow).Acts allowed answers :=
  fun s => ⟨hAllowed s, later _⟩

/-- What is read of the state may be anything. -/
theorem acts_observe_andThen {read : σ → β} {follow : β → Task σ α} (hRefl : ∀ s, allowed s s)
    (later : ∀ value, (follow value).Acts allowed answers) :
    ((observe read).andThen follow).Acts allowed answers :=
  fun s => ⟨hRefl s, later _⟩

/-- A task that leaves alone what is seen makes no change that is seen. -/
theorem Keeps.acts {view : σ → γ} (keeps : task.Keeps view) :
    task.Acts (fun s t => view t = view s) fun _ => True := by
  induction task with
  | done value => trivial
  | act update next ih => exact fun s => ⟨(keeps s).1, ih s (keeps s).2⟩
  | pause next ih => exact ih keeps
  | wait ready next ih => exact ih keeps

namespace Acts

theorem mono {also : α → Prop} (acts : task.Acts allowed answers)
    (hAnswers : ∀ value, answers value → also value) : task.Acts allowed also := by
  induction task with
  | done value => exact hAnswers value acts
  | act update next ih => exact fun s => ⟨(acts s).1, ih s (acts s).2⟩
  | pause next ih => exact ih acts
  | wait ready next ih => exact ih acts

/-- A kind of changes may be enlarged. -/
theorem widen {wide : σ → σ → Prop} (acts : task.Acts allowed answers)
    (hWide : ∀ s t, allowed s t → wide s t) : task.Acts wide answers := by
  induction task with
  | done value => exact acts
  | act update next ih => exact fun s => ⟨hWide _ _ (acts s).1, ih s (acts s).2⟩
  | pause next ih => exact ih acts
  | wait ready next ih => exact ih acts

theorem bind {follow : α → Task σ β} {also : β → Prop} (acts : task.Acts allowed answers)
    (later : ∀ value, answers value → (follow value).Acts allowed also) :
    (task.andThen follow).Acts allowed also := by
  induction task with
  | done value => exact later value acts
  | act update next ih => exact fun s => ⟨(acts s).1, ih s (acts s).2⟩
  | pause next ih => exact ih acts
  | wait ready next ih => exact ih acts

/-- Work that is given up in some states, in which it answers at once. -/
theorem givenUp {stop : σ → Bool} {value : α} (hRefl : ∀ s, allowed s s) (hAnswers : answers value)
    (acts : task.Acts allowed answers) :
    (act id fun s => if stop s then done value else task).Acts allowed answers := by
  intro s
  refine ⟨hRefl s, ?_⟩
  dsimp only
  split
  · exact acts_done hAnswers
  · exact acts

/-- A task that is given up has made no other changes than it would have made. -/
theorem cutAtResumption {stop : σ → Bool} (hRefl : ∀ s, allowed s s)
    (acts : task.Acts allowed answers) :
    (task.cutAtResumption stop).Acts allowed
      fun cut => ∀ value, cut = some value → answers value := by
  induction task with
  | done value =>
      rintro _ ⟨⟩
      exact acts
  | act update next ih => exact fun s => ⟨(acts s).1, ih s (acts s).2⟩
  | pause next ih => exact (ih acts).givenUp hRefl nofun
  | wait ready next ih =>
      intro s
      refine ⟨hRefl s, ?_⟩
      dsimp only
      split
      · exact ih acts
      · exact (ih acts).givenUp hRefl nofun

theorem cutBy {stop : σ → Bool} (hRefl : ∀ s, allowed s s) (acts : task.Acts allowed answers) :
    (task.cutBy stop).Acts allowed fun cut => ∀ value, cut = some value → answers value :=
  (acts.cutAtResumption hRefl).givenUp hRefl nofun

section Polls

variable (hRefl : ∀ s, allowed s s) (hTrans : ∀ s t u, allowed s t → allowed t u → allowed s u)
include hRefl hTrans

/-- The changes of one poll make one change that is allowed. -/
theorem poll (acts : task.Acts allowed answers) (s : σ) :
    allowed s (task.poll s).2 ∧
      (∀ value, (task.poll s).1 = .finished value → answers value) ∧
      ∀ rest, (task.poll s).1 = .suspended rest → rest.Acts allowed answers := by
  induction task generalizing s with
  | done value =>
      refine ⟨hRefl s, ?_, nofun⟩
      rintro _ ⟨⟩
      exact acts
  | act update next ih =>
      obtain ⟨hAllowed, hFinished, hSuspended⟩ := ih s (acts s).2 (update s)
      exact ⟨hTrans _ _ _ (acts s).1 hAllowed, hFinished, hSuspended⟩
  | pause next ih =>
      refine ⟨hRefl s, nofun, ?_⟩
      rintro _ ⟨⟩
      exact acts
  | wait ready next ih =>
      rw [Task.poll]
      split
      · exact ih acts s
      · refine ⟨hRefl s, ?_, ?_⟩
        · rintro _ ⟨⟩
        · rintro _ ⟨⟩
          exact acts

/-- So do those of a whole run, if others make allowed changes only. -/
theorem runs {others : σ → σ → Prop} {value : α} {s t : σ}
    (hOthers : ∀ s t, others s t → allowed s t) (acts : task.Acts allowed answers)
    (run : Runs others task s value t) : allowed s t ∧ answers value := by
  induction run with
  | @finished task s t value ended =>
      obtain ⟨hAllowed, hFinished, -⟩ := acts.poll hRefl hTrans s
      rw [ended] at hAllowed hFinished
      exact ⟨hAllowed, hFinished value rfl⟩
  | @resumed task rest s t t' u value gaveUp between later ih =>
      obtain ⟨hAllowed, -, hSuspended⟩ := acts.poll hRefl hTrans s
      rw [gaveUp] at hAllowed hSuspended
      obtain ⟨hLater, hAnswers⟩ := ih (hSuspended rest rfl)
      exact ⟨hTrans _ _ _ hAllowed (hTrans _ _ _ (hOthers _ _ between) hLater), hAnswers⟩

/-- And so do those up to any of its polls. -/
theorem visits {others : σ → σ → Prop} {s t : σ} (hOthers : ∀ s t, others s t → allowed s t)
    (acts : task.Acts allowed answers) (visited : Visits others task s t) : allowed s t := by
  induction visited with
  | @polled task s t progress hPoll =>
      obtain ⟨hAllowed, -⟩ := acts.poll hRefl hTrans s
      rwa [hPoll] at hAllowed
  | @resumed task rest s t t' u gaveUp between later ih =>
      obtain ⟨hAllowed, -, hSuspended⟩ := acts.poll hRefl hTrans s
      rw [gaveUp] at hAllowed hSuspended
      exact hTrans _ _ _ hAllowed
        (hTrans _ _ _ (hOthers _ _ between) (ih (hSuspended rest rfl)))

/-- A run of tasks in sequence makes allowed changes until the first one has come
to its end. -/
theorem runs_andThen {others : σ → σ → Prop} {follow : α → Task σ β} {result : β} {s u : σ}
    (hOthers : ∀ s t, others s t → allowed s t) (acts : task.Acts allowed answers)
    (run : Runs others (task.andThen follow) s result u) :
    ∃ value t, answers value ∧ allowed s t ∧ Runs others (follow value) t result u := by
  obtain ⟨value, t, first, second⟩ := runs_andThen_iff.mp run
  obtain ⟨hAllowed, hAnswers⟩ := acts.runs hRefl hTrans hOthers first
  exact ⟨value, t, hAnswers, hAllowed, second⟩

end Polls

end Acts

end BusEndpoint.Task
