import BusEndpoint.Proofs.Task.Acting
import Mathlib.Logic.Relation

/-! Tasks that change what is seen of the state in their last poll only. Until
then others may interfere with them whenever they give up control, as long as an
invariant is kept; what the last poll comes to is said of what was seen when that
poll began. -/

namespace BusEndpoint.Task

variable {σ α β γ δ : Type}

/-- The task goes on in the given state, in a poll that began when this was seen.
Nothing of it has changed when the task gives up control, and `ends` holds when it
comes to its end. -/
def ActsLast (invariant : σ → Prop) (view : σ → γ) (ends : γ → α → σ → Prop) :
    Task σ α → γ → σ → Prop
  | done value, seen, s => ends seen value s
  | act update next, seen, s => (next s).ActsLast invariant view ends seen (update s)
  | pause next, seen, s =>
    invariant s ∧ view s = seen ∧
      ∀ t, invariant t → next.ActsLast invariant view ends (view t) t
  | wait ready next, seen, s =>
    invariant s ∧ view s = seen ∧
      ∀ t, invariant t → ready t = true → next.ActsLast invariant view ends (view t) t

/-- A task that changes nothing of what is seen, and answers as said. -/
def Rests (invariant : σ → Prop) (view : σ → γ) (answers : α → Prop) (task : Task σ α) : Prop :=
  ∀ s, invariant s → task.ActsLast invariant view
    (fun seen value t => invariant t ∧ view t = seen ∧ answers value) (view s) s

/-- A change that others may make to what is seen. -/
def SeenBy (others : σ → σ → Prop) (view : σ → γ) (before after : γ) : Prop :=
  ∃ s t, others s t ∧ view s = before ∧ view t = after

theorem eq_of_seenBy {others : σ → σ → Prop} {view : σ → γ} {before after : γ}
    (hView : ∀ s t, others s t → view t = view s)
    (aside : Relation.ReflTransGen (SeenBy others view) before after) : after = before := by
  induction aside with
  | refl => rfl
  | tail _ last ih =>
      obtain ⟨s, t, between, rfl, rfl⟩ := last
      exact (hView s t between).trans ih

variable {invariant : σ → Prop} {view : σ → γ} {ends : γ → α → σ → Prop} {task : Task σ α}
  {seen : γ} {s : σ}

theorem ActsLast.mono {also : γ → α → σ → Prop} (acts : task.ActsLast invariant view ends seen s)
    (hEnds : ∀ seen value s, ends seen value s → also seen value s) :
    task.ActsLast invariant view also seen s := by
  induction task generalizing seen s with
  | done value => exact hEnds _ _ _ acts
  | act update next ih => exact ih s acts
  | pause next ih => exact ⟨acts.1, acts.2.1, fun t hInvariant => ih (acts.2.2 t hInvariant)⟩
  | wait ready next ih =>
      exact ⟨acts.1, acts.2.1, fun t hInvariant hReady => ih (acts.2.2 t hInvariant hReady)⟩

/-- What follows a task goes on in the poll in which the task ends. -/
theorem ActsLast.andThen {follow : α → Task σ β} {after : γ → β → σ → Prop}
    (acts : task.ActsLast invariant view ends seen s)
    (later : ∀ seen value s, ends seen value s →
      (follow value).ActsLast invariant view after seen s) :
    (task.andThen follow).ActsLast invariant view after seen s := by
  induction task generalizing seen s with
  | done value => exact later _ _ _ acts
  | act update next ih => exact ih s acts
  | pause next ih => exact ⟨acts.1, acts.2.1, fun t hInvariant => ih (acts.2.2 t hInvariant)⟩
  | wait ready next ih =>
      exact ⟨acts.1, acts.2.1, fun t hInvariant hReady => ih (acts.2.2 t hInvariant hReady)⟩

/-- After a task that changes nothing the poll may as well begin anew. -/
theorem Rests.andThen {follow : α → Task σ β} {after : γ → β → σ → Prop} {answers : α → Prop}
    (rests : task.Rests invariant view answers) (hInvariant : invariant s)
    (later : ∀ value t, invariant t → answers value →
      (follow value).ActsLast invariant view after (view t) t) :
    (task.andThen follow).ActsLast invariant view after (view s) s := by
  apply (rests s hInvariant).andThen
  rintro _ value t ⟨hInvariant, rfl, hAnswers⟩
  exact later value t hInvariant hAnswers

theorem actsLast_perform_andThen_iff {change : StateM σ α} {follow : α → Task σ β}
    {after : γ → β → σ → Prop} :
    ((perform change).andThen follow).ActsLast invariant view after seen s ↔
      (follow (change s).1).ActsLast invariant view after seen (change s).2 :=
  Iff.rfl

/-- Tasks in sequence that change nothing are one such task. -/
theorem Rests.bind {follow : α → Task σ β} {answers : α → Prop} {also : β → Prop}
    (rests : task.Rests invariant view answers)
    (later : ∀ value, answers value → (follow value).Rests invariant view also) :
    (task.andThen follow).Rests invariant view also :=
  fun _ hInvariant => rests.andThen hInvariant fun value t ht hAnswers => later value hAnswers t ht

theorem rests_done {value : α} {answers : α → Prop} (hAnswers : answers value) :
    (done value : Task σ α).Rests invariant view answers :=
  fun _ hInvariant => ⟨hInvariant, rfl, hAnswers⟩

theorem rests_observe {read : σ → α} {answers : α → Prop}
    (hAnswers : ∀ s, invariant s → answers (read s)) :
    (observe read).Rests invariant view answers :=
  fun s hInvariant => ⟨hInvariant, rfl, hAnswers s hInvariant⟩

theorem rests_wait {ready : σ → Bool} {answers : α → Prop}
    (rests : task.Rests invariant view answers) :
    (wait ready task).Rests invariant view answers :=
  fun _ hInvariant => ⟨hInvariant, rfl, fun t ht _ => rests t ht⟩

/-- A change in one go that is not seen. -/
theorem rests_perform {change : StateM σ α} {answers : α → Prop}
    (hInvariant : ∀ s, invariant s → invariant (change s).2)
    (hView : ∀ s, view (change s).2 = view s)
    (hAnswers : ∀ s, invariant s → answers (change s).1) :
    (perform change).Rests invariant view answers :=
  fun s hs => ⟨hInvariant s hs, hView s, hAnswers s hs⟩

/-- A task none of whose changes is seen. -/
theorem Acts.rests {allowed : σ → σ → Prop} {answers : α → Prop} (acts : task.Acts allowed answers)
    (hInvariant : ∀ s t, allowed s t → invariant s → invariant t)
    (hView : ∀ s t, allowed s t → view t = view s) : task.Rests invariant view answers := by
  suffices hRests : ∀ seen s, invariant s → view s = seen → task.Acts allowed answers →
      task.ActsLast invariant view
        (fun seen value t => invariant t ∧ view t = seen ∧ answers value) seen s from
    fun s hs => hRests (view s) s hs rfl acts
  clear acts
  induction task with
  | done value => exact fun _ _ hs hSeen hAnswers => ⟨hs, hSeen, hAnswers⟩
  | act update next ih =>
      intro seen s hs hSeen acts
      obtain ⟨hUpdate, hRest⟩ := acts s
      exact ih s seen (update s) (hInvariant _ _ hUpdate hs) ((hView _ _ hUpdate).trans hSeen) hRest
  | pause next ih => exact fun _ _ hs hSeen acts => ⟨hs, hSeen, fun t ht => ih _ t ht rfl acts⟩
  | wait ready next ih =>
      exact fun _ _ hs hSeen acts => ⟨hs, hSeen, fun t ht _ => ih _ t ht rfl acts⟩

section Cut

variable {stop : σ → Bool} {answers : α → Prop}

/-- What a task comes to that may be given up. -/
def OrGivenUp (ends : γ → α → σ → Prop) (invariant : σ → Prop) (view : σ → γ) :
    γ → Option α → σ → Prop
  | seen, none, s => invariant s ∧ view s = seen
  | seen, some value, s => ends seen value s

theorem actsLast_unless_stopped {cut : Task σ (Option α)} (hInvariant : invariant s)
    (hView : view s = seen)
    (acts : cut.ActsLast invariant view (OrGivenUp ends invariant view) seen s) :
    (act id fun s => if stop s then done none else cut).ActsLast invariant view
      (OrGivenUp ends invariant view) seen s := by
  rw [ActsLast]
  split
  · exact ⟨hInvariant, hView⟩
  · exact acts

/-- A task that is given up has not begun its last poll. -/
theorem ActsLast.cutAtResumption (acts : task.ActsLast invariant view ends seen s) :
    (task.cutAtResumption stop).ActsLast invariant view (OrGivenUp ends invariant view) seen s := by
  induction task generalizing seen s with
  | done value => exact acts
  | act update next ih => exact ih s acts
  | pause next ih =>
      obtain ⟨hInvariant, hView, later⟩ := acts
      refine ⟨hInvariant, hView, ?_⟩
      intro t ht
      exact actsLast_unless_stopped ht rfl (ih (later t ht))
  | wait ready next ih =>
      obtain ⟨hInvariant, hView, later⟩ := acts
      rw [Task.cutAtResumption, ActsLast]
      split
      · rename_i hReady
        exact ih (hView ▸ later s hInvariant hReady)
      · refine ⟨hInvariant, hView, ?_⟩
        intro t ht
        refine ⟨ht, rfl, ?_⟩
        intro u hu hGo
        rw [ActsLast]
        split
        · exact ⟨hu, rfl⟩
        · rename_i hStop
          exact ih (later u hu (by simpa [hStop] using hGo))

theorem ActsLast.cutBy (hInvariant : invariant s)
    (acts : task.ActsLast invariant view ends (view s) s) :
    (task.cutBy stop).ActsLast invariant view (OrGivenUp ends invariant view) (view s) s :=
  actsLast_unless_stopped hInvariant rfl acts.cutAtResumption

end Cut

/-- A poll in which the task ends changes what is seen as said, and any other poll
does not change it. -/
theorem ActsLast.poll (acts : task.ActsLast invariant view ends seen s) :
    (∃ value t, task.poll s = (.finished value, t) ∧ ends seen value t) ∨
      ∃ rest t, task.poll s = (.suspended rest, t) ∧ invariant t ∧ view t = seen ∧
        ∀ u, invariant u → rest.ActsLast invariant view ends (view u) u := by
  induction task generalizing seen s with
  | done value => exact .inl ⟨value, s, rfl, acts⟩
  | act update next ih => exact ih s acts
  | pause next ih => exact .inr ⟨next, s, rfl, acts⟩
  | wait ready next ih =>
      obtain ⟨hInvariant, hView, later⟩ := acts
      cases hReady : ready s with
      | true =>
          rw [Task.poll, if_pos hReady]
          exact ih (hView ▸ later s hInvariant hReady)
      | false =>
          rw [Task.poll, if_neg (by simp [hReady])]
          refine .inr ⟨_, s, rfl, hInvariant, hView, ?_⟩
          intro u hu
          exact ⟨hu, rfl, later⟩

/-- A whole run changes what is seen as its last poll does. All that has changed before
is the doing of others. -/
theorem ActsLast.runs_aside {others : σ → σ → Prop} {value : α} {t : σ}
    (hInvariant : ∀ s t, others s t → invariant s → invariant t)
    (acts : task.ActsLast invariant view ends seen s) (run : Runs others task s value t) :
    ∃ last, Relation.ReflTransGen (SeenBy others view) seen last ∧ ends last value t := by
  induction run generalizing seen with
  | finished ended =>
      rcases acts.poll with ⟨value, t, hPoll, hEnds⟩ | ⟨rest, t, hPoll, -⟩
      · rw [ended] at hPoll
        cases hPoll
        exact ⟨seen, .refl, hEnds⟩
      · rw [ended] at hPoll
        cases hPoll
  | @resumed task rest s t t' u value gaveUp between later ih =>
      rcases acts.poll with ⟨value, t, hPoll, -⟩ | ⟨rest, t, hPoll, ht, hSeen, hRest⟩
      · rw [gaveUp] at hPoll
        cases hPoll
      · rw [gaveUp] at hPoll
        cases hPoll
        obtain ⟨last, aside, hEnds⟩ := ih (hRest t' (hInvariant _ _ between ht))
        exact ⟨last, .head ⟨_, t', between, hSeen, rfl⟩ aside, hEnds⟩

/-- Others may keep what is seen. -/
theorem ActsLast.runs {others : σ → σ → Prop} {value : α} {t : σ}
    (hInvariant : ∀ s t, others s t → invariant s → invariant t)
    (hView : ∀ s t, others s t → view t = view s)
    (acts : task.ActsLast invariant view ends seen s) (run : Runs others task s value t) :
    ends seen value t := by
  obtain ⟨last, aside, hEnds⟩ := acts.runs_aside hInvariant run
  exact eq_of_seenBy hView aside ▸ hEnds

end BusEndpoint.Task
