import BusEndpoint.Proofs.Task.Runs

/-! Tasks that come to their end. A task that waits is resumed as long as it
waits, and may be left waiting for ever; a task ends if there is no such run,
whatever others do to the state in between. -/

namespace BusEndpoint.Task

variable {σ α β : Type} {others : σ → σ → Prop} {s : σ}

/-- Whatever others do, the task gives up control only finitely often. -/
inductive Ends (others : σ → σ → Prop) : Task σ α → σ → Prop where
  | polled {task : Task σ α} {s : σ}
      (resumed : ∀ rest t t', task.poll s = (.suspended rest, t) → others t t' →
        Ends others rest t') : Ends others task s

theorem ends_of_finished {task : Task σ α} {value : α} {t : σ}
    (finished : task.poll s = (.finished value, t)) : Ends others task s := by
  constructor
  intro rest u u' gaveUp
  rw [finished] at gaveUp
  cases gaveUp

/-- Whether a task ends depends on its first poll only. -/
theorem ends_of_poll_eq {first second : Task σ α} {t : σ} (same : first.poll s = second.poll t)
    (ends : Ends others second t) : Ends others first s := by
  cases ends with
  | polled resumed =>
      constructor
      intro rest u u' gaveUp between
      exact resumed rest u u' (same.symm.trans gaveUp) between

theorem ends_act_iff {update : σ → σ} {next : σ → Task σ α} :
    Ends others (act update next) s ↔ Ends others (next s) (update s) :=
  ⟨ends_of_poll_eq rfl, ends_of_poll_eq rfl⟩

theorem ends_pause_iff {next : Task σ α} :
    Ends others (pause next) s ↔ ∀ t, others s t → Ends others next t := by
  constructor
  · intro ends t between
    cases ends with
    | polled resumed => exact resumed next s t rfl between
  · intro ends
    constructor
    intro rest t t' gaveUp between
    cases gaveUp
    exact ends t' between

theorem ends_iff_of_suspended {task rest : Task σ α} {t : σ}
    (gaveUp : task.poll s = (.suspended rest, t)) :
    Ends others task s ↔ ∀ t', others t t' → Ends others rest t' := by
  have same : task.poll s = (pause rest).poll t := gaveUp
  rw [← ends_pause_iff]
  exact ⟨ends_of_poll_eq same.symm, ends_of_poll_eq same⟩

theorem ends_wait_iff_of_ready {ready : σ → Bool} {next : Task σ α} (isReady : ready s = true) :
    Ends others (wait ready next) s ↔ Ends others next s := by
  have same : (wait ready next).poll s = next.poll s := by simp [poll, isReady]
  exact ⟨ends_of_poll_eq same.symm, ends_of_poll_eq same⟩

theorem ends_wait_iff_of_not_ready {ready : σ → Bool} {next : Task σ α}
    (notReady : ready s = false) :
    Ends others (wait ready next) s ↔ ∀ t, others s t → Ends others (wait ready next) t := by
  have gaveUp : (wait ready next).poll s = (.suspended (wait ready next), s) := by
    simp [poll, notReady]
  rw [ends_iff_of_suspended gaveUp]

/-- Whoever waits for less, and then comes to its end, does not wait for ever either. -/
theorem Ends.wait_of_imp {ready also : σ → Bool} {next : Task σ α}
    (hReady : ∀ s, ready s = true → also s = true) (hNext : ∀ s, Ends others next s)
    (ends : Ends others (Task.wait ready (done ())) s) : Ends others (Task.wait also next) s := by
  generalize hTask : Task.wait ready (done ()) = task at ends
  induction ends with
  | @polled task s resumed ih =>
      subst hTask
      cases hAlso : also s with
      | true => exact (ends_wait_iff_of_ready hAlso).mpr (hNext s)
      | false =>
          have hNot : ready s = false := by
            cases hThere : ready s with
            | true => exact absurd (hReady s hThere) (by simp [hAlso])
            | false => rfl
          apply (ends_wait_iff_of_not_ready hAlso).mpr
          intro t between
          exact ih _ s t (by simp [poll, hNot]) between rfl

/-- A task that ends has a run, if others always leave some state behind. -/
theorem Ends.runs {task : Task σ α} (hOthers : ∀ s, ∃ t, others s t) (ends : Ends others task s) :
    ∃ value t, Runs others task s value t := by
  induction ends with
  | @polled task s resumed ih =>
      rcases hPoll : task.poll s with ⟨value | rest, t⟩
      · exact ⟨value, t, .finished hPoll⟩
      · obtain ⟨t', between⟩ := hOthers t
        obtain ⟨value, u, later⟩ := ih rest t t' hPoll between
        exact ⟨value, u, .resumed hPoll between later⟩

/-- Tasks in sequence end if the first one does and the second one does wherever
the first one may end. -/
theorem Ends.andThen {task : Task σ α} {follow : α → Task σ β} (ends : Ends others task s)
    (later : ∀ value t, Runs others task s value t → Ends others (follow value) t) :
    Ends others (task.andThen follow) s := by
  induction ends with
  | @polled task s resumed ih =>
      rcases hPoll : task.poll s with ⟨value | left, t⟩
      · apply ends_of_poll_eq _ (later value t (.finished hPoll))
        rw [poll_andThen, hPoll]
      · constructor
        intro rest u u' gaveUp between
        rw [poll_andThen, hPoll] at gaveUp
        cases gaveUp
        apply ih left t u' hPoll between
        intro value v run
        exact later value v (.resumed hPoll between run)

theorem ends_perform (change : StateM σ α) (s : σ) : Ends others (perform change) s :=
  ends_of_finished rfl

section Cut

variable {stop : σ → Bool}

theorem ends_unless_stopped {value : α} {next : Task σ α}
    (ends : stop s = false → Ends others next s) :
    Ends others (act id fun s => if stop s then done value else next) s := by
  rw [ends_act_iff]
  cases hStop : stop s with
  | true => exact ends_of_finished rfl
  | false => exact ends hStop

theorem Ends.wait_cut {ready : σ → Bool} {next : Task σ α} {cut : Task σ (Option α)}
    (hNext : ∀ {s}, Ends others next s → Ends others cut s)
    (ends : Ends others (Task.wait ready next) s) :
    Ends others (Task.wait (fun s => stop s || ready s)
      (act id fun s => if stop s then done none else cut)) s := by
  generalize hTask : Task.wait ready next = task at ends
  induction ends with
  | @polled task s resumed ih =>
      subst hTask
      have ends : Ends others (Task.wait ready next) s := .polled resumed
      cases hReady : ready s with
      | true =>
          rw [ends_wait_iff_of_ready (by simp [hReady])]
          exact ends_unless_stopped fun _ => hNext ((ends_wait_iff_of_ready hReady).mp ends)
      | false =>
          cases hStop : stop s with
          | true =>
              rw [ends_wait_iff_of_ready (by simp [hStop])]
              exact ends_unless_stopped fun hGo => absurd hStop (by simp [hGo])
          | false =>
              rw [ends_wait_iff_of_not_ready (by simp [hReady, hStop])]
              intro t between
              exact ih _ s t (by simp [poll, hReady]) between rfl

/-- A task that is cut ends if it would end uncut. -/
theorem Ends.cutAtResumption {task : Task σ α} (ends : Ends others task s) :
    Ends others (task.cutAtResumption stop) s := by
  induction task generalizing s with
  | done value => exact ends_of_finished rfl
  | act update next ih => exact ends_act_iff.mpr (ih s (ends_act_iff.mp ends))
  | pause next ih =>
      apply ends_pause_iff.mpr
      intro t between
      exact ends_unless_stopped fun _ => ih (ends_pause_iff.mp ends t between)
  | wait ready next ih =>
      rw [Task.cutAtResumption, ends_act_iff]
      cases hReady : ready s with
      | true => exact ih ((ends_wait_iff_of_ready hReady).mp ends)
      | false =>
          apply ends_pause_iff.mpr
          intro t between
          exact ((ends_wait_iff_of_not_ready hReady).mp ends t between).wait_cut ih

/-- A task ends, whatever it does, if each of its resumptions says stop. -/
theorem ends_cutAtResumption (hStop : ∀ s t, others s t → stop t = true) (task : Task σ α) (s : σ) :
    Ends others (task.cutAtResumption stop) s := by
  induction task generalizing s with
  | done value => exact ends_of_finished rfl
  | act update next ih => exact ends_act_iff.mpr (ih s (update s))
  | pause next ih =>
      apply ends_pause_iff.mpr
      intro t between
      exact ends_unless_stopped fun _ => ih t
  | wait ready next ih =>
      rw [Task.cutAtResumption, ends_act_iff]
      cases hReady : ready s with
      | true => exact ih s
      | false =>
          apply ends_pause_iff.mpr
          intro t between
          rw [ends_wait_iff_of_ready (by simp [hStop s t between])]
          exact ends_unless_stopped fun _ => ih t

theorem Ends.cutBy {task : Task σ α} (ends : Ends others task s) :
    Ends others (task.cutBy stop) s :=
  ends_unless_stopped fun _ => ends.cutAtResumption

theorem ends_cutBy (hStop : ∀ s t, others s t → stop t = true) (task : Task σ α) (s : σ) :
    Ends others (task.cutBy stop) s :=
  ends_unless_stopped fun _ => ends_cutAtResumption hStop task s

end Cut

end BusEndpoint.Task
