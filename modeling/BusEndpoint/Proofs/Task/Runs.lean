import BusEndpoint.Task

/-! Runs of a single task on a state that it shares. Whenever the task has
given up control, others may change the state before it is resumed; what they
may do is a relation. Nothing is said about when the task is resumed, so that
a run stands for every way in which somebody else may schedule it. -/

namespace BusEndpoint.Task

variable {σ α β : Type} {others : σ → σ → Prop}

/-- The task comes to its end with a value, after any number of resumptions.
The state of the last poll is the state in which it ends. -/
inductive Runs (others : σ → σ → Prop) : Task σ α → σ → α → σ → Prop where
  | finished {task : Task σ α} {s t : σ} {value : α}
      (ended : task.poll s = (.finished value, t)) : Runs others task s value t
  | resumed {task rest : Task σ α} {s t t' u : σ} {value : α}
      (gaveUp : task.poll s = (.suspended rest, t)) (between : others t t')
      (later : Runs others rest t' value u) : Runs others task s value u

/-- A state in which the task is left by one of its polls, after any number of
resumptions. The task need not come to its end. -/
inductive Visits (others : σ → σ → Prop) : Task σ α → σ → σ → Prop where
  | polled {task : Task σ α} {s t : σ} {progress : Progress σ α}
      (hPoll : task.poll s = (progress, t)) : Visits others task s t
  | resumed {task rest : Task σ α} {s t t' u : σ} (gaveUp : task.poll s = (.suspended rest, t))
      (between : others t t') (later : Visits others rest t' u) : Visits others task s u

/-- Waiting until the state is ready: others change the state as long as it is
not, and the wait ends at the first poll in a ready state. -/
inductive Stalls (others : σ → σ → Prop) (ready : σ → Bool) : σ → σ → Prop where
  | now {s : σ} (isReady : ready s = true) : Stalls others ready s s
  | later {s s' t : σ} (notReady : ready s = false) (between : others s s')
      (rest : Stalls others ready s' t) : Stalls others ready s t

theorem poll_andThen (task : Task σ α) (follow : α → Task σ β) (s : σ) :
    (task.andThen follow).poll s =
      match task.poll s with
      | (.finished value, t) => (follow value).poll t
      | (.suspended rest, t) => (.suspended (rest.andThen follow), t) := by
  induction task generalizing s with
  | done value => rfl
  | act update next ih => exact ih s (update s)
  | pause next ih => rfl
  | wait ready next ih =>
      simp only [andThen, poll]
      split
      · exact ih s
      · rfl

/-- A run depends on the first poll only. -/
theorem runs_of_poll_eq {first second : Task σ α} {s t u : σ} {value : α}
    (same : first.poll s = second.poll t) :
    Runs others first s value u ↔ Runs others second t value u := by
  constructor
  · intro run
    cases run with
    | finished ended => exact .finished (same ▸ ended)
    | resumed gaveUp between later => exact .resumed (same ▸ gaveUp) between later
  · intro run
    cases run with
    | finished ended => exact .finished (same.trans ended)
    | resumed gaveUp between later => exact .resumed (same.trans gaveUp) between later

theorem visits_of_poll_eq {first second : Task σ α} {s t u : σ}
    (same : first.poll s = second.poll t) (visits : Visits others first s u) :
    Visits others second t u := by
  cases visits with
  | polled hPoll => exact .polled (same ▸ hPoll)
  | resumed gaveUp between later => exact .resumed (same ▸ gaveUp) between later

/-- A run ends in a state that the task visits. -/
theorem Runs.visits {task : Task σ α} {s t : σ} {value : α} (run : Runs others task s value t) :
    Visits others task s t := by
  induction run with
  | finished ended => exact .polled ended
  | resumed gaveUp between _ ih => exact .resumed gaveUp between ih

@[simp] theorem runs_done_iff {value result : α} {s t : σ} :
    Runs others (done value) s result t ↔ result = value ∧ t = s := by
  constructor
  · intro run
    cases run with
    | finished ended =>
        simp only [poll, Prod.mk.injEq, Progress.finished.injEq] at ended
        exact ⟨ended.1.symm, ended.2.symm⟩
    | resumed gaveUp between later => simp [poll] at gaveUp
  · rintro ⟨rfl, rfl⟩
    exact .finished rfl

/-- A task that ends at its first poll has no other run. -/
theorem runs_iff_of_finished {task : Task σ α} {value result : α} {s t u : σ}
    (finished : task.poll s = (.finished value, t)) :
    Runs others task s result u ↔ result = value ∧ u = t := by
  have same : task.poll s = (done value).poll t := finished
  rw [runs_of_poll_eq same, runs_done_iff]

@[simp] theorem runs_act_iff {update : σ → σ} {next : σ → Task σ α} {value : α} {s t : σ} :
    Runs others (act update next) s value t ↔ Runs others (next s) (update s) value t :=
  runs_of_poll_eq rfl

theorem runs_pause_iff {next : Task σ α} {value : α} {s u : σ} :
    Runs others (pause next) s value u ↔ ∃ t, others s t ∧ Runs others next t value u := by
  constructor
  · intro run
    cases run with
    | finished ended => simp [poll] at ended
    | resumed gaveUp between later =>
        simp only [poll, Prod.mk.injEq, Progress.suspended.injEq] at gaveUp
        obtain ⟨rfl, rfl⟩ := gaveUp
        exact ⟨_, between, later⟩
  · rintro ⟨t, between, later⟩
    exact .resumed rfl between later

/-- What follows the first poll of a task that gives up control. -/
theorem runs_iff_of_suspended {task rest : Task σ α} {value : α} {s t u : σ}
    (gaveUp : task.poll s = (.suspended rest, t)) :
    Runs others task s value u ↔ ∃ t', others t t' ∧ Runs others rest t' value u := by
  have same : task.poll s = (pause rest).poll t := gaveUp
  rw [runs_of_poll_eq same, runs_pause_iff]

theorem runs_wait_iff {ready : σ → Bool} {next : Task σ α} {value : α} {s u : σ} :
    Runs others (wait ready next) s value u ↔
      ∃ t, Stalls others ready s t ∧ Runs others next t value u := by
  constructor
  · intro run
    generalize hTask : wait ready next = task at run
    induction run with
    | @finished task s t value ended =>
        subst hTask
        cases hReady : ready s with
        | true => exact ⟨s, .now hReady, .finished (by simpa [poll, hReady] using ended)⟩
        | false => simp [poll, hReady] at ended
    | @resumed task rest s t t' u value gaveUp between later ih =>
        subst hTask
        cases hReady : ready s with
        | true =>
            exact ⟨s, .now hReady, .resumed (by simpa [poll, hReady] using gaveUp) between later⟩
        | false =>
            simp only [poll, hReady, Bool.false_eq_true, if_false, Prod.mk.injEq,
              Progress.suspended.injEq] at gaveUp
            obtain ⟨rfl, rfl⟩ := gaveUp
            obtain ⟨readied, stalls, run⟩ := ih rfl
            exact ⟨readied, .later hReady between stalls, run⟩
  · rintro ⟨t, stalls, run⟩
    induction stalls with
    | @now s isReady => exact (runs_of_poll_eq (by simp [poll, isReady])).mpr run
    | later notReady between rest ih => exact .resumed (by simp [poll, notReady]) between (ih run)

/-- Tasks in sequence run one after the other. Control is not given up
between them. -/
theorem runs_andThen_iff {task : Task σ α} {follow : α → Task σ β} {result : β} {s u : σ} :
    Runs others (task.andThen follow) s result u ↔
      ∃ value t, Runs others task s value t ∧ Runs others (follow value) t result u := by
  constructor
  · intro run
    generalize hWhole : task.andThen follow = whole at run
    induction run generalizing task with
    | @finished whole s u result ended =>
        subst hWhole
        rw [poll_andThen] at ended
        cases hPoll : task.poll s with
        | mk progress t =>
            rw [hPoll] at ended
            cases progress with
            | finished value => exact ⟨value, t, .finished hPoll, .finished ended⟩
            | suspended rest => simp at ended
    | @resumed whole rest s t t' u result gaveUp between later ih =>
        subst hWhole
        rw [poll_andThen] at gaveUp
        cases hPoll : task.poll s with
        | mk progress middle =>
            rw [hPoll] at gaveUp
            cases progress with
            | finished value =>
                exact ⟨value, middle, .finished hPoll, .resumed gaveUp between later⟩
            | suspended left =>
                simp only [Prod.mk.injEq, Progress.suspended.injEq] at gaveUp
                obtain ⟨rfl, rfl⟩ := gaveUp
                obtain ⟨value, middle', first, second⟩ := ih rfl
                exact ⟨value, middle', .resumed hPoll between first, second⟩
  · rintro ⟨value, t, first, second⟩
    induction first with
    | finished ended =>
        exact (runs_of_poll_eq (by rw [poll_andThen, ended])).mpr second
    | resumed gaveUp between later ih =>
        exact .resumed (by rw [poll_andThen, gaveUp]) between (ih second)

@[simp] theorem runs_perform_iff {change : StateM σ α} {value : α} {s t : σ} :
    Runs others (perform change) s value t ↔ value = (change s).1 ∧ t = (change s).2 := by
  rw [perform, runs_act_iff, runs_done_iff]
  rfl

/-- A change in one go needs no resumption, so that what follows it starts at
once in the changed state. -/
theorem runs_perform_andThen_iff {change : StateM σ α} {follow : α → Task σ β} {result : β}
    {s u : σ} :
    Runs others ((perform change).andThen follow) s result u ↔
      Runs others (follow (change s).1) (change s).2 result u := by
  rw [runs_andThen_iff]
  constructor
  · rintro ⟨value, t, first, second⟩
    obtain ⟨rfl, rfl⟩ := runs_perform_iff.mp first
    exact second
  · intro second
    exact ⟨_, _, runs_perform_iff.mpr ⟨rfl, rfl⟩, second⟩

@[simp] theorem liftM_eq (change : StateM σ α) : (liftM change : Task σ α) = perform change := rfl

theorem runs_observe_andThen_iff {view : σ → α} {follow : α → Task σ β} {result : β} {s u : σ} :
    Runs others ((observe view).andThen follow) s result u ↔
      Runs others (follow (view s)) s result u :=
  runs_act_iff

/-- A task in sequence is cut as its parts are: once it is given up, nothing of
what follows is begun. -/
theorem cutAtResumption_andThen (stop : σ → Bool) (task : Task σ α) (follow : α → Task σ β) :
    (task.andThen follow).cutAtResumption stop =
      (task.cutAtResumption stop).andThen fun
        | none => done none
        | some value => (follow value).cutAtResumption stop := by
  induction task with
  | done value => rfl
  | act update next ih => simp only [andThen, cutAtResumption, ih]
  | pause next ih =>
      simp only [andThen, cutAtResumption, ih]
      congr 2
      funext s
      split <;> rfl
  | wait ready next ih =>
      simp only [andThen, cutAtResumption, ih]
      congr 1
      funext s
      split
      · rfl
      · simp only [andThen]
        congr 3
        funext s
        split <;> rfl

/-- A task that is run alone comes to the end of one of its runs, if others
may leave the state as it is. -/
theorem runs_of_run {task : Task σ α} {s t : σ} {value : α} (idle : ∀ s, others s s)
    (alone : task.run s = (some value, t)) : Runs others task s value t := by
  induction task generalizing s with
  | done result =>
      simp only [run, Prod.mk.injEq, Option.some.injEq] at alone
      exact runs_done_iff.mpr ⟨alone.1.symm, alone.2.symm⟩
  | act update next ih => exact runs_act_iff.mpr (ih s alone)
  | pause next ih => exact runs_pause_iff.mpr ⟨s, idle s, ih alone⟩
  | wait ready next ih =>
      cases hReady : ready s with
      | true =>
          rw [run, if_pos hReady] at alone
          exact runs_wait_iff.mpr ⟨s, .now hReady, ih alone⟩
      | false => simp [run, hReady] at alone

section Going

variable {stop : σ → Bool} {s t : σ}

/-- Nobody says stop while others wait. -/
theorem Stalls.going {ready : σ → Bool} (hOthers : ∀ u v, others u v → stop v = false)
    (hGoing : stop s = false) (stalls : Stalls others ready s t) : stop t = false := by
  induction stalls with
  | now isReady => exact hGoing
  | later notReady between _ ih => exact ih (hOthers _ _ between)

/-- Whoever would stop waiting if told so waits until the state is ready. -/
theorem stalls_or_iff {ready : σ → Bool} (hOthers : ∀ u v, others u v → stop v = false)
    (hGoing : stop s = false) :
    Stalls others (fun s => stop s || ready s) s t ↔ Stalls others ready s t := by
  constructor
  · intro stalls
    induction stalls with
    | @now s isReady => exact .now (by simpa [hGoing] using isReady)
    | @later s s' t notReady between _ ih =>
        exact .later (by simpa [hGoing] using notReady) between (ih (hOthers _ _ between))
  · intro stalls
    induction stalls with
    | @now s isReady => exact .now (by simp [isReady])
    | @later s s' t notReady between _ ih =>
        exact .later (by simp [hGoing, notReady]) between (ih (hOthers _ _ between))

theorem runs_unless_stopped_iff {ended : Option α} {task : Task σ (Option α)}
    (hGoing : stop s = false) :
    Runs others (act id fun s => if stop s then done none else task) s ended t ↔
      Runs others task s ended t := by
  rw [runs_act_iff, id_eq, if_neg (by simp [hGoing])]

/-- A task that is never told to stop is not cut. -/
theorem runs_cutAtResumption_iff {task : Task σ α} {ended : Option α}
    (hOthers : ∀ u v, others u v → stop v = false) :
    Runs others (task.cutAtResumption stop) s ended t ↔
      ∃ value, ended = some value ∧ Runs others task s value t := by
  -- The resumption of what is cut, which begins with a look at the state.
  have resumed {next : Task σ α} {u : σ} (hGoing : stop u = false)
      (ih : ∀ {s}, Runs others (next.cutAtResumption stop) s ended t ↔
        ∃ value, ended = some value ∧ Runs others next s value t) :
      Runs others (act id fun s => if stop s then done none else next.cutAtResumption stop) u
        ended t ↔ ∃ value, ended = some value ∧ Runs others next u value t :=
    (runs_unless_stopped_iff hGoing).trans ih
  induction task generalizing s with
  | done result =>
      simp only [cutAtResumption, runs_done_iff]
      constructor
      · rintro ⟨rfl, rfl⟩
        exact ⟨result, rfl, rfl, rfl⟩
      · rintro ⟨value, rfl, rfl, rfl⟩
        exact ⟨rfl, rfl⟩
  | act update next ih =>
      simp only [cutAtResumption, runs_act_iff]
      exact ih s
  | pause next ih =>
      simp only [cutAtResumption, runs_pause_iff]
      constructor
      · rintro ⟨u, between, run⟩
        obtain ⟨value, rfl, later⟩ := (resumed (hOthers _ _ between) ih).mp run
        exact ⟨value, rfl, u, between, later⟩
      · rintro ⟨value, rfl, u, between, later⟩
        exact ⟨u, between, (resumed (hOthers _ _ between) ih).mpr ⟨value, rfl, later⟩⟩
  | wait ready next ih =>
      rw [cutAtResumption, runs_act_iff, id_eq]
      cases hReady : ready s with
      | true =>
          have same : (wait ready next).poll s = next.poll s := by simp [poll, hReady]
          simp only [runs_of_poll_eq same, if_true]
          exact ih
      | false =>
          have gaveUp : (wait ready next).poll s = (.suspended (wait ready next), s) := by
            simp [poll, hReady]
          simp only [runs_iff_of_suspended gaveUp, Bool.false_eq_true, if_false, runs_pause_iff,
            runs_wait_iff]
          constructor
          · rintro ⟨u, between, v, stalls, run⟩
            have stalls := (stalls_or_iff hOthers (hOthers _ _ between)).mp stalls
            have hGoing := stalls.going hOthers (hOthers _ _ between)
            obtain ⟨value, rfl, later⟩ := (resumed hGoing ih).mp run
            exact ⟨value, rfl, u, between, v, stalls, later⟩
          · rintro ⟨value, rfl, u, between, v, stalls, later⟩
            have hGoing := stalls.going hOthers (hOthers _ _ between)
            exact ⟨u, between, v, (stalls_or_iff hOthers (hOthers _ _ between)).mpr stalls,
              (resumed hGoing ih).mpr ⟨value, rfl, later⟩⟩

theorem runs_cutBy_iff {task : Task σ α} {ended : Option α}
    (hOthers : ∀ u v, others u v → stop v = false) (hGoing : stop s = false) :
    Runs others (task.cutBy stop) s ended t ↔
      ∃ value, ended = some value ∧ Runs others task s value t :=
  (runs_unless_stopped_iff hGoing).trans (runs_cutAtResumption_iff hOthers)

end Going

end BusEndpoint.Task
