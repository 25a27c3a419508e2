import BusEndpoint.Proofs.Task.Runs

/-! Tasks on a larger state that do to one part of it what other tasks do to a
state of their own. They give up control in the same places, and may act on the
rest of the larger state in between. Every run of the one then belongs to a run
of the other. -/

namespace BusEndpoint.Task

variable {σ τ α β γ δ : Type} {erase : τ → σ} {agree : α → β → Prop}

/-- The first task does what the second one does, and acts aside. -/
inductive Mirrors (erase : τ → σ) (agree : α → β → Prop) : Task τ α → Task σ β → Prop where
  | done {value : α} {result : β} (hAgree : agree value result) :
      Mirrors erase agree (done value) (done result)
  | act {update : τ → τ} {next : τ → Task τ α} {change : σ → σ} {follow : σ → Task σ β}
      (hUpdate : ∀ s, erase (update s) = change (erase s))
      (later : ∀ s, Mirrors erase agree (next s) (follow (erase s))) :
      Mirrors erase agree (act update next) (act change follow)
  | aside {update : τ → τ} {next : τ → Task τ α} {mirrored : Task σ β}
      (hUpdate : ∀ s, erase (update s) = erase s)
      (later : ∀ s, Mirrors erase agree (next s) mirrored) :
      Mirrors erase agree (act update next) mirrored
  | pause {next : Task τ α} {follow : Task σ β} (later : Mirrors erase agree next follow) :
      Mirrors erase agree (pause next) (pause follow)
  | wait {waits : τ → Bool} {ready : σ → Bool} {next : Task τ α} {follow : Task σ β}
      (hReady : ∀ s, waits s = ready (erase s)) (later : Mirrors erase agree next follow) :
      Mirrors erase agree (wait waits next) (wait ready follow)

theorem Mirrors.andThen {also : γ → δ → Prop} {task : Task τ α} {mirrored : Task σ β}
    {next : α → Task τ γ} {follow : β → Task σ δ} (mirrors : Mirrors erase agree task mirrored)
    (later : ∀ value result, agree value result →
      Mirrors erase also (next value) (follow result)) :
    Mirrors erase also (task.andThen next) (mirrored.andThen follow) := by
  induction mirrors with
  | done hAgree => exact later _ _ hAgree
  | act hUpdate _ ih => exact .act hUpdate ih
  | aside hUpdate _ ih => exact .aside hUpdate ih
  | pause _ ih => exact .pause ih
  | wait hReady _ ih => exact .wait hReady ih

/-- Both go on alike with the same answer. -/
theorem Mirrors.bind {also : γ → δ → Prop} {task : Task τ α} {mirrored : Task σ α}
    {next : α → Task τ γ} {follow : α → Task σ δ} (mirrors : Mirrors erase Eq task mirrored)
    (later : ∀ value, Mirrors erase also (next value) (follow value)) :
    Mirrors erase also (task.andThen next) (mirrored.andThen follow) := by
  apply mirrors.andThen
  rintro value _ rfl
  exact later value

/-- A change in one go that answers alike on what is mirrored. -/
theorem mirrors_perform {change : StateM τ α} {mirrored : StateM σ β}
    (hAgree : ∀ s, agree (change s).1 (mirrored (erase s)).1)
    (hState : ∀ s, erase (change s).2 = (mirrored (erase s)).2) :
    Mirrors erase agree (perform change) (perform mirrored) :=
  .act hState fun s => .done (hAgree s)

/-- Both go on alike when they look at what is mirrored. -/
theorem mirrors_ite {test : σ → Bool} {next other : Task τ α} {follow instead : Task σ β}
    (first : Mirrors erase agree next follow) (second : Mirrors erase agree other instead) :
    Mirrors erase agree (Task.act id fun s => if test (erase s) then next else other)
      (Task.act id fun s => if test s then follow else instead) := by
  refine .act (fun _ => rfl) fun s => ?_
  split
  · exact first
  · exact second

/-- Tasks that mirror each other are cut in the same places. -/
theorem Mirrors.cutAtResumption {task : Task τ α} {mirrored : Task σ α} (stop : σ → Bool)
    (mirrors : Mirrors erase Eq task mirrored) :
    Mirrors erase Eq (task.cutAtResumption fun s => stop (erase s))
      (mirrored.cutAtResumption stop) := by
  induction mirrors with
  | done hAgree => exact .done (congrArg some hAgree)
  | act hUpdate _ ih => exact .act hUpdate ih
  | aside hUpdate _ ih => exact .aside hUpdate ih
  | pause _ ih => exact .pause (mirrors_ite (.done rfl) ih)
  | wait hReady _ ih =>
      simp only [Task.cutAtResumption, hReady]
      exact mirrors_ite ih (.pause (.wait (fun _ => rfl) (mirrors_ite (.done rfl) ih)))

theorem Mirrors.cutBy {task : Task τ α} {mirrored : Task σ α} (stop : σ → Bool)
    (mirrors : Mirrors erase Eq task mirrored) :
    Mirrors erase Eq (task.cutBy fun s => stop (erase s)) (mirrored.cutBy stop) :=
  mirrors_ite (.done rfl) (mirrors.cutAtResumption stop)

section Runs

variable {others : σ → σ → Prop} {around : τ → τ → Prop} {task : Task τ α} {mirrored : Task σ β}

/-- What is erased of a run is a run. -/
theorem Mirrors.runs (hOthers : ∀ s t, around s t → others (erase s) (erase t))
    (mirrors : Mirrors erase agree task mirrored) {s t : τ} {value : α}
    (run : Runs around task s value t) :
    ∃ result, agree value result ∧ Runs others mirrored (erase s) result (erase t) := by
  have stalls {waits : τ → Bool} {ready : σ → Bool} (hReady : ∀ s, waits s = ready (erase s))
      {s t : τ} (stalled : Stalls around waits s t) : Stalls others ready (erase s) (erase t) := by
    induction stalled with
    | now isReady => exact .now (hReady _ ▸ isReady)
    | later notReady between _ ih => exact .later (hReady _ ▸ notReady) (hOthers _ _ between) ih
  induction mirrors generalizing s with
  | done hAgree =>
      obtain ⟨rfl, rfl⟩ := runs_done_iff.mp run
      exact ⟨_, hAgree, .finished rfl⟩
  | act hUpdate _ ih =>
      obtain ⟨result, hAgree, later⟩ := ih s (runs_act_iff.mp run)
      rw [hUpdate] at later
      exact ⟨result, hAgree, runs_act_iff.mpr later⟩
  | aside hUpdate _ ih =>
      obtain ⟨result, hAgree, later⟩ := ih s (runs_act_iff.mp run)
      rw [hUpdate] at later
      exact ⟨result, hAgree, later⟩
  | pause _ ih =>
      obtain ⟨u, between, run⟩ := runs_pause_iff.mp run
      obtain ⟨result, hAgree, later⟩ := ih run
      exact ⟨result, hAgree, runs_pause_iff.mpr ⟨_, hOthers _ _ between, later⟩⟩
  | wait hReady _ ih =>
      obtain ⟨u, stalled, run⟩ := runs_wait_iff.mp run
      obtain ⟨result, hAgree, later⟩ := ih run
      exact ⟨result, hAgree, runs_wait_iff.mpr ⟨_, stalls hReady stalled, later⟩⟩

/-- Every run of what is mirrored is what is erased of some run. -/
theorem Mirrors.runs_of (hAround : ∀ s u, others (erase s) u → ∃ t, around s t ∧ erase t = u)
    (mirrors : Mirrors erase agree task mirrored) {s : τ} {u : σ} {result : β}
    (run : Runs others mirrored (erase s) result u) :
    ∃ value t, agree value result ∧ erase t = u ∧ Runs around task s value t := by
  have stalls {waits : τ → Bool} {ready : σ → Bool} (hReady : ∀ s, waits s = ready (erase s))
      {s : τ} {u : σ} (stalled : Stalls others ready (erase s) u) :
      ∃ t, Stalls around waits s t ∧ erase t = u := by
    generalize hStart : erase s = start at stalled
    induction stalled generalizing s with
    | now isReady =>
        subst hStart
        exact ⟨s, .now ((hReady s).trans isReady), rfl⟩
    | later notReady between _ ih =>
        subst hStart
        obtain ⟨middle, hAround, hMiddle⟩ := hAround s _ between
        obtain ⟨t, later, hEnd⟩ := ih hMiddle
        exact ⟨t, .later ((hReady s).trans notReady) hAround later, hEnd⟩
  induction mirrors generalizing s with
  | @done value _ hAgree =>
      obtain ⟨rfl, rfl⟩ := runs_done_iff.mp run
      exact ⟨value, s, hAgree, rfl, .finished rfl⟩
  | act hUpdate _ ih =>
      rw [runs_act_iff, ← hUpdate] at run
      obtain ⟨value, t, hAgree, hEnd, later⟩ := ih s run
      exact ⟨value, t, hAgree, hEnd, runs_act_iff.mpr later⟩
  | aside hUpdate _ ih =>
      rw [← hUpdate] at run
      obtain ⟨value, t, hAgree, hEnd, later⟩ := ih s run
      exact ⟨value, t, hAgree, hEnd, runs_act_iff.mpr later⟩
  | pause _ ih =>
      obtain ⟨middle, between, run⟩ := runs_pause_iff.mp run
      obtain ⟨next, hNext, rfl⟩ := hAround s middle between
      obtain ⟨value, t, hAgree, hEnd, later⟩ := ih run
      exact ⟨value, t, hAgree, hEnd, runs_pause_iff.mpr ⟨next, hNext, later⟩⟩
  | wait hReady _ ih =>
      obtain ⟨middle, stalled, run⟩ := runs_wait_iff.mp run
      obtain ⟨next, hNext, rfl⟩ := stalls hReady stalled
      obtain ⟨value, t, hAgree, hEnd, later⟩ := ih run
      exact ⟨value, t, hAgree, hEnd, runs_wait_iff.mpr ⟨next, hNext, later⟩⟩

/-- Both come back alike from their first poll. -/
inductive Polls (erase : τ → σ) (agree : α → β → Prop) :
    Progress τ α × τ → Progress σ β × σ → Prop where
  | finished {value : α} {result : β} {s : τ} (hAgree : agree value result) :
      Polls erase agree (.finished value, s) (.finished result, erase s)
  | suspended {rest : Task τ α} {left : Task σ β} {s : τ} (mirrors : Mirrors erase agree rest left) :
      Polls erase agree (.suspended rest, s) (.suspended left, erase s)

theorem Mirrors.poll (mirrors : Mirrors erase agree task mirrored) (s : τ) :
    Polls erase agree (task.poll s) (mirrored.poll (erase s)) := by
  induction mirrors generalizing s with
  | done hAgree => exact .finished hAgree
  | @act update next change follow hUpdate _ ih =>
      have polls := ih s (update s)
      rw [hUpdate] at polls
      exact polls
  | @aside update next mirrored hUpdate _ ih =>
      have polls := ih s (update s)
      rw [hUpdate] at polls
      exact polls
  | pause later ih => exact .suspended later
  | wait hReady later ih =>
      rw [Task.poll, Task.poll, hReady]
      split
      · exact ih s
      · exact .suspended (.wait hReady later)

/-- What is erased of a state that is visited is visited. -/
theorem Mirrors.visits (hOthers : ∀ s t, around s t → others (erase s) (erase t))
    (mirrors : Mirrors erase agree task mirrored) {s t : τ} (visited : Visits around task s t) :
    Visits others mirrored (erase s) (erase t) := by
  induction visited generalizing mirrored with
  | @polled task s t progress hPoll =>
      have polls := mirrors.poll s
      rw [hPoll] at polls
      generalize hMirrored : mirrored.poll (erase s) = polled at polls
      cases polls with
      | finished => exact .polled hMirrored
      | suspended => exact .polled hMirrored
  | @resumed task rest s t t' u gaveUp between _ ih =>
      have polls := mirrors.poll s
      rw [gaveUp] at polls
      generalize hMirrored : mirrored.poll (erase s) = polled at polls
      cases polls with
      | suspended later => exact .resumed hMirrored (hOthers _ _ between) (ih later)

/-- Every state that is visited is what is erased of one. -/
theorem Mirrors.visits_of (hAround : ∀ s u, others (erase s) u → ∃ t, around s t ∧ erase t = u)
    (mirrors : Mirrors erase agree task mirrored) {s : τ} {u : σ}
    (visited : Visits others mirrored (erase s) u) : ∃ t, erase t = u ∧ Visits around task s t := by
  generalize hStart : erase s = start at visited
  induction visited generalizing task s with
  | @polled mirrored start u progress hPoll =>
      subst hStart
      have polls := mirrors.poll s
      rw [hPoll] at polls
      generalize hTask : task.poll s = polled at polls
      cases polls with
      | finished => exact ⟨_, rfl, .polled hTask⟩
      | suspended => exact ⟨_, rfl, .polled hTask⟩
  | @resumed mirrored rest start t t' u gaveUp between _ ih =>
      subst hStart
      have polls := mirrors.poll s
      rw [gaveUp] at polls
      generalize hTask : task.poll s = polled at polls
      cases polls with
      | suspended later =>
          obtain ⟨next, hNext, hErased⟩ := hAround _ _ between
          obtain ⟨last, hLast, visited⟩ := ih later hErased
          exact ⟨last, hLast, .resumed hTask hNext visited⟩

end Runs

end BusEndpoint.Task
