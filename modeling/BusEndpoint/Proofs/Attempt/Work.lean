import BusEndpoint.Proofs.Attempt.Journal

/-! The work of the parts that an attempt calls. Whatever a part does to the
host, and wherever it gives up control, its journal shows no call; under a token
it also shows where the part was given up. -/

namespace BusEndpoint

open BusEndpoint.Task

variable {σ α : Type}

namespace Journal

/-- The work of one called part: it acts on the host, and is resumed. -/
def IsWork (journal : Journal σ) : Prop :=
  ∀ event ∈ journal, event = .acted ∨ ∃ cancelled, event = .resumed cancelled

/-- Work of a part that was resumed only while the call was not cancelled. -/
def IsUncutWork (journal : Journal σ) : Prop :=
  ∀ event ∈ journal, event = .acted ∨ event = .resumed false

@[simp] theorem isWork_nil : IsWork ([] : Journal σ) := by simp [IsWork]

@[simp] theorem isWork_cons {event : AttemptEvent σ} {work : Journal σ} :
    IsWork (event :: work) ↔
      (event = .acted ∨ ∃ cancelled, event = .resumed cancelled) ∧ work.IsWork :=
  List.forall_mem_cons

@[simp] theorem isWork_append {first second : Journal σ} :
    IsWork (first ++ second) ↔ first.IsWork ∧ second.IsWork :=
  List.forall_mem_append

@[simp] theorem isUncutWork_nil : IsUncutWork ([] : Journal σ) := by simp [IsUncutWork]

@[simp] theorem isUncutWork_cons {event : AttemptEvent σ} {work : Journal σ} :
    IsUncutWork (event :: work) ↔
      (event = .acted ∨ event = .resumed false) ∧ work.IsUncutWork :=
  List.forall_mem_cons

@[simp] theorem isUncutWork_append {first second : Journal σ} :
    IsUncutWork (first ++ second) ↔ first.IsUncutWork ∧ second.IsUncutWork :=
  List.forall_mem_append

theorem IsUncutWork.isWork {work : Journal σ} (uncut : work.IsUncutWork) : work.IsWork := by
  intro event hEvent
  rcases uncut event hEvent with rfl | rfl
  · exact .inl rfl
  · exact .inr ⟨false, rfl⟩

theorem IsWork.handles_eq {work : Journal σ} (h : work.IsWork) : work.handles = [] := by
  apply List.filterMap_eq_nil_iff.mpr
  intro event hEvent
  rcases h event hEvent with rfl | ⟨cancelled, rfl⟩
  · rfl
  · rfl

/-- A part under a token has come back: it was given up at its first resumption
in a cancelled call, or it came to its end with an answer. -/
def ComesBack (journal after : Journal σ) (result : Option α) : Prop :=
  ∃ work : Journal σ, work.IsUncutWork ∧
    ((result = none ∧ after = journal ++ work ++ [.resumed true]) ∨
      ∃ value, result = some value ∧ after = journal ++ work)

theorem ComesBack.of_append {journal first after : Journal σ} {result : Option α}
    (later : ComesBack (journal ++ first) after result) (hFirst : first.IsUncutWork) :
    ComesBack journal after result := by
  obtain ⟨work, hWork, ended⟩ := later
  refine ⟨first ++ work, by simp [hFirst, hWork], ?_⟩
  simpa using ended

end Journal

variable {others : σ → σ → Prop} {cancel : CancellationToken σ}

theorem stalls_work {ready : σ × Journal σ → Bool} {before after : σ × Journal σ}
    (stalls : Stalls (Journal.Between others cancel) ready before after) :
    ∃ work : Journal σ, work.IsWork ∧ after.2 = before.2 ++ work := by
  induction stalls with
  | now isReady => exact ⟨[], Journal.isWork_nil, by simp⟩
  | @later before middle after notReady between rest ih =>
      obtain ⟨work, hWork, hJournal⟩ := ih
      refine ⟨.resumed (cancel middle.1) :: work, by simp [hWork], ?_⟩
      rw [hJournal, between.2, List.append_assoc, List.singleton_append]

/-- Whatever a called part does, it adds no call to the journal. -/
theorem Task.runs_noting {task : Task σ α} {s t : σ} {journal after : Journal σ} {value : α}
    (run : Runs (Journal.Between others cancel) task.noting (s, journal) value (t, after)) :
    ∃ work : Journal σ, work.IsWork ∧ after = journal ++ work := by
  induction task generalizing s journal with
  | done result =>
      obtain ⟨-, hEnd⟩ := runs_done_iff.mp run
      exact ⟨[], Journal.isWork_nil, by simpa using congrArg Prod.snd hEnd⟩
  | act update next ih =>
      obtain ⟨work, hWork, rfl⟩ := ih s (runs_act_iff.mp run)
      exact ⟨.acted :: work, by simp [hWork], by simp⟩
  | pause next ih =>
      obtain ⟨⟨s', journal'⟩, between, later⟩ := runs_pause_iff.mp run
      obtain ⟨work, hWork, rfl⟩ := ih later
      obtain rfl : journal' = journal ++ [.resumed (cancel s')] := between.2
      exact ⟨.resumed (cancel s') :: work, by simp [hWork], by simp⟩
  | wait ready next ih =>
      obtain ⟨⟨s', journal'⟩, stalls, later⟩ := runs_wait_iff.mp run
      obtain ⟨stalled, hStalled, hJournal⟩ := stalls_work stalls
      obtain rfl : journal' = journal ++ stalled := hJournal
      obtain ⟨work, hWork, rfl⟩ := ih later
      exact ⟨stalled ++ work, by simp [hStalled, hWork], by simp⟩

/-- A part that has given up control under a token waits until it may go on or
is cancelled. All its resumptions but the last saw the call not cancelled. -/
theorem stalls_uncut {ready : σ → Bool} {given before after : σ × Journal σ}
    (between : Journal.Between others cancel given before)
    (stalls : Stalls (Journal.Between others cancel)
      (fun state => cancel.alongside state || ready state.1) before after) :
    ∃ work : Journal σ, work.IsUncutWork ∧
      after.2 = given.2 ++ work ++ [.resumed (cancel after.1)] := by
  induction stalls generalizing given with
  | now isReady => exact ⟨[], Journal.isUncutWork_nil, by simpa using between.2⟩
  | @later before middle after notReady next rest ih =>
      obtain ⟨work, hWork, hJournal⟩ := ih next
      have hCancel : cancel before.1 = false := (Bool.or_eq_false_iff.mp notReady).1
      refine ⟨.resumed false :: work, by simp [hWork], ?_⟩
      rw [hJournal, between.2, hCancel]
      simp

/-- A part under a token that has given up control is given up at its resumption
in a cancelled call, and goes on otherwise. -/
theorem runs_resumption_cut {rest : Task (σ × Journal σ) (Option α)} {journal stalled : Journal σ}
    {state after : σ × Journal σ} {result : Option α} (hStalled : stalled.IsUncutWork)
    (hState : state.2 = journal ++ stalled ++ [.resumed (cancel state.1)])
    (run : Runs (Journal.Between others cancel)
      (act id fun state => if cancel.alongside state then done none else rest) state result after) :
    Journal.ComesBack journal after.2 result ∨
      Runs (Journal.Between others cancel) rest
        (state.1, journal ++ (stalled ++ [.resumed false])) result after := by
  obtain ⟨s, seen⟩ := state
  obtain rfl : seen = journal ++ stalled ++ [.resumed (cancel s)] := hState
  rw [runs_act_iff] at run
  cases hCancel : cancel s with
  | true =>
      simp only [CancellationToken.alongside, hCancel, if_true, runs_done_iff, id] at run
      obtain ⟨rfl, rfl⟩ := run
      exact .inl ⟨stalled, hStalled, .inl ⟨rfl, rfl⟩⟩
  | false =>
      simp only [CancellationToken.alongside, hCancel, Bool.false_eq_true, if_false, id,
        List.append_assoc] at run
      exact .inr run

/-- A part under a token either comes to its end, or it is given up at its
first resumption in a cancelled call, and does nothing from then on. -/
theorem Task.runs_noting_cut {task : Task σ α} {s : σ} {journal : Journal σ}
    {after : σ × Journal σ} {result : Option α}
    (run : Runs (Journal.Between others cancel) (task.noting.cutAtResumption cancel.alongside)
      (s, journal) result after) :
    Journal.ComesBack journal after.2 result := by
  induction task generalizing s journal with
  | done value =>
      obtain ⟨rfl, rfl⟩ := runs_done_iff.mp run
      exact ⟨[], Journal.isUncutWork_nil, .inr ⟨value, rfl, by simp⟩⟩
  | act update next ih => exact (ih s (runs_act_iff.mp run)).of_append (by simp)
  | pause next ih =>
      obtain ⟨state, between, resumed⟩ := runs_pause_iff.mp run
      rcases runs_resumption_cut Journal.isUncutWork_nil (by simpa using between.2) resumed with
        cut | later
      · exact cut
      · exact (ih later).of_append (by simp)
  | wait ready next ih =>
      have run := runs_act_iff.mp run
      cases hReady : ready s with
      | true =>
          simp only [hReady, if_true, id] at run
          exact ih run
      | false =>
          simp only [hReady, Bool.false_eq_true, if_false, id] at run
          obtain ⟨state, between, stalled⟩ := runs_pause_iff.mp run
          obtain ⟨state', stalls, resumed⟩ := runs_wait_iff.mp stalled
          obtain ⟨work, hWork, hState⟩ := stalls_uncut between stalls
          rcases runs_resumption_cut hWork hState resumed with cut | later
          · exact cut
          · exact (ih later).of_append (by simp [hWork])

theorem runs_note_andThen_iff {event : AttemptEvent σ} {follow : Unit → Task (σ × Journal σ) α}
    {result : α} {s : σ} {journal : Journal σ} {after : σ × Journal σ} :
    Runs (Journal.Between others cancel) ((note event).andThen follow) (s, journal) result after ↔
      Runs (Journal.Between others cancel) (follow ()) (s, journal ++ [event]) result after :=
  runs_act_iff

theorem runs_note_cut_iff {stop : σ × Journal σ → Bool} {event : AttemptEvent σ}
    {follow : Unit → Task (σ × Journal σ) α} {result : Option α} {s : σ} {journal : Journal σ}
    {after : σ × Journal σ} :
    Runs (Journal.Between others cancel) (((note event).andThen follow).cutAtResumption stop)
        (s, journal) result after ↔
      Runs (Journal.Between others cancel) ((follow ()).cutAtResumption stop)
        (s, journal ++ [event]) result after :=
  runs_act_iff

end BusEndpoint
