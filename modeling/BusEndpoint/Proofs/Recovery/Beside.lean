import BusEndpoint.Proofs.Delivery.Noting
import BusEndpoint.Proofs.Endpoint.Parts

/-! Transactions on a host beside which something is kept. A strategy works on
the host as before, and neither it nor its transactions reach what is kept. -/

namespace BusEndpoint

open BusEndpoint.Task

variable {σ ρ α : Type}

/-- A change of the host, with something kept beside it. -/
def onFirst (change : StateM σ α) : StateM (σ × ρ) α := fun s =>
  ((change s.1).1, ((change s.1).2, s.2))

/-- What a change does to the host if this is kept beside it. -/
def alone (kept : ρ) (change : StateM (σ × ρ) α) : StateM σ α := fun s =>
  ((change (s, kept)).1, (change (s, kept)).2.1)

namespace NativeTransaction

def onFirst (native : NativeTransaction σ) : NativeTransaction (σ × ρ) :=
  ⟨BusEndpoint.onFirst native.commit, BusEndpoint.onFirst native.rollback⟩

def alone (kept : ρ) (native : NativeTransaction (σ × ρ)) : NativeTransaction σ :=
  ⟨BusEndpoint.alone kept native.commit, BusEndpoint.alone kept native.rollback⟩

end NativeTransaction

namespace Transaction

def onFirst (transaction : Transaction σ) : Transaction (σ × ρ) :=
  ⟨transaction.id, transaction.native.onFirst⟩

def alone (kept : ρ) (transaction : Transaction (σ × ρ)) : Transaction σ :=
  ⟨transaction.id, transaction.native.alone kept⟩

theorem map_alone_onFirst (kept : ρ) (transaction : Option (Transaction σ)) :
    (transaction.map onFirst).map (alone kept) = transaction := by
  cases transaction <;> rfl

end Transaction

def TransportToken.onFirst (token : TransportToken σ) : TransportToken (σ × ρ) :=
  ⟨token.id, token.native.map NativeTransaction.onFirst⟩

/-- A strategy that works on the host. -/
def TransactionStrategy.onFirst (kept : ρ) (strategy : TransactionStrategy σ) :
    TransactionStrategy (σ × ρ) where
  create := BusEndpoint.onFirst do return (← strategy.create).map Transaction.onFirst
  token transaction :=
    BusEndpoint.onFirst do
      return (← strategy.token (transaction.map (Transaction.alone kept))).onFirst
  complete transaction cancel :=
    (strategy.complete (transaction.map (Transaction.alone kept)) fun s => cancel (s, kept)).onFirst

/-- What is kept beside the host is left alone. -/
def LeavesSecond (s t : σ × ρ) : Prop := t.2 = s.2

theorem leavesSecond_refl (s : σ × ρ) : LeavesSecond s s := rfl

theorem leavesSecond_trans (s t u : σ × ρ) (first : LeavesSecond s t) (second : LeavesSecond t u) :
    LeavesSecond s u :=
  Eq.trans second first

theorem Task.acts_onFirst (task : Task σ α) :
    (task.onFirst : Task (σ × ρ) α).Acts LeavesSecond fun _ => True := by
  have keeps : (task.onFirst : Task (σ × ρ) α).Keeps Prod.snd := by
    refine keeps_within ?_ task
    exact fun _ _ => rfl
  exact keeps.acts

/-- What others do to the host. They have no part in what is kept beside it. -/
def Beside (others : σ → σ → Prop) (before after : σ × ρ) : Prop :=
  others before.1 after.1 ∧ after.2 = before.2

section Beside

variable {others : σ → σ → Prop} {β : Type}

/-- A part of a task that leaves alone what is kept beside the host. -/
theorem Task.Acts.runs_beside {task : Task (σ × ρ) α} {answers : α → Prop}
    {follow : α → Task (σ × ρ) β} {result : β} {s : σ} {kept : ρ} {t : σ × ρ}
    (acts : task.Acts LeavesSecond answers)
    (run : Runs (Beside others) (task.andThen follow) (s, kept) result t) :
    ∃ value u, answers value ∧ Runs (Beside others) (follow value) (u, kept) result t := by
  obtain ⟨value, ⟨u, last⟩, hAnswers, hKept, later⟩ :=
    acts.runs_andThen leavesSecond_refl leavesSecond_trans (fun _ _ between => between.2) run
  obtain rfl : last = kept := hKept
  exact ⟨value, u, hAnswers, later⟩

/-- Others leave alone what is kept, whatever they do to the host. -/
theorem Beside.exists_of {s : σ × ρ} {u : σ} (between : others s.1 u) :
    ∃ t : σ × ρ, Beside others s t ∧ t.1 = u :=
  ⟨(u, s.2), ⟨between, rfl⟩, rfl⟩

/-- A task has exactly the runs of those that keep something beside the host. -/
theorem Task.Mirrors.runs_beside_iff {task : Task (σ × ρ) α} {mirrored : Task σ α}
    (mirrors : Mirrors Prod.fst Eq task mirrored) {s t : σ} {kept : ρ} {value : α} :
    Runs others mirrored s value t ↔
      ∃ last, Runs (Beside others) task (s, kept) value (t, last) := by
  constructor
  · intro run
    obtain ⟨_, ⟨u, last⟩, rfl, rfl, keeping⟩ :=
      mirrors.runs_of (fun _ _ => Beside.exists_of) (s := (s, kept)) run
    exact ⟨last, keeping⟩
  · rintro ⟨last, keeping⟩
    obtain ⟨_, rfl, run⟩ := mirrors.runs (fun _ _ between => between.1) keeping
    exact run

/-- And it visits exactly the states that they visit. -/
theorem Task.Mirrors.visits_beside_iff {task : Task (σ × ρ) α} {mirrored : Task σ β}
    {agree : α → β → Prop} (mirrors : Mirrors Prod.fst agree task mirrored) {s t : σ} {kept : ρ} :
    Visits others mirrored s t ↔ ∃ last, Visits (Beside others) task (s, kept) (t, last) := by
  constructor
  · intro visited
    obtain ⟨⟨u, last⟩, rfl, keeping⟩ :=
      mirrors.visits_of (fun _ _ => Beside.exists_of) (s := (s, kept)) visited
    exact ⟨last, keeping⟩
  · rintro ⟨last, keeping⟩
    exact mirrors.visits (fun _ _ between => between.1) keeping

end Beside

variable [Host σ]

theorem Transaction.commit_onFirst (transaction : Transaction σ) (s : σ × ρ) :
    transaction.onFirst.commit s =
      ((transaction.commit s.1).1, ((transaction.commit s.1).2, s.2)) := by
  have hCommit : transaction.onFirst.native.commit s =
      ((transaction.native.commit s.1).1, ((transaction.native.commit s.1).2, s.2)) := rfl
  simp only [commit, bind, StateT.bind, hCommit]
  rcases transaction.native.commit s.1 with ⟨failure | value, t⟩
  · rfl
  · rfl

section Reflects

variable {kept : ρ} {strategy : TransactionStrategy σ} {cancel : CancellationToken σ}

theorem TransactionStrategy.reflects_onFirst :
    (strategy.onFirst kept).Reflects (fun opened transaction => opened = transaction.map .onFirst)
      (fun _ _ => True) strategy cancel where
  create := mirrors_perform (fun _ => rfl) fun _ => rfl
  token := by
    rintro _ transaction rfl
    simp only [TransactionStrategy.onFirst, Transaction.map_alone_onFirst]
    exact mirrors_perform (fun _ => trivial) fun _ => rfl
  complete := by
    rintro _ transaction rfl
    simp only [TransactionStrategy.onFirst, Transaction.map_alone_onFirst]
    exact mirrors_onFirst _
  discard := by
    rintro _ transaction rfl
    cases transaction with
    | none => exact mirrors_perform (fun _ => rfl) fun _ => rfl
    | some transaction => exact mirrors_perform (fun _ => rfl) fun _ => rfl
  commit := by
    rintro _ transaction rfl
    cases transaction with
    | none => exact mirrors_perform (fun _ => rfl) fun _ => rfl
    | some transaction =>
        refine mirrors_perform ?_ ?_
        · exact fun s => congrArg Prod.fst (transaction.commit_onFirst s)
        · exact fun s => congrArg (fun committed => committed.2.1) (transaction.commit_onFirst s)

end Reflects

section Acts

theorem allows_leavesSecond : Host.Allows (σ := σ × ρ) LeavesSecond where
  refl := leavesSecond_refl
  trans := leavesSecond_trans
  identifiers _ _ := rfl
  report _ _ _ := rfl

omit [Host σ] in
/-- A strategy that works on the host leaves alone what is kept beside it, and so do its
transactions. -/
theorem TransactionStrategy.actsBy_onFirst (kept : ρ) (strategy : TransactionStrategy σ) :
    (strategy.onFirst kept).ActsBy LeavesSecond LeavesSecond where
  create := by
    refine acts_perform (fun _ => rfl) fun s opened hOpened => ?_
    obtain ⟨transaction, -, rfl⟩ := Option.map_eq_some_iff.mp hOpened
    exact ⟨fun _ => rfl, fun _ => rfl⟩
  token opened _ := by
    refine acts_perform (fun _ => rfl) fun s native hNative => ?_
    obtain ⟨inner, -, rfl⟩ := Option.map_eq_some_iff.mp hNative
    exact ⟨fun _ => rfl, fun _ => rfl⟩
  complete _ _ _ := acts_onFirst _

theorem Task.acts_report (diagnostic : Diagnostic) :
    (perform (Host.note diagnostic) : Task (σ × ρ) Unit).Acts LeavesSecond fun _ => True :=
  acts_perform (fun _ => rfl) fun _ => trivial

end Acts

end BusEndpoint
