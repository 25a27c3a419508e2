/-!
Work that gives up control while it runs. A task acts on the state of the
host, may pause, and may wait until the state allows it to go on; in between,
others may change the state. A task is data, so what it does on every possible
state can be followed step by step, and every task that is not left waiting
comes to its end.
-/

namespace BusEndpoint

/-- Work on states `σ` with results in `α`. -/
inductive Task (σ α : Type) where
  | done (value : α)
  /-- Change the state and go on; what follows may depend on the old state. -/
  | act (update : σ → σ) (next : σ → Task σ α)
  /-- Give up control once. -/
  | pause (next : Task σ α)
  /-- Give up control until the state is ready. -/
  | wait (ready : σ → Bool) (next : Task σ α)

/-- What a task has come to when it gives back control. -/
inductive Progress (σ α : Type) where
  | finished (value : α)
  | suspended (rest : Task σ α)

namespace Task

variable {σ τ α β : Type}

/-- Run one task behind another, on the result of the first. -/
def andThen : Task σ α → (α → Task σ β) → Task σ β
  | done value, follow => follow value
  | act update next, follow => act update fun s => (next s).andThen follow
  | pause next, follow => pause (next.andThen follow)
  | wait ready next, follow => wait ready (next.andThen follow)

instance : Monad (Task σ) where
  pure := done
  bind := andThen

/-- A change of the state in one go. -/
def perform (change : StateM σ α) : Task σ α :=
  act (fun s => (change.run s).2) fun s => done (change.run s).1

instance : MonadLift (StateM σ) (Task σ) := ⟨perform⟩

/-- Read something off the state. -/
def observe (view : σ → α) : Task σ α := act id fun s => done (view s)

/-- Give up control once. -/
def yieldOnce : Task σ Unit := pause (done ())

/-- Run a task until it ends or gives up control. -/
def poll : Task σ α → σ → Progress σ α × σ
  | done value, s => (.finished value, s)
  | act update next, s => (next s).poll (update s)
  | pause next, s => (.suspended next, s)
  | wait ready next, s => if ready s then next.poll s else (.suspended (wait ready next), s)

/-- Run a task to its end with nobody in between. A task that would wait for
ever has no result. -/
def run : Task σ α → σ → Option α × σ
  | done value, s => (some value, s)
  | act update next, s => (next s).run (update s)
  | pause next, s => next.run s
  | wait ready next, s => if ready s then next.run s else (none, s)

/-- Give a task up when it is resumed in a state that says stop. What the task
does until it gives up control is not cut, and a wait for what is there already
does not give up control. -/
def cutAtResumption (stop : σ → Bool) : Task σ α → Task σ (Option α)
  | done value => done (some value)
  | act update next => act update fun s => (next s).cutAtResumption stop
  | pause next => pause (act id fun s => if stop s then done none else next.cutAtResumption stop)
  | wait ready next =>
    act id fun s =>
      if ready s then next.cutAtResumption stop
      else pause (wait (fun s => stop s || ready s)
        (act id fun s => if stop s then done none else next.cutAtResumption stop))

/-- Give a task up when it is started or resumed in a state that says
stop. -/
def cutBy (stop : σ → Bool) (task : Task σ α) : Task σ (Option α) :=
  act id fun s => if stop s then done none else task.cutAtResumption stop

/-- Change the state whenever a task is resumed. -/
def onResumption (change : σ → σ) : Task σ α → Task σ α
  | done value => done value
  | act update next => act update fun s => (next s).onResumption change
  | pause next => pause (act change fun _ => next.onResumption change)
  | wait ready next => wait ready (act change fun _ => next.onResumption change)

/-- Run a task on one part of a larger state. -/
def within (get : τ → σ) (set : σ → τ → τ) : Task σ α → Task τ α
  | done value => done value
  | act update next =>
    act (fun t => set (update (get t)) t) fun t => (next (get t)).within get set
  | pause next => pause (next.within get set)
  | wait ready next => wait (fun t => ready (get t)) (next.within get set)

@[simp] theorem pure_eq (value : α) : (pure value : Task σ α) = done value := rfl

@[simp] theorem bind_eq (task : Task σ α) (follow : α → Task σ β) :
    task >>= follow = task.andThen follow := rfl

theorem andThen_done (task : Task σ α) : task.andThen done = task := by
  induction task with
  | done value => rfl
  | act update next ih => simp only [andThen, ih]
  | pause next ih => simp only [andThen, ih]
  | wait ready next ih => simp only [andThen, ih]

theorem andThen_assoc {γ : Type} (task : Task σ α) (f : α → Task σ β) (g : β → Task σ γ) :
    (task.andThen f).andThen g = task.andThen fun a => (f a).andThen g := by
  induction task with
  | done value => rfl
  | act update next ih => simp only [andThen, ih]
  | pause next ih => simp only [andThen, ih]
  | wait ready next ih => simp only [andThen, ih]

end Task

end BusEndpoint
