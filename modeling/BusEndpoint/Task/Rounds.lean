import BusEndpoint.Task
/-!
Tasks side by side. They go on in their order, round after round, each until
it ends or gives up control, so that what they do to the state is interleaved
where they give it up. Side by side they are one task again, which gives up
control between its rounds; the members of a group within a group therefore
go on in the same rounds as all others.
-/

namespace BusEndpoint

variable {σ α : Type}

/-- The result of a task that has ended. -/
def Progress.result? : Progress σ α → Option α
  | finished value => some value
  | suspended _ => none

namespace Task

/-- One round: every task that has not ended goes on once. -/
def round (tasks : List (Progress σ α)) : StateM σ (List (Progress σ α)) :=
  tasks.mapM fun
    | .finished value => return .finished value
    | .suspended rest => rest.poll

/-- Rounds until all tasks have ended, but not more than a number of them. -/
def rounds : Nat → List (Progress σ α) → Task σ (List (Progress σ α))
  | 0, tasks => return tasks
  | limit + 1, tasks => do
    let tasks ← perform (round tasks)
    if tasks.all fun task => task.result?.isSome then return tasks
    yieldOnce
    rounds limit tasks

/-- The results of tasks that run side by side, as far as they end within a
number of rounds. -/
def sideBySide (limit : Nat) (tasks : List (Task σ α)) : Task σ (List (Option α)) := do
  let ended ← rounds limit (tasks.map .suspended)
  return ended.map Progress.result?

end Task

end BusEndpoint
