import BusEndpoint.Proofs.Attempt.Protocol

/-! Which calls the parts of an attempt make. The first half of an attempt
calls the message pipeline and the second half the error pipeline; each of them
may be settled by a completion and a commit. -/

namespace BusEndpoint

variable {σ : Type}

namespace AttemptEvent

/-- The strategy was asked for a transaction; it may have opened none. -/
@[simp] def opening? : AttemptEvent σ → Option (Option Nat)
  | opened handle => some handle
  | _ => none

@[simp] def isErrorCall : AttemptEvent σ → Bool
  | errorBegun _ => true
  | _ => false

/-- An event in the settlement of a transaction. -/
@[simp] def isOfSettlement : AttemptEvent σ → Bool
  | completionBegun _ | completionEnded _ _ | committed _ _ | rolledBack _ | acted | resumed _ =>
    true
  | _ => false

/-- An event after the error pipeline was begun. -/
@[simp] def isOfRecovery : AttemptEvent σ → Bool
  | errorEnded _ => true
  | event => event.isOfSettlement

variable {event : AttemptEvent σ}

theorem isOfRecovery_of_settlement (hSettlement : event.isOfSettlement = true) :
    event.isOfRecovery = true := by
  cases event with
  | errorEnded answer => rfl
  | _ => exact hSettlement

theorem opening?_eq_none (hRecovery : event.isOfRecovery = true) : event.opening? = none := by
  cases event with
  | opened handle => cases hRecovery
  | _ => rfl

theorem isErrorCall_eq_false (hRecovery : event.isOfRecovery = true) :
    event.isErrorCall = false := by
  cases event with
  | errorBegun context => cases hRecovery
  | _ => rfl

end AttemptEvent

namespace Journal

/-- What the strategy opened, attempt by attempt. -/
def openings (journal : Journal σ) : List (Option Nat) :=
  journal.filterMap AttemptEvent.opening?

/-- How often the error pipeline was called. -/
def errorCalls (journal : Journal σ) : Nat := journal.countP AttemptEvent.isErrorCall

variable {failure : Failure} {handle : Option Nat} {part first second : Journal σ}
  {event : AttemptEvent σ}

@[simp] theorem openings_nil : openings ([] : Journal σ) = [] := rfl

@[simp] theorem openings_append :
    (first ++ second).openings = first.openings ++ second.openings :=
  List.filterMap_append

@[simp] theorem openings_cons :
    openings (event :: part) = event.opening?.toList ++ part.openings := by
  rw [openings, List.filterMap_cons]
  cases event.opening? <;> rfl

@[simp] theorem errorCalls_append :
    (first ++ second).errorCalls = first.errorCalls + second.errorCalls :=
  List.countP_append

@[simp] theorem errorCalls_cons :
    errorCalls (event :: part) = (if event.isErrorCall then 1 else 0) + part.errorCalls := by
  rw [errorCalls, List.countP_cons, Nat.add_comm, errorCalls]

theorem IsWork.not_mem {work : Journal σ} (hWork : work.IsWork) (hActed : event ≠ .acted)
    (hResumed : ∀ cancelled, event ≠ .resumed cancelled) : event ∉ work := by
  intro hEvent
  rcases hWork event hEvent with rfl | ⟨cancelled, rfl⟩
  · exact hActed rfl
  · exact hResumed cancelled rfl

@[simp] theorem mem_rollback :
    event ∈ (rollback handle : Journal σ) ↔ ∃ number, handle = some number ∧ event = .rolledBack number := by
  cases handle with
  | none => simp [rollback]
  | some number => simp [rollback]

theorem IsWork.all_isOfSettlement {work : Journal σ} (hWork : work.IsWork) :
    work.all AttemptEvent.isOfSettlement = true := by
  apply List.all_eq_true.mpr
  intro event hEvent
  rcases hWork event hEvent with rfl | ⟨cancelled, rfl⟩
  · rfl
  · rfl

theorem all_isOfSettlement_rollback :
    (rollback handle : Journal σ).all AttemptEvent.isOfSettlement = true := by
  cases handle with
  | none => rfl
  | some number => rfl

theorem Settles.all_isOfSettlement {result : Except BusError Unit}
    (settles : Settles handle part result) : part.all AttemptEvent.isOfSettlement = true := by
  cases settles with
  | incomplete hWork => simp [hWork.all_isOfSettlement, all_isOfSettlement_rollback]
  | withoutTransaction hWork => simp [hWork.all_isOfSettlement]
  | committed hWork => simp [hWork.all_isOfSettlement]
  | rejected hWork => simp [hWork.all_isOfSettlement]

theorem Settles.completionBegun_mem {result : Except BusError Unit}
    (settles : Settles handle part result) : .completionBegun handle ∈ part := by
  cases settles with
  | _ => simp

theorem not_mem_of_all {allowed : AttemptEvent σ → Bool} (hAll : part.all allowed = true)
    (hEvent : allowed event = false) : event ∉ part := by
  intro hMember
  rw [List.all_eq_true.mp hAll event hMember] at hEvent
  cases hEvent

theorem all_isOfRecovery_of_settlement (hAll : part.all AttemptEvent.isOfSettlement = true) :
    part.all AttemptEvent.isOfRecovery = true := by
  apply List.all_eq_true.mpr
  intro event hEvent
  exact AttemptEvent.isOfRecovery_of_settlement (List.all_eq_true.mp hAll event hEvent)

theorem IsWork.all_isOfRecovery {work : Journal σ} (hWork : work.IsWork) :
    work.all AttemptEvent.isOfRecovery = true :=
  all_isOfRecovery_of_settlement hWork.all_isOfSettlement

theorem all_isOfRecovery_rollback :
    (rollback handle : Journal σ).all AttemptEvent.isOfRecovery = true :=
  all_isOfRecovery_of_settlement all_isOfSettlement_rollback

theorem Settles.all_isOfRecovery {result : Except BusError Unit}
    (settles : Settles handle part result) : part.all AttemptEvent.isOfRecovery = true :=
  all_isOfRecovery_of_settlement settles.all_isOfSettlement

theorem Recovers.all_isOfRecovery {outcome : Except BusError AttemptOutcome}
    (recovers : Recovers failure handle part outcome) :
    part.all AttemptEvent.isOfRecovery = true := by
  cases recovers with
  | broken hWork => simp [hWork.all_isOfRecovery, all_isOfRecovery_rollback]
  | retryRequired hWork => simp [hWork.all_isOfRecovery, all_isOfRecovery_rollback]
  | handled hWork settles => simp [hWork.all_isOfRecovery, settles.all_isOfRecovery]

theorem Recovers.errorEnded_mem {outcome : Except BusError AttemptOutcome}
    (recovers : Recovers failure handle part outcome) : ∃ answer, .errorEnded answer ∈ part := by
  cases recovers with
  | @broken work error hWork => exact ⟨.error error, by simp⟩
  | retryRequired hWork => exact ⟨.ok .retryRequired, by simp⟩
  | handled hWork settles => exact ⟨.ok .handled, by simp⟩

theorem openings_eq_nil (hAll : part.all AttemptEvent.isOfRecovery = true) : part.openings = [] := by
  apply List.filterMap_eq_nil_iff.mpr
  intro event hEvent
  exact AttemptEvent.opening?_eq_none (List.all_eq_true.mp hAll event hEvent)

theorem errorCalls_eq_zero (hAll : part.all AttemptEvent.isOfRecovery = true) :
    part.errorCalls = 0 := by
  apply List.countP_eq_zero.mpr
  intro event hEvent
  rw [AttemptEvent.isErrorCall_eq_false (List.all_eq_true.mp hAll event hEvent)]
  exact Bool.false_ne_true

end Journal

end BusEndpoint
