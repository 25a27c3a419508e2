import BusEndpoint.Start.Lazy

/-! The line at the gate of a start. Callers wait for their turn in the order in
which they came, one of them may be making a start, and the others have come
back. -/

namespace BusEndpoint

namespace StartGate

variable {ι : Type} {gate : StartGate ι} {ticket : Nat}

/-- The tickets that are out, the one whose turn it is first. -/
def queue (gate : StartGate ι) : List Nat := gate.holder.toList ++ gate.line

/-- Nobody waits at a free gate. -/
def IsFormed (gate : StartGate ι) : Prop := gate.holder = none → gate.line = []

theorem queue_eq_cons (hHolder : gate.holder = some ticket) : gate.queue = ticket :: gate.line := by
  rw [queue, hHolder]
  rfl

theorem enter_fst : gate.enter.1 = gate.nextTicket := by
  rw [enter]
  cases gate.holder <;> rfl

theorem enter_snd (isFormed : gate.IsFormed) :
    gate.enter.2.queue = gate.queue ++ [gate.nextTicket] ∧
      gate.enter.2.nextTicket = gate.nextTicket + 1 ∧ gate.enter.2.state = gate.state ∧
      gate.enter.2.IsFormed ∧ ∀ ticket, gate.holder = some ticket → gate.enter.2.holder = some ticket := by
  cases hHolder : gate.holder with
  | none =>
      have hLine := isFormed hHolder
      simp [enter, hHolder, queue, hLine, IsFormed]
  | some ticket => simp [enter, hHolder, queue, IsFormed]

/-- Whoever holds the gate is the first in line, and a release brings the next
one to its turn. -/
theorem queue_release (isFormed : gate.IsFormed) : gate.release.queue = gate.queue.tail := by
  cases hHolder : gate.holder with
  | none => simp [release, queue, hHolder, isFormed hHolder]
  | some ticket =>
      cases hLine : gate.line with
      | nil => simp [release, queue, hHolder, hLine]
      | cons next line => simp [release, queue, hHolder, hLine]

theorem isFormed_release : gate.release.IsFormed := by
  intro hHolder
  cases hLine : gate.line with
  | nil => simp [release, hLine]
  | cons next line => simp [release, hLine] at hHolder

/-- Giving up a ticket takes it out of the queue, wherever it stands. -/
theorem queue_leave (isFormed : gate.IsFormed) (ticket : Nat) :
    (gate.leave ticket).queue = gate.queue.erase ticket := by
  by_cases hTurn : gate.holder = some ticket
  · have hLeave : gate.leave ticket = gate.release := by simp [leave, isTurnOf, hTurn]
    rw [hLeave, queue_release isFormed, queue_eq_cons hTurn]
    simp
  · have hLeave : gate.leave ticket = { gate with line := gate.line.erase ticket } := by
      simp [leave, isTurnOf, hTurn]
    rw [hLeave]
    cases hHolder : gate.holder with
    | none => simp [queue, hHolder, isFormed hHolder]
    | some holder =>
        have hOther : holder ≠ ticket := by simpa [hHolder] using hTurn
        simp [queue, hHolder, hOther]

theorem isFormed_leave (isFormed : gate.IsFormed) : (gate.leave ticket).IsFormed := by
  rw [leave]
  split
  · exact isFormed_release
  · intro hHolder
    simp [isFormed hHolder]

/-- A ticket that is given up changes neither the turn of another one nor what
the start has come to. -/
theorem holder_leave {other : Nat} (hHolder : gate.holder = some other) (hOther : other ≠ ticket) :
    (gate.leave ticket).holder = some other := by
  simp [leave, isTurnOf, hHolder, hOther]

@[simp] theorem state_release : gate.release.state = gate.state := rfl

@[simp] theorem nextTicket_release : gate.release.nextTicket = gate.nextTicket := rfl

@[simp] theorem state_enter : gate.enter.2.state = gate.state := by
  rw [enter]
  cases gate.holder <;> rfl

@[simp] theorem state_leave : (gate.leave ticket).state = gate.state := by
  rw [leave]
  split <;> rfl

@[simp] theorem nextTicket_leave : (gate.leave ticket).nextTicket = gate.nextTicket := by
  rw [leave]
  split <;> rfl

end StartGate

theorem StartState.started?_eq_some_iff {ι : Type} {state : StartState ι} {started : ι} :
    state.started? = some started ↔ state = .started started := by
  cases state <;> simp [started?]

theorem StartState.started?_eq_none_iff {ι : Type} {state : StartState ι} :
    state.started? = none ↔ ∀ started, state ≠ .started started := by
  cases state <;> simp [started?]

/-- How far a caller has come. -/
inductive StartPhase (ι : Type) where
  | waiting (ticket : Nat)
  /-- Its start is under way. -/
  | starting (ticket : Nat)
  | finished (result : Except BusError ι)

/-- The ticket of a caller that has not come back. -/
@[simp] def StartPhase.ticket? {ι : Type} : StartPhase ι → Option Nat
  | .waiting ticket => some ticket
  | .starting ticket => some ticket
  | .finished _ => none

namespace StartPhase

variable {ι : Type}

/-- The ticket of a caller, unless it has come back. -/
def ticketOf (phases : List (StartPhase ι)) (caller : Nat) : Option Nat :=
  phases[caller]?.bind StartPhase.ticket?

section Lists

variable {α : Type} {items : List α} {item next : α} {index other : Nat}

theorem getElem?_concat_iff :
    (items ++ [item])[index]? = some next ↔
      items[index]? = some next ∨ (index = items.length ∧ next = item) := by
  rw [List.getElem?_append]
  by_cases hLt : index < items.length
  · rw [if_pos hLt]
    simp [Nat.ne_of_lt hLt]
  · rw [if_neg hLt, List.getElem?_eq_none (Nat.le_of_not_lt hLt), List.getElem?_singleton]
    by_cases hLength : index = items.length
    · simp [hLength, eq_comm]
    · have hBeyond : index - items.length ≠ 0 := by omega
      simp [hLength, hBeyond]

theorem getElem?_concat_iff_of_length (hIndex : index = items.length) :
    (items ++ [item])[other]? = some next ↔
      (other = index ∧ next = item) ∨ (other ≠ index ∧ items[other]? = some next) := by
  subst hIndex
  rw [getElem?_concat_iff]
  constructor
  · rintro (hNext | hLast)
    · have hOther := (List.getElem?_eq_some_iff.mp hNext).1
      exact .inr ⟨Nat.ne_of_lt hOther, hNext⟩
    · exact .inl hLast
  · rintro (hLast | ⟨-, hNext⟩)
    · exact .inr hLast
    · exact .inl hNext

theorem getElem?_set_iff (hIndex : index < items.length) :
    (items.set index item)[other]? = some next ↔
      (other = index ∧ next = item) ∨ (other ≠ index ∧ items[other]? = some next) := by
  rw [List.getElem?_set]
  by_cases hSame : index = other
  · subst hSame
    simp [hIndex, eq_comm]
  · simp [hSame, Ne.symm hSame]

end Lists

section Tickets

variable {phases : List (StartPhase ι)} {phase next : StartPhase ι} {caller other ticket : Nat}

theorem set_of_getElem? (hPhase : phases[caller]? = some phase) :
    phases.set caller phase = phases := by
  obtain ⟨hCaller, rfl⟩ := List.getElem?_eq_some_iff.mp hPhase
  exact List.set_getElem_self hCaller

/-- A step of one caller leaves those alone that have come to something else. -/
theorem getElem?_set_of_ne {before : StartPhase ι} (hBefore : phases[caller]? = some before)
    (hNext : phases[other]? = some next) (hNe : next ≠ before) :
    (phases.set caller phase)[other]? = some next := by
  refine (getElem?_set_iff (List.getElem?_eq_some_iff.mp hBefore).1).mpr (.inr ⟨?_, hNext⟩)
  rintro rfl
  exact hNe (Option.some.inj (hNext.symm.trans hBefore))

theorem ticketOf_of_getElem? (hPhase : phases[caller]? = some phase) :
    ticketOf phases caller = phase.ticket? := by
  rw [ticketOf, hPhase]
  rfl

theorem ticketOf_concat :
    ticketOf (phases ++ [phase]) caller =
      if caller = phases.length then phase.ticket? else ticketOf phases caller := by
  rw [ticketOf, ticketOf, List.getElem?_append]
  by_cases hLength : caller = phases.length
  · simp [hLength]
  · by_cases hLt : caller < phases.length
    · rw [if_pos hLt, if_neg hLength]
    · have hBeyond : [phase].length ≤ caller - phases.length := by
        rw [List.length_singleton]
        omega
      rw [if_neg hLt, if_neg hLength, List.getElem?_eq_none hBeyond,
        List.getElem?_eq_none (Nat.le_of_not_lt hLt)]

theorem lt_length_of_ticketOf (hTicket : ticketOf phases caller = some ticket) :
    caller < phases.length := by
  by_cases hLt : caller < phases.length
  · exact hLt
  · simp [ticketOf, List.getElem?_eq_none (Nat.le_of_not_lt hLt)] at hTicket

theorem ticketOf_set (hCaller : caller < phases.length) :
    ticketOf (phases.set caller phase) other =
      if other = caller then phase.ticket? else ticketOf phases other := by
  rw [ticketOf, List.getElem?_set]
  by_cases hSame : other = caller
  · simp [hSame, hCaller]
  · simp [hSame, Ne.symm hSame, ticketOf]

end Tickets

/-- Callers wait in the order in which they came, and a start is made by the
caller whose turn it is. -/
structure InLine (gate : StartGate ι) (phases : List (StartPhase ι)) : Prop where
  formed : gate.IsFormed
  queued : ∀ ticket, ticket ∈ gate.queue ↔ ∃ caller, ticketOf phases caller = some ticket
  sorted : gate.queue.Pairwise (· < ·)
  bounded : ∀ ticket ∈ gate.queue, ticket < gate.nextTicket
  ordered : ∀ caller other ticket next, ticketOf phases caller = some ticket →
    ticketOf phases other = some next → caller < other → ticket < next
  atTurn : ∀ caller ticket : Nat, phases[caller]? = some (.starting ticket) →
    gate.holder = some ticket

section InLine

variable {gate gate' : StartGate ι} {phases : List (StartPhase ι)} {caller other ticket : Nat}

theorem inLine_initial : InLine ({} : StartGate ι) [] where
  formed := fun _ => rfl
  queued := by simp [StartGate.queue, ticketOf]
  sorted := by simp [StartGate.queue]
  bounded := by simp [StartGate.queue]
  ordered := by simp [ticketOf]
  atTurn := by simp

theorem InLine.ticket_injective (inLine : InLine gate phases)
    (hCaller : ticketOf phases caller = some ticket) (hOther : ticketOf phases other = some ticket) :
    caller = other := by
  rcases Nat.lt_trichotomy caller other with hLt | hEq | hLt
  · exact absurd (inLine.ordered caller other ticket ticket hCaller hOther hLt) (Nat.lt_irrefl ticket)
  · exact hEq
  · exact absurd (inLine.ordered other caller ticket ticket hOther hCaller hLt) (Nat.lt_irrefl ticket)

/-- It is the turn of a caller when all who came before it have come back. -/
theorem InLine.holder_of_first (inLine : InLine gate phases)
    (hTicket : ticketOf phases caller = some ticket)
    (hFirst : ∀ other < caller, ticketOf phases other = none) : gate.holder = some ticket := by
  have hQueued := (inLine.queued ticket).mpr ⟨caller, hTicket⟩
  cases hHolder : gate.holder with
  | none => simp [StartGate.queue, hHolder, inLine.formed hHolder] at hQueued
  | some holder =>
      have hQueue := StartGate.queue_eq_cons hHolder
      have hSorted := inLine.sorted
      rw [hQueue] at hQueued hSorted
      rcases List.mem_cons.mp hQueued with rfl | hBehind
      · rfl
      · have hLt := List.rel_of_pairwise_cons hSorted hBehind
        obtain ⟨other, hOther⟩ := (inLine.queued holder).mp (by simp [hQueue])
        rcases Nat.lt_trichotomy other caller with hBefore | rfl | hAfter
        · cases (hFirst other hBefore).symm.trans hOther
        · cases hTicket.symm.trans hOther
          exact absurd hLt (Nat.lt_irrefl _)
        · have hGt := inLine.ordered caller other ticket holder hTicket hOther hAfter
          omega

/-- The gate is free when all callers have come back. -/
theorem InLine.holder_eq_none (inLine : InLine gate phases)
    (hAll : ∀ caller, ticketOf phases caller = none) : gate.holder = none := by
  cases hHolder : gate.holder with
  | none => rfl
  | some ticket =>
      obtain ⟨caller, hTicket⟩ := (inLine.queued ticket).mp (by simp [StartGate.queue, hHolder])
      cases (hAll caller).symm.trans hTicket

/-- A caller that comes back at once takes no place in the line. -/
theorem InLine.concat_finished (inLine : InLine gate phases) (result : Except BusError ι) :
    InLine gate (phases ++ [.finished result]) := by
  have hTicket (caller : Nat) :
      ticketOf (phases ++ [.finished result]) caller = ticketOf phases caller := by
    rw [ticketOf_concat]
    split
    · rename_i hLength
      simp [hLength, ticketOf]
    · rfl
  refine ⟨inLine.formed, ?_, inLine.sorted, inLine.bounded, ?_, ?_⟩
  · simpa only [hTicket] using inLine.queued
  · simpa only [hTicket] using inLine.ordered
  · intro caller ticket hStarting
    rcases getElem?_concat_iff.mp hStarting with hStarting | ⟨-, hStarting⟩
    · exact inLine.atTurn caller ticket hStarting
    · cases hStarting

/-- A caller that takes a ticket is the last in line. -/
theorem InLine.concat_waiting (inLine : InLine gate phases) :
    InLine gate.enter.2 (phases ++ [.waiting gate.enter.1]) := by
  obtain ⟨hQueue, hNext, -, hFormed, hHolder⟩ := StartGate.enter_snd inLine.formed
  have hBelow (caller ticket : Nat) (hTicket : ticketOf phases caller = some ticket) :
      ticket < gate.nextTicket :=
    inLine.bounded ticket ((inLine.queued ticket).mpr ⟨caller, hTicket⟩)
  rw [StartGate.enter_fst]
  refine ⟨hFormed, ?_, ?_, ?_, ?_, ?_⟩
  · intro ticket
    rw [hQueue, List.mem_append, inLine.queued, List.mem_singleton]
    constructor
    · rintro (⟨caller, hTicket⟩ | rfl)
      · have hLt := lt_length_of_ticketOf hTicket
        exact ⟨caller, by rw [ticketOf_concat, if_neg (Nat.ne_of_lt hLt), hTicket]⟩
      · exact ⟨phases.length, by rw [ticketOf_concat, if_pos rfl]; rfl⟩
    · rintro ⟨caller, hTicket⟩
      rw [ticketOf_concat] at hTicket
      split at hTicket
      · exact .inr (Option.some.inj hTicket).symm
      · exact .inl ⟨caller, hTicket⟩
  · rw [hQueue, List.pairwise_append]
    refine ⟨inLine.sorted, List.pairwise_singleton _ _, ?_⟩
    intro ticket hTicket next hNext
    rw [List.mem_singleton.mp hNext]
    exact inLine.bounded ticket hTicket
  · intro ticket hTicket
    rw [hQueue, List.mem_append, List.mem_singleton] at hTicket
    rw [hNext]
    rcases hTicket with hTicket | rfl
    · exact Nat.lt_succ_of_lt (inLine.bounded ticket hTicket)
    · exact Nat.lt_succ_self _
  · intro caller other ticket next hCaller hOther hLt
    have hLength := lt_length_of_ticketOf hOther
    rw [List.length_append, List.length_singleton] at hLength
    rw [ticketOf_concat, if_neg (by omega)] at hCaller
    rw [ticketOf_concat] at hOther
    split at hOther
    · cases hOther
      exact hBelow caller ticket hCaller
    · exact inLine.ordered caller other ticket next hCaller hOther hLt
  · intro caller ticket hStarting
    rcases getElem?_concat_iff.mp hStarting with hStarting | ⟨-, hStarting⟩
    · exact hHolder ticket (inLine.atTurn caller ticket hStarting)
    · cases hStarting

/-- A caller that comes back gives up its place, and all others keep theirs. -/
theorem InLine.set_finished (inLine : InLine gate phases) (result : Except BusError ι)
    (hTicket : ticketOf phases caller = some ticket) (hFormed : gate'.IsFormed)
    (hQueue : gate'.queue = gate.queue.erase ticket) (hNext : gate'.nextTicket = gate.nextTicket)
    (hHolder : ∀ other, gate.holder = some other → other ≠ ticket → gate'.holder = some other) :
    InLine gate' (phases.set caller (.finished result)) := by
  have hCaller := lt_length_of_ticketOf hTicket
  have hNodup : gate.queue.Nodup := inLine.sorted.imp Nat.ne_of_lt
  have hOthers (other next : Nat) :
      ticketOf (phases.set caller (.finished result)) other = some next ↔
        other ≠ caller ∧ ticketOf phases other = some next := by
    rw [ticketOf_set hCaller]
    split
    · rename_i hSame
      simp [hSame]
    · rename_i hOther
      simp [hOther]
  refine ⟨hFormed, ?_, ?_, ?_, ?_, ?_⟩
  · intro next
    rw [hQueue, hNodup.mem_erase_iff, inLine.queued]
    constructor
    · rintro ⟨hOther, other, hNext⟩
      refine ⟨other, (hOthers other next).mpr ⟨?_, hNext⟩⟩
      rintro rfl
      exact hOther (Option.some.inj (hNext.symm.trans hTicket))
    · rintro ⟨other, hNext⟩
      obtain ⟨hOther, hNext⟩ := (hOthers other next).mp hNext
      refine ⟨?_, other, hNext⟩
      rintro rfl
      exact hOther (inLine.ticket_injective hNext hTicket)
  · rw [hQueue]
    exact inLine.sorted.erase _
  · intro next hMem
    rw [hNext]
    rw [hQueue] at hMem
    exact inLine.bounded next (List.mem_of_mem_erase hMem)
  · intro first second next last hFirst hSecond hLt
    exact inLine.ordered first second next last ((hOthers first next).mp hFirst).2
      ((hOthers second last).mp hSecond).2 hLt
  · intro other next hStarting
    rcases (getElem?_set_iff hCaller).mp hStarting with ⟨-, hStarting⟩ | ⟨hOther, hStarting⟩
    · cases hStarting
    · refine hHolder next (inLine.atTurn other next hStarting) ?_
      rintro rfl
      exact hOther (inLine.ticket_injective (ticketOf_of_getElem? hStarting) hTicket)

/-- A caller that begins its start keeps its place. -/
theorem InLine.set_starting (inLine : InLine gate phases)
    (waits : phases[caller]? = some (.waiting ticket)) (hTurn : gate.holder = some ticket)
    (state : StartState ι) : InLine (gate.setState state) (phases.set caller (.starting ticket)) := by
  have hTicket : ticketOf phases caller = some ticket := ticketOf_of_getElem? waits
  have hCaller := lt_length_of_ticketOf hTicket
  have hSame (other : Nat) :
      ticketOf (phases.set caller (.starting ticket)) other = ticketOf phases other := by
    rw [ticketOf_set hCaller]
    split
    · rename_i hSame
      rw [hSame, hTicket]
      rfl
    · rfl
  refine ⟨inLine.formed, ?_, inLine.sorted, inLine.bounded, ?_, ?_⟩
  · intro next
    simp only [hSame]
    exact inLine.queued next
  · simpa only [hSame] using inLine.ordered
  · intro other next hStarting
    rcases (getElem?_set_iff hCaller).mp hStarting with ⟨-, hStarting⟩ | ⟨-, hStarting⟩
    · cases hStarting
      exact hTurn
    · exact inLine.atTurn other next hStarting

/-- Whoever releases the gate at its turn takes its ticket out of the line. -/
theorem InLine.set_released (inLine : InLine gate phases)
    (hTicket : ticketOf phases caller = some ticket) (hTurn : gate.holder = some ticket)
    (state : StartState ι) (result : Except BusError ι) :
    InLine (gate.setState state).release (phases.set caller (.finished result)) := by
  have hQueue : gate.release.queue = gate.queue.erase ticket := by
    rw [StartGate.queue_release inLine.formed, StartGate.queue_eq_cons hTurn, List.erase_cons_head,
      List.tail_cons]
  refine inLine.set_finished result hTicket StartGate.isFormed_release hQueue rfl ?_
  intro other hHolder hOther
  exact absurd (Option.some.inj (hHolder.symm.trans hTurn)) hOther

end InLine

end StartPhase

end BusEndpoint
