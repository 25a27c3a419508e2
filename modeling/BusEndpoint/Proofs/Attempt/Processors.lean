import BusEndpoint.Proofs.Attempt.PartCalls
import BusEndpoint.Proofs.Attempt.Protocol
import BusEndpoint.Task.Rounds
import Mathlib.Data.List.Forall2
import Mathlib.Data.List.Induction

/-! A message processor and what is asked of it. It may be bound at any time and any number
of times, while its calls go on side by side and others change the host. The first binding
is the one, and all later ones are as good as not made: what is asked for is followed
operation by operation, and the target that was first is carried along. -/

namespace BusEndpoint

open BusEndpoint.Task

variable {σ : Type}

/-- What a message processor may be bound to. The numbers are to tell pipelines apart. -/
inductive Target (σ : Type) where
  | sendOnly
  | receive (number : Nat) (pipeline : Pipeline σ)

def Target.binding : Target σ → Binding σ
  | sendOnly => .sendOnly
  | receive _ pipeline => .receiving pipeline

/-- The binding of a processor that was bound to this, if to anything. -/
def Binding.ofTarget? : Option (Target σ) → Binding σ
  | none => unbound
  | some target => target.binding

/-- What is asked of a message processor, and what happens on its host meanwhile. -/
inductive Processor.Operation (σ : Type) where
  | bind (target : Target σ)
  | process (message : InboundMessage) (strategy : TransactionStrategy σ)
      (cancel : CancellationToken σ)
  /-- A call that has given up control goes on. -/
  | resume (call : Nat)
  | change (update : σ → σ)

def Processor.Operation.target? : Processor.Operation σ → Option (Target σ)
  | bind target => some target
  | _ => none

/-- A message processor on its host, with the calls that were made so far. -/
structure Processor (σ : Type) where
  binding : Binding σ
  host : σ
  calls : List (Progress σ (Except BusError Unit))

namespace Processor

/-- A processor that was bound when it was made, or was not. -/
def create (start : Option (Target σ)) (host : σ) : Processor σ := ⟨.ofTarget? start, host, []⟩

def bind (target : Target σ) (processor : Processor σ) : Except BusError Unit × Processor σ :=
  let bound := processor.binding.bind target.binding
  (bound.1, { processor with binding := bound.2 })

/-- A new call that goes on as far as it can. -/
def call (task : Task σ (Except BusError Unit)) (processor : Processor σ) : Processor σ :=
  let polled := task.poll processor.host
  { processor with host := polled.2, calls := processor.calls ++ [polled.1] }

def resume (call : Nat) (processor : Processor σ) : Processor σ :=
  match processor.calls[call]? with
  | some (.suspended rest) =>
    let polled := rest.poll processor.host
    { processor with host := polled.2, calls := processor.calls.set call polled.1 }
  | _ => processor

/-- What the calls have come to, in the order in which they were made. -/
def answers (processor : Processor σ) : List (Option (Except BusError Unit)) :=
  processor.calls.map Progress.result?

variable [Host σ]

def process (message : InboundMessage) (strategy : TransactionStrategy σ)
    (cancel : CancellationToken σ) (processor : Processor σ) : Processor σ :=
  processor.call (processor.binding.process message strategy cancel)

def perform (processor : Processor σ) : Operation σ → Processor σ
  | .bind target => (processor.bind target).2
  | .process message strategy cancel => processor.process message strategy cancel
  | .resume call => processor.resume call
  | .change update => { processor with host := update processor.host }

def run (operations : List (Operation σ)) (processor : Processor σ) : Processor σ :=
  operations.foldl perform processor

end Processor

/-- The first target of all, that of the constructor before the others. -/
def firstTarget (start : Option (Target σ)) (operations : List (Processor.Operation σ)) :
    Option (Target σ) :=
  start.or (operations.findSome? Processor.Operation.target?)

theorem firstTarget_nil (start : Option (Target σ)) : firstTarget start [] = start := Option.or_none

theorem firstTarget_append (start : Option (Target σ))
    (operations later : List (Processor.Operation σ)) :
    firstTarget start (operations ++ later) = firstTarget (firstTarget start operations) later := by
  rw [firstTarget, firstTarget, firstTarget, List.findSome?_append, Option.or_assoc]

theorem firstTarget_single (start : Option (Target σ)) (operation : Processor.Operation σ) :
    firstTarget start [operation] = start.or operation.target? := by
  rw [firstTarget, List.findSome?_singleton]

namespace Processor

variable [Host σ] {processor : Processor σ} {start bound : Option (Target σ)}
  {target other : Target σ} {operations later : List (Operation σ)} {operation : Operation σ}

theorem run_append : run (operations ++ later) processor = run later (run operations processor) :=
  List.foldl_append

theorem run_concat :
    run (operations ++ [operation]) processor = (run operations processor).perform operation :=
  run_append

omit [Host σ] in
theorem bind_of_unbound (hBinding : processor.binding = .unbound) :
    processor.bind target = (.ok (), { processor with binding := target.binding }) := by
  rw [bind, hBinding]
  rfl

omit [Host σ] in
/-- A binding that comes too late. -/
theorem bind_of_bound (hBinding : processor.binding = other.binding) :
    processor.bind target =
      (.error (.configuration "message processor is already bound"), processor) := by
  obtain ⟨binding, host, calls⟩ := processor
  subst hBinding
  cases other <;> rfl

/-- The binding is looked at before the token of the call, the strategy and the message. -/
theorem process_of_unbound {message : InboundMessage} {strategy : TransactionStrategy σ}
    {cancel : CancellationToken σ} (hBinding : processor.binding = .unbound) :
    processor.process message strategy cancel =
      { processor with calls := processor.calls ++ [.finished (.error .notInitialized)] } := by
  obtain ⟨binding, host, calls⟩ := processor
  subst hBinding
  rfl

theorem process_of_sendOnly {message : InboundMessage} {strategy : TransactionStrategy σ}
    {cancel : CancellationToken σ} (hBinding : processor.binding = .sendOnly) :
    processor.process message strategy cancel =
      { processor with calls := processor.calls ++ [.finished (.error .sendOnly)] } := by
  obtain ⟨binding, host, calls⟩ := processor
  subst hBinding
  rfl

omit [Host σ] in
theorem binding_resume (call : Nat) (processor : Processor σ) :
    (processor.resume call).binding = processor.binding := by
  rw [resume]
  split <;> rfl

theorem binding_perform (hBinding : processor.binding = .ofTarget? bound) :
    (processor.perform operation).binding = .ofTarget? (bound.or operation.target?) := by
  have hKept : processor.binding = .ofTarget? (bound.or none) := by rw [hBinding, Option.or_none]
  cases operation with
  | bind target =>
      cases bound with
      | none =>
          change (processor.bind target).2.binding = _
          rw [bind_of_unbound hBinding]
          rfl
      | some other =>
          change (processor.bind target).2.binding = other.binding
          rw [bind_of_bound (show processor.binding = other.binding from hBinding)]
          exact hBinding
  | process message strategy cancel => exact hKept
  | resume call => exact (binding_resume call processor).trans hKept
  | change update => exact hKept

/-- The first target is the one, whatever is asked for later. -/
theorem binding_run (hBinding : processor.binding = .ofTarget? start) :
    (run operations processor).binding = .ofTarget? (firstTarget start operations) := by
  induction operations using List.reverseRecOn with
  | nil => rw [firstTarget_nil]; exact hBinding
  | append_singleton operations operation ih =>
      rw [run_concat, firstTarget_append, firstTarget_single]
      exact binding_perform ih

end Processor

section Notes

/-- No other part than those of the target is called. -/
def Target.Calls : Option (Target σ) → PartCall → Prop
  | some (receive number _), call => call = .opened ∨ call = .called number
  | _, _ => False

theorem Target.calls_iff {target : Option (Target σ)} {call : PartCall} :
    Target.Calls target call ↔ ∃ number pipeline,
      target = some (.receive number pipeline) ∧ (call = .opened ∨ call = .called number) := by
  rcases target with _ | _ | ⟨number, pipeline⟩ <;> simp [Target.Calls]

def Target.noted : Target σ → Target (σ × List PartCall)
  | sendOnly => .sendOnly
  | receive number pipeline => .receive number (pipeline.noted number)

/-- The operation with parts that note their calls. -/
def Processor.Operation.noted : Processor.Operation σ → Processor.Operation (σ × List PartCall)
  | bind target => .bind target.noted
  | process message strategy cancel => .process message strategy.noted fun s => cancel s.1
  | resume call => .resume call
  | change update => .change fun s => (update s.1, s.2)

theorem firstTarget_noted (start : Option (Target σ)) (operations : List (Processor.Operation σ)) :
    firstTarget (start.map Target.noted) (operations.map Processor.Operation.noted) =
      (firstTarget start operations).map Target.noted := by
  have hTarget (operation : Processor.Operation σ) :
      operation.noted.target? = operation.target?.map Target.noted := by
    cases operation <;> rfl
  rw [firstTarget, firstTarget, Option.map_or, List.findSome?_map]
  congr 1
  induction operations with
  | nil => rfl
  | cons operation rest ih =>
      rw [List.findSome?_cons, List.findSome?_cons, Function.comp_apply, hTarget, ih]
      cases operation.target? <;> rfl

variable [Host σ] {kind wide : PartCall → Prop}

/-- A call has the parts of the target only. -/
theorem Target.acts_process (target : Option (Target σ)) (message : InboundMessage)
    (strategy : TransactionStrategy σ) (cancel : CancellationToken (σ × List PartCall)) :
    ((Binding.ofTarget? (target.map Target.noted)).process message strategy.noted cancel).Acts
      (Adds (Target.Calls target)) fun _ => True := by
  rcases target with _ | _ | ⟨number, pipeline⟩
  · trivial
  · trivial
  · refine allows_adds.acts_process (fun _ _ => adds_of_leavesSecond)
      (strategy.actsBy_noted (.inl rfl)) ?_
    rintro _ ⟨⟩
    exact pipeline.actsBy_noted (.inr rfl)

/-- The notes are of some kind, and the calls that go on will note nothing else. -/
structure Processor.Keeps (kind : PartCall → Prop) (processor : Processor (σ × List PartCall)) :
    Prop where
  noted : ∀ call ∈ processor.host.2, kind call
  going : ∀ rest, .suspended rest ∈ processor.calls → rest.Acts (Adds kind) fun _ => True

namespace Processor

variable {processor : Processor (σ × List PartCall)} {bound start : Option (Target σ)}
  {task : Task (σ × List PartCall) (Except BusError Unit)}

omit [Host σ] in
theorem Keeps.mono (keeps : processor.Keeps kind) (hWide : ∀ call, kind call → wide call) :
    processor.Keeps wide where
  noted call hCall := hWide call (keeps.noted call hCall)
  going rest hRest := (keeps.going rest hRest).widen fun _ _ adds => adds.mono hWide

/-- A task that goes on, in a new call or in one that has given up control. -/
theorem Keeps.poll (keeps : processor.Keeps kind) (acts : task.Acts (Adds kind) fun _ => True) :
    (∀ call ∈ (task.poll processor.host).2.2, kind call) ∧
      ∀ rest, (task.poll processor.host).1 = .suspended rest →
        rest.Acts (Adds kind) fun _ => True := by
  obtain ⟨⟨added, hAdded, hKind⟩, -, hRest⟩ :=
    acts.poll allows_adds.refl allows_adds.trans processor.host
  refine ⟨fun call hCall => ?_, hRest⟩
  rw [hAdded, List.mem_append] at hCall
  exact hCall.elim (keeps.noted call) (hKind call)

theorem Keeps.call (keeps : processor.Keeps kind) (acts : task.Acts (Adds kind) fun _ => True) :
    (processor.call task).Keeps kind := by
  obtain ⟨hNoted, hRest⟩ := keeps.poll acts
  refine ⟨hNoted, fun rest hMem => ?_⟩
  rcases List.mem_append.mp hMem with hMem | hMem
  · exact keeps.going rest hMem
  · exact hRest rest (List.mem_singleton.mp hMem).symm

theorem Keeps.resume (keeps : processor.Keeps kind) (call : Nat) :
    (processor.resume call).Keeps kind := by
  rw [Processor.resume]
  split
  · rename_i rest hCall
    obtain ⟨hNoted, hRest⟩ := keeps.poll (keeps.going rest (List.mem_of_getElem? hCall))
    refine ⟨hNoted, fun later hMem => ?_⟩
    rcases List.mem_or_eq_of_mem_set hMem with hMem | hSame
    · exact keeps.going later hMem
    · exact hRest later hSame.symm
  · exact keeps

theorem Keeps.perform (hBinding : processor.binding = .ofTarget? (bound.map Target.noted))
    (keeps : processor.Keeps (Target.Calls bound)) (operation : Operation σ) :
    (processor.perform operation.noted).Keeps (Target.Calls (bound.or operation.target?)) := by
  have hKept : processor.Keeps (Target.Calls (bound.or none)) := by rwa [Option.or_none]
  cases operation with
  | bind target =>
      cases bound with
      | none =>
          have widened : processor.Keeps (Target.Calls (some target)) :=
            keeps.mono fun _ => False.elim
          exact ⟨widened.noted, widened.going⟩
      | some other =>
          change (processor.bind target.noted).2.Keeps _
          rw [bind_of_bound (show processor.binding = other.noted.binding from hBinding)]
          exact keeps
  | process message strategy cancel =>
      refine hKept.call ?_
      rw [hBinding, Option.or_none]
      exact Target.acts_process bound message strategy _
  | resume call => exact hKept.resume call
  | change update => exact ⟨hKept.noted, hKept.going⟩

theorem binding_run_noted (start : Option (Target σ)) (s : σ) (operations : List (Operation σ)) :
    (run (operations.map Operation.noted) (create (start.map Target.noted) (s, []))).binding =
      .ofTarget? ((firstTarget start operations).map Target.noted) := by
  rw [← firstTarget_noted]
  exact binding_run rfl

/-- In a run that is noted no other parts are called than those of the first target. -/
theorem keeps_run (start : Option (Target σ)) (s : σ) (operations : List (Operation σ)) :
    (run (operations.map Operation.noted) (create (start.map Target.noted) (s, []))).Keeps
      (Target.Calls (firstTarget start operations)) := by
  induction operations using List.reverseRecOn with
  | nil => exact ⟨nofun, nofun⟩
  | append_singleton operations operation ih =>
      rw [List.map_append, List.map_singleton, run_concat, firstTarget_append, firstTarget_single]
      exact ih.perform (binding_run_noted start s operations) operation

end Processor

/-- A call as it is noted and as it is, at the same point. -/
inductive SameProgress : Progress (σ × List PartCall) (Except BusError Unit) →
    Progress σ (Except BusError Unit) → Prop where
  | finished (answer : Except BusError Unit) : SameProgress (.finished answer) (.finished answer)
  | suspended {rest : Task (σ × List PartCall) (Except BusError Unit)}
      {left : Task σ (Except BusError Unit)} (mirrors : Mirrors Prod.fst Eq rest left) :
      SameProgress (.suspended rest) (.suspended left)

omit [Host σ] in
theorem sameProgress_of_polls {noted : Progress (σ × List PartCall) (Except BusError Unit) ×
    σ × List PartCall} {plain : Progress σ (Except BusError Unit) × σ}
    (polls : Polls Prod.fst Eq noted plain) :
    noted.2.1 = plain.2 ∧ SameProgress noted.1 plain.1 := by
  cases polls with
  | finished hAgree => exact ⟨rfl, hAgree ▸ .finished _⟩
  | suspended mirrors => exact ⟨rfl, .suspended mirrors⟩

omit [Host σ] in
theorem SameProgress.result?_eq {noted : Progress (σ × List PartCall) (Except BusError Unit)}
    {plain : Progress σ (Except BusError Unit)} (same : SameProgress noted plain) :
    noted.result? = plain.result? := by
  cases same <;> rfl

/-- Notes change nothing of a call. -/
theorem Target.mirrors_process (target : Option (Target σ)) (message : InboundMessage)
    (strategy : TransactionStrategy σ) (cancel : CancellationToken σ) :
    Mirrors Prod.fst Eq
      ((Binding.ofTarget? (target.map Target.noted)).process message strategy.noted
        fun s => cancel s.1)
      ((Binding.ofTarget? target).process message strategy cancel) := by
  apply Binding.mirrors_process_of_attempt
  rcases target with _ | _ | ⟨number, pipeline⟩
  · exact .done rfl
  · exact .done rfl
  · exact (pipeline.reflects_noted number cancel).attempt (strategy.reflects_noted cancel) message

/-- Two processors at the same point, one of them with notes. -/
structure Processor.Same (noted : Processor (σ × List PartCall)) (plain : Processor σ) : Prop where
  host : noted.host.1 = plain.host
  calls : List.Forall₂ SameProgress noted.calls plain.calls

/-- Lists that are related are so entry by entry. -/
theorem forall₂_getElem? {α β : Type} {related : α → β → Prop} {left : List α} {right : List β}
    (same : List.Forall₂ related left right) (i : Nat) : Option.Rel related left[i]? right[i]? := by
  induction same generalizing i with
  | nil => exact .none
  | cons hHead _ ih =>
      cases i with
      | zero => exact .some hHead
      | succ i => exact ih i

theorem forall₂_set {α β : Type} {related : α → β → Prop} {left : List α} {right : List β}
    {first : α} {second : β} (same : List.Forall₂ related left right)
    (hNew : related first second) (i : Nat) :
    List.Forall₂ related (left.set i first) (right.set i second) := by
  induction same generalizing i with
  | nil => exact .nil
  | cons hHead hTail ih =>
      cases i with
      | zero => exact .cons hNew hTail
      | succ i => exact .cons hHead (ih i)

namespace Processor

variable {noted : Processor (σ × List PartCall)} {plain : Processor σ}
  {bound : Option (Target σ)}

omit [Host σ] in
theorem Same.call {task : Task (σ × List PartCall) (Except BusError Unit)}
    {mirrored : Task σ (Except BusError Unit)} (same : noted.Same plain)
    (mirrors : Mirrors Prod.fst Eq task mirrored) :
    (noted.call task).Same (plain.call mirrored) := by
  obtain ⟨hHost, hCall⟩ := sameProgress_of_polls (mirrors.poll noted.host)
  rw [same.host] at hHost hCall
  exact ⟨hHost, List.rel_append same.calls (.cons hCall .nil)⟩

omit [Host σ] in
theorem Same.resume (same : noted.Same plain) (call : Nat) :
    (noted.resume call).Same (plain.resume call) := by
  have hCall := forall₂_getElem? same.calls call
  rw [Processor.resume, Processor.resume]
  generalize noted.calls[call]? = first at hCall
  generalize plain.calls[call]? = second at hCall
  cases hCall with
  | none => exact same
  | some hProgress =>
      cases hProgress with
      | finished answer => exact same
      | suspended mirrors =>
          obtain ⟨hHost, hPolled⟩ := sameProgress_of_polls (mirrors.poll noted.host)
          rw [same.host] at hHost hPolled
          exact ⟨hHost, forall₂_set same.calls hPolled call⟩

omit [Host σ] in
theorem Same.answers_eq (same : noted.Same plain) : noted.answers = plain.answers := by
  have hResults := same.calls.imp fun _ _ => SameProgress.result?_eq
  rw [answers, answers]
  rwa [← List.forall₂_eq_eq_eq, List.forall₂_map_left_iff, List.forall₂_map_right_iff]

theorem Same.perform (hNoted : noted.binding = .ofTarget? (bound.map Target.noted))
    (hPlain : plain.binding = .ofTarget? bound) (same : noted.Same plain)
    (operation : Operation σ) :
    (noted.perform operation.noted).Same (plain.perform operation) := by
  cases operation with
  | bind target => exact ⟨same.host, same.calls⟩
  | process message strategy cancel =>
      refine same.call ?_
      rw [hNoted, hPlain]
      exact Target.mirrors_process bound message strategy cancel
  | resume call => exact same.resume call
  | change update => exact ⟨congrArg update same.host, same.calls⟩

theorem same_run (start : Option (Target σ)) (s : σ) (operations : List (Operation σ)) :
    (run (operations.map Operation.noted) (create (start.map Target.noted) (s, []))).Same
      (run operations (create start s)) := by
  induction operations using List.reverseRecOn with
  | nil => exact ⟨rfl, .nil⟩
  | append_singleton operations operation ih =>
      rw [List.map_append, List.map_singleton, run_concat, run_concat]
      exact ih.perform (binding_run_noted start s operations) (binding_run rfl) operation

end Processor

end Notes

variable [Host σ] (start : Option (Target σ)) (s : σ)

/-- A processor that has been asked for this since it was made. -/
abbrev Processor.after (operations : List (Operation σ)) : Processor σ :=
  run operations (create start s)

/-- The same with parts that note their calls. -/
abbrev Processor.seenAfter (operations : List (Operation σ)) : Processor (σ × List PartCall) :=
  run (operations.map Operation.noted) (create (start.map Target.noted) (s, []))

theorem Processor.binding_after (operations : List (Operation σ)) :
    (after start s operations).binding = .ofTarget? (firstTarget start operations) :=
  binding_run rfl

variable {start} in
theorem Processor.binding_after_of {operations : List (Operation σ)} {bound : Option (Target σ)}
    (hBound : firstTarget start operations = bound) :
    (after start s operations).binding = .ofTarget? bound :=
  hBound ▸ binding_after start s operations

open Processor in
/-- A processor is bound once. -/
structure BindsOnce : Prop where
  bound : ∀ operations, (after start s operations).binding =
    .ofTarget? (firstTarget start operations)
  stays : ∀ operations later target, firstTarget start operations = some target →
    (after start s (operations ++ later)).binding = target.binding
  first : ∀ operations, firstTarget start operations = none → ∀ target,
    ((after start s operations).bind target).1 = .ok ()
  /-- A later binding is refused, and nothing that is asked for after it is told from what
  would be without it. -/
  refused : ∀ operations bound, firstTarget start operations = some bound → ∀ target,
    (after start s operations).bind target =
        (.error (.configuration "message processor is already bound"), after start s operations) ∧
      ∀ later, after start s (operations ++ .bind target :: later) =
        after start s (operations ++ later)
  /-- Whether or not the call is cancelled. -/
  unbound : ∀ operations, firstTarget start operations = none → ∀ message strategy cancel,
    let processor := after start s operations
    processor.process message strategy cancel =
      { processor with calls := processor.calls ++ [.finished (.error .notInitialized)] }
  sendOnly : ∀ operations, firstTarget start operations = some .sendOnly →
    ∀ message strategy cancel,
      let processor := after start s operations
      processor.process message strategy cancel =
        { processor with calls := processor.calls ++ [.finished (.error .sendOnly)] }
  receives : ∀ operations number pipeline,
    firstTarget start operations = some (.receive number pipeline) →
    ∀ message strategy cancel,
      (after start s operations).process message strategy cancel =
        (after start s operations).call
          ((Binding.receiving pipeline).process message strategy cancel)
  /-- A new call calls the pipeline of the target at once, unless it is cancelled when it is
  made or by what opens its transaction. -/
  begins : ∀ operations number pipeline,
    firstTarget start operations = some (.receive number pipeline) →
    ∀ message strategy cancel,
      let host := (after start s operations).host
      ∃ added,
        PartCall.Begins number (cancel host) (cancel (strategy.opening message host)) added ∧
        (seenAfter start s (operations ++ [.process message strategy cancel])).host.2 =
          (seenAfter start s operations).host.2 ++ added
  /-- Notes change nothing. -/
  unnoted : ∀ operations, (seenAfter start s operations).host.1 = (after start s operations).host ∧
    (seenAfter start s operations).answers = (after start s operations).answers
  /-- Only under the first target a transaction is opened or a pipeline called, and then the
  pipeline of this target. -/
  parts : ∀ operations, ∀ call ∈ (seenAfter start s operations).host.2,
    ∃ number pipeline, firstTarget start operations = some (.receive number pipeline) ∧
      (call = .opened ∨ call = .called number)

theorem bindsOnce : BindsOnce start s where
  bound operations := Processor.binding_after start s operations
  stays operations later target hBound := by
    rw [Processor.binding_after, firstTarget_append, hBound]
    rfl
  first operations hUnbound target := by
    rw [Processor.bind_of_unbound (Processor.binding_after_of s hUnbound)]
  refused operations bound hBound target := by
    have hRefused : (Processor.after start s operations).bind target = _ :=
      Processor.bind_of_bound (Processor.binding_after_of s hBound)
    refine ⟨hRefused, fun later => ?_⟩
    rw [Processor.after, Processor.run_append, Processor.after, Processor.run_append]
    exact congrArg (fun bound => Processor.run later bound.2) hRefused
  unbound operations hUnbound message strategy cancel :=
    Processor.process_of_unbound (Processor.binding_after_of s hUnbound)
  sendOnly operations hBound message strategy cancel :=
    Processor.process_of_sendOnly (Processor.binding_after_of s hBound)
  receives operations number pipeline hBound message strategy cancel := by
    rw [Processor.process, Processor.binding_after_of s hBound]
    rfl
  begins operations number pipeline hBound message strategy cancel := by
    have same := Processor.same_run start s operations
    have hSeen : (Processor.seenAfter start s operations).binding =
        .receiving (pipeline.noted number) := by
      rw [Processor.seenAfter, Processor.binding_run_noted, hBound]
      rfl
    obtain ⟨added, begins, hAdded⟩ := pipeline.begins_process_noted number message strategy cancel
      (Processor.after start s operations).host (Processor.seenAfter start s operations).host.2
    refine ⟨added, begins, ?_⟩
    rw [← hAdded, ← same.host, Processor.seenAfter, List.map_append, Processor.run_append]
    change ((Binding.process (Processor.seenAfter start s operations).binding message strategy.noted
      fun s => cancel s.1).poll (Processor.seenAfter start s operations).host).2.2 = _
    rw [hSeen]
  unnoted operations := by
    have same := Processor.same_run start s operations
    exact ⟨same.host, same.answers_eq⟩
  parts operations call hCall :=
    Target.calls_iff.mp ((Processor.keeps_run start s operations).noted call hCall)

open InMemory Processor in
/-- A processor that is asked for another binding calls the pipeline that it had by then. -/
theorem bindsOnce_rebound :
    let first : Target HostState := .receive 1 (Pipeline.answering (.ok ()) (.ok .handled))
    let second : Target HostState :=
      .receive 2 (Pipeline.answering (.error (.application "down")) (.ok .handled))
    let order : InboundMessage := ⟨"order-1", [123, 125], .empty, 1⟩
    let strategy : TransactionStrategy HostState :=
      RecordingTransactions.strategy ⟨HostState.transactionRecord "recorded", false⟩
    let operations : List (Operation HostState) :=
      [.bind first, .bind second, .process order strategy (HostState.isCancelled "call")]
    ((after none {} [.bind first]).bind second).1 =
        .error (.configuration "message processor is already bound") ∧
      ∃ later, (seenAfter none {} operations).host.2 = .opened :: .called 1 :: later := by
  intro first second order strategy operations
  have bindsOnce := bindsOnce none ({} : HostState)
  obtain ⟨hRefused, -⟩ := bindsOnce.refused [.bind first] first rfl second
  obtain ⟨added, begins, hAdded⟩ := bindsOnce.begins [.bind first, .bind second] 1 _ rfl order
    strategy (HostState.isCancelled "call")
  have begins : PartCall.Begins 1 false false added := begins
  cases begins with
  | begun later => exact ⟨congrArg Prod.fst hRefused, later, hAdded⟩

end BusEndpoint
