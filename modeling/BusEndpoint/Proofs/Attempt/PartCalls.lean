import BusEndpoint.Proofs.Settlement.Recording

/-! Notes of the parts that are called. Pipelines and strategies note beside the host
whenever they are called, so that it is seen which of them have a part in a call; what they
do to the host and what they answer stays the same. A call that is not cancelled calls its
pipeline at once. -/

namespace BusEndpoint

open BusEndpoint.Task

variable {σ : Type}

/-- What is noted beside the host: that a strategy was asked for a transaction, or that a
pipeline was called. -/
inductive PartCall where
  | opened
  | called (number : Nat)

def PartCall.note (call : PartCall) : StateM (σ × List PartCall) Unit :=
  modify fun s => (s.1, s.2 ++ [call])

/-- A pipeline that works on the host and notes when it is called. -/
def Pipeline.noted (pipeline : Pipeline σ) (number : Nat) : Pipeline (σ × List PartCall) where
  onMessage context cancel := do
    Task.perform (PartCall.note (.called number))
    (pipeline.onMessage (context.alone []) fun s => cancel (s, [])).onFirst
  onError context cancel := do
    Task.perform (PartCall.note (.called number))
    (pipeline.onError (context.alone []) fun s => cancel (s, [])).onFirst

/-- A strategy that works on the host and notes when it is asked for a transaction. -/
def TransactionStrategy.noted (strategy : TransactionStrategy σ) :
    TransactionStrategy (σ × List PartCall) :=
  { strategy.onFirst [] with
    create := do
      PartCall.note .opened
      (strategy.onFirst []).create }

/-- Notes of some kind were added, if any. -/
def Adds (kind : PartCall → Prop) (s t : σ × List PartCall) : Prop :=
  ∃ added, t.2 = s.2 ++ added ∧ ∀ call ∈ added, kind call

variable {kind wide : PartCall → Prop}

theorem adds_of_leavesSecond {s t : σ × List PartCall} (hSame : LeavesSecond s t) :
    Adds kind s t := ⟨[], by rw [hSame, List.append_nil], nofun⟩

theorem Adds.mono {s t : σ × List PartCall} (adds : Adds kind s t)
    (hWide : ∀ call, kind call → wide call) : Adds wide s t := by
  obtain ⟨added, hAdded, hKind⟩ := adds
  exact ⟨added, hAdded, fun call hCall => hWide call (hKind call hCall)⟩

theorem adds_note {call : PartCall} (hCall : kind call) (s : σ × List PartCall) :
    Adds kind s (call.note s).2 :=
  ⟨[call], rfl, by simpa using hCall⟩

theorem adds_trans (s t u : σ × List PartCall) (first : Adds kind s t) (second : Adds kind t u) :
    Adds kind s u := by
  obtain ⟨added, hAdded, hKind⟩ := first
  obtain ⟨later, hLater, hLaterKind⟩ := second
  refine ⟨added ++ later, by rw [hLater, hAdded, List.append_assoc], fun call hCall => ?_⟩
  rcases List.mem_append.mp hCall with hCall | hCall
  · exact hKind call hCall
  · exact hLaterKind call hCall

theorem Pipeline.actsBy_noted {number : Nat} (pipeline : Pipeline σ)
    (hCall : kind (.called number)) :
    (pipeline.noted number).ActsBy (Adds kind) LeavesSecond where
  onMessage _ _ _ := acts_perform_andThen (adds_note hCall) fun _ =>
    (acts_onFirst _).widen fun _ _ => adds_of_leavesSecond
  onError _ _ _ := acts_perform_andThen (adds_note hCall) fun _ =>
    (acts_onFirst _).widen fun _ _ => adds_of_leavesSecond

theorem TransactionStrategy.actsBy_noted (strategy : TransactionStrategy σ) (hCall : kind .opened) :
    strategy.noted.ActsBy (Adds kind) LeavesSecond where
  create := by
    intro s
    obtain ⟨hKept, hOpened⟩ := (strategy.actsBy_onFirst []).create (PartCall.note .opened s).2
    exact ⟨adds_trans _ _ _ (adds_note hCall s) (adds_of_leavesSecond hKept), hOpened⟩
  token opened hOpened :=
    ((strategy.actsBy_onFirst []).token opened hOpened).widen fun _ _ => adds_of_leavesSecond
  complete opened cancel hOpened :=
    ((strategy.actsBy_onFirst []).complete opened cancel hOpened).widen
      fun _ _ => adds_of_leavesSecond

variable [Host σ]

theorem allows_adds : Host.Allows (σ := σ × List PartCall) (Adds kind) where
  refl s := adds_of_leavesSecond (leavesSecond_refl s)
  trans := adds_trans
  identifiers _ _ := adds_of_leavesSecond rfl
  report _ _ _ := adds_of_leavesSecond rfl

omit [Host σ] in
theorem TransportToken.alone_onFirst {ρ : Type} (kept : ρ) (token : TransportToken σ) :
    token.onFirst.alone kept = token := by
  obtain ⟨id, native⟩ := token
  cases native <;> rfl

omit [Host σ] in
theorem Pipeline.reflects_noted (pipeline : Pipeline σ) (number : Nat)
    (cancel : CancellationToken σ) :
    (pipeline.noted number).Reflects (fun seen token => seen.alone [] = token) pipeline cancel where
  onMessage := by
    rintro message seen _ rfl
    exact .aside (fun _ => rfl) fun _ => mirrors_onFirst _
  onError := by
    rintro message failure seen _ rfl
    exact .aside (fun _ => rfl) fun _ => mirrors_onFirst _

theorem TransactionStrategy.reflects_noted (strategy : TransactionStrategy σ)
    (cancel : CancellationToken σ) :
    strategy.noted.Reflects (fun opened transaction => opened = transaction.map .onFirst)
      (fun seen token => seen.alone [] = token) strategy cancel := by
  have reflects : (strategy.onFirst ([] : List PartCall)).Reflects
      (fun opened transaction => opened = transaction.map .onFirst) (fun _ _ => True) strategy
      cancel := reflects_onFirst
  refine ⟨mirrors_perform (fun _ => rfl) fun _ => rfl, ?_, reflects.complete, reflects.discard,
    reflects.commit⟩
  rintro _ transaction rfl
  simp only [noted, onFirst, Transaction.map_alone_onFirst]
  exact mirrors_perform (fun s => TransportToken.alone_onFirst [] _) fun _ => rfl

section Begins

/-- The host after a call has reported its message, opened a transaction for it and made a
token of that. -/
def TransactionStrategy.opening (strategy : TransactionStrategy σ) (message : InboundMessage)
    (s : σ) : σ :=
  let reported := Host.report (.event .debug
    [("message_id", .text message.id), ("delivery_count", .count message.deliveryCount.toNat)]
    "processing message") s
  let created := strategy.create reported
  (strategy.token created.1 created.2).2

/-- What a new call notes under the pipeline of this number. Its token may be cancelled when
the call is made, or by what opens the transaction. -/
inductive PartCall.Begins (number : Nat) : Bool → Bool → List PartCall → Prop where
  | refused {cancelledSince : Bool} : Begins number true cancelledSince []
  | unbegun : Begins number false true [.opened]
  | begun (later : List PartCall) : Begins number false false (.opened :: .called number :: later)

variable {cancel : CancellationToken σ} {s : σ}

omit [Host σ] in
/-- A transaction is opened and its token made as without notes. -/
theorem TransactionStrategy.token_create_noted (strategy : TransactionStrategy σ) (s : σ)
    (notes : List PartCall) :
    (strategy.noted.token (strategy.noted.create (s, notes)).1
        (strategy.noted.create (s, notes)).2).2 =
      ((strategy.token (strategy.create s).1 (strategy.create s).2).2, notes ++ [.opened]) := by
  have hCreated : (strategy.noted.create (s, notes)).1.map (Transaction.alone []) =
      (strategy.create s).1 := Transaction.map_alone_onFirst [] _
  rw [← hCreated]
  rfl

/-- An attempt that is not cancelled asks for a transaction, and goes on with the message
pipeline. -/
theorem Pipeline.poll_attempt_noted (pipeline : Pipeline (σ × List PartCall))
    (message : InboundMessage) (strategy : TransactionStrategy σ) (notes : List PartCall)
    (hGoing : cancel s = false) :
    ∃ token opened, Transaction.ActsBy LeavesSecond opened ∧
      (pipeline.attempt message strategy.noted fun s => cancel s.1).poll (s, notes) =
        (((pipeline.onMessage (message.context token) fun s => cancel s.1).cutBy
          fun s => cancel s.1).andThen (pipeline.conclude message strategy.noted
            (fun s => cancel s.1) opened)).poll (strategy.opening message s, notes ++ [.opened]) := by
  have strategyActs : strategy.noted.ActsBy (Adds fun _ => True) LeavesSecond :=
    strategy.actsBy_noted trivial
  simp only [attempt, bind_eq, poll_observe_andThen]
  rw [if_neg (by simp [hGoing])]
  have hOpening : _ = (strategy.opening message s, notes ++ [.opened]) :=
    strategy.token_create_noted _ notes
  rw [← hOpening]
  exact ⟨_, _, (strategyActs.create _).2, rfl⟩

omit [Host σ] in
/-- Nothing is done after the attempt. -/
theorem Binding.poll_process {τ : Type} [Host τ] (binding : Binding τ) (message : InboundMessage)
    (strategy : TransactionStrategy τ) (cancel : CancellationToken τ) (s : τ) :
    ((binding.process message strategy cancel).poll s).2 =
      ((binding.attempt message strategy cancel).poll s).2 := by
  rw [process, bind_eq, poll_andThen]
  rcases (binding.attempt message strategy cancel).poll s with ⟨outcome | rest, t⟩
  · rcases outcome with error | _ | _ | cause <;> rfl
  · rfl

/-- A new call notes that it calls the pipeline, unless it is cancelled. -/
theorem Pipeline.begins_process_noted (pipeline : Pipeline σ) (number : Nat)
    (message : InboundMessage) (strategy : TransactionStrategy σ) (cancel : CancellationToken σ)
    (s : σ) (notes : List PartCall) :
    ∃ added, PartCall.Begins number (cancel s) (cancel (strategy.opening message s)) added ∧
      (((Binding.receiving (pipeline.noted number)).process message strategy.noted
        fun s => cancel s.1).poll (s, notes)).2.2 = notes ++ added := by
  rw [Binding.poll_process, Binding.attempt]
  cases hCancel : cancel s with
  | true =>
      simp only [attempt, bind_eq, poll_observe_andThen]
      rw [if_pos hCancel]
      exact ⟨[], .refused, (List.append_nil _).symm⟩
  | false =>
      obtain ⟨token, opened, openedActs, hPoll⟩ :=
        (pipeline.noted number).poll_attempt_noted message strategy notes hCancel
      rw [hPoll, poll_cutBy_andThen]
      cases hOpening : cancel (strategy.opening message s) with
      | true =>
          have discards : ((pipeline.noted number).conclude message strategy.noted
              (fun s => cancel s.1) opened none).Acts LeavesSecond fun _ => True :=
            (allows_leavesSecond.acts_discardAny (fun _ _ own => own) openedActs).bind
              fun _ _ => trivial
          rw [if_pos rfl]
          exact ⟨[.opened], .unbegun, (discards.poll leavesSecond_refl leavesSecond_trans _).1⟩
      | false =>
          have goesOn : (((pipeline.onMessage ((message.context token).alone [])
              cancel).onFirst.cutAtResumption fun s => cancel s.1).andThen
                ((pipeline.noted number).conclude message strategy.noted (fun s => cancel s.1)
                  opened)).Acts (Adds fun _ => True) fun _ => True := by
            refine (((acts_onFirst _).widen fun _ _ => adds_of_leavesSecond).cutAtResumption
              allows_adds.refl).bind fun ended _ => ?_
            exact allows_adds.acts_conclude (fun _ _ => adds_of_leavesSecond)
              (strategy.actsBy_noted trivial) (pipeline.actsBy_noted trivial).onError openedActs
              ended
          obtain ⟨later, hLater, -⟩ := (goesOn.poll allows_adds.refl allows_adds.trans
            (strategy.opening message s, notes ++ [.opened] ++ [.called number])).1
          rw [if_neg Bool.false_ne_true]
          refine ⟨_, .begun later, hLater.trans ?_⟩
          simp

end Begins

end BusEndpoint
