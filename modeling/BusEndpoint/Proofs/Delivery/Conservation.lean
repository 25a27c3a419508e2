import BusEndpoint.Proofs.Delivery.Noting
import BusEndpoint.Proofs.Delivery.Processing
import BusEndpoint.Proofs.Delivery.Stock
import Mathlib.Data.List.Count
import Mathlib.Data.List.Nodup

/-! Messages are neither lost nor doubled. A host takes messages out of queues,
has the endpoint process them, any number of them at the same time, drops those
that are acknowledged and keeps the others. The acknowledgement, the record of
what the handlers have done and the copies that the error pipeline makes agree,
so that every message is in one place and is there once. -/

namespace BusEndpoint.InMemory

open BusEndpoint.Task

variable {σ κ ς : Type}

/-- A call with a message, and what is left of it to be done. -/
structure Call (σ : Type) where
  message : WireMessage
  rest : Task σ (Except BusError Unit)

/-- A host, the messages that it holds, and the calls that it has made with those
that are being processed. -/
structure Dispatcher (σ : Type) where
  host : σ
  held : List WireMessage
  calls : List (Call σ)
  /-- The identifiers of all messages that have come so far. -/
  injected : List String

/-- Where a message may be. -/
inductive Place where
  | processed
  | held
  | queue (name : String)
  | deferred
deriving DecidableEq

namespace Dispatcher

/-- The identifiers of the messages at a place. -/
def idsAt (installation : Installation σ κ ς) (system : Dispatcher σ) : Place → List (Option String)
  | .processed => (installation.traffic system.host).processed
  | .held => (system.held ++ system.calls.map (·.message)).map WireMessage.messageId
  | .queue name =>
    ((installation.traffic system.host).transport.contents name).map WireMessage.messageId
  | .deferred => (installation.traffic system.host).transport.waiting.map WireMessage.messageId

/-- The identifiers of all messages. -/
def ids (installation : Installation σ κ ς) (system : Dispatcher σ) : List (Option String) :=
  (installation.traffic system.host).ids ++ system.idsAt installation .held

variable (installation : Installation σ κ ς)

/-- Every message is in one place, where it is once, and there are no other
messages. -/
structure Conserves (system : Dispatcher σ) : Prop where
  once : ∀ id ∈ system.injected, ∃ place,
    (system.idsAt installation place).count (some id) = 1 ∧
      ∀ other, other ≠ place → some id ∉ system.idsAt installation other
  known : ∀ place, ∀ found ∈ system.idsAt installation place,
    ∃ id ∈ system.injected, found = some id

/-- A call acts in its last poll only, in the way of an endpoint with its
message. -/
def IsCall (call : Call σ) : Prop :=
  ∀ t, installation.IsSound t →
    call.rest.ActsLast installation.IsSound (fun s => (installation.traffic s).store)
      (fun seen answer t => ∃ fresh, installation.Concludes Traffic.store
        (InboundMessage.ofWire fresh call.message) seen answer t)
      (installation.traffic t).store t

/-- What is kept by all that can happen. -/
structure Balanced (system : Dispatcher σ) : Prop where
  sound : installation.IsSound system.host
  named : ∀ id ∈ system.injected, id ≠ ""
  distinct : system.injected.Nodup
  balance : (system.ids installation).Perm (system.injected.map some)
  calls : ∀ call ∈ system.calls, IsCall installation call

variable {installation} {system next : Dispatcher σ} {call : Call σ} {host : σ}
  {before after : List (Call σ)}

/-- The messages that are with the host have identifiers. -/
theorem Balanced.messageId (balanced : Balanced installation system)
    (hCall : call ∈ system.calls) : ∃ id, call.message.messageId = some id ∧ id ≠ "" := by
  have hHeld : call.message.messageId ∈ system.ids installation := by
    apply List.mem_append_right
    exact List.mem_map_of_mem (List.mem_append_right _ (List.mem_map_of_mem hCall))
  obtain ⟨id, hInjected, hId⟩ := List.mem_map.mp (balanced.balance.subset hHeld)
  exact ⟨id, hId.symm, balanced.named id hInjected⟩

/-- The identifiers of the messages in the queues. -/
def queuedIds (installation : Installation σ κ ς) (system : Dispatcher σ) : List (Option String) :=
  (installation.traffic system.host).transport.queued.map WireMessage.messageId

theorem count_queue_le (installation : Installation σ κ ς) (system : Dispatcher σ) (name : String)
    (found : Option String) :
    (system.idsAt installation (.queue name)).count found ≤
      (system.queuedIds installation).count found :=
  Transport.count_contents_le WireMessage.messageId found _ name

/-- How often a message is anywhere is how often it is at the places together. -/
theorem count_ids (found : Option String) :
    (system.ids installation).count found =
      (system.idsAt installation .processed).count found +
        (system.queuedIds installation).count found +
        (system.idsAt installation .deferred).count found +
        (system.idsAt installation .held).count found := by
  simp only [ids, Traffic.ids, idsAt, queuedIds, List.map_append, List.count_append]
  omega

theorem idsAt_subset (place : Place) :
    system.idsAt installation place ⊆ system.ids installation := by
  intro found hFound
  have hCount := List.count_pos_iff.mpr hFound
  apply List.count_pos_iff.mp
  rw [count_ids]
  cases place with
  | queue name =>
      have hName := system.count_queue_le installation name found
      omega
  | processed => omega
  | held => omega
  | deferred => omega

/-- A message that is anywhere only once is at one place. -/
theorem exists_place {found : Option String} (hOnce : (system.ids installation).count found = 1) :
    ∃ place, (system.idsAt installation place).count found = 1 ∧
      ∀ other, other ≠ place → found ∉ system.idsAt installation other := by
  rw [count_ids] at hOnce
  -- Four numbers add up to one. If it is that of the queues, the queue has to be found.
  by_cases hQueued : (system.queuedIds installation).count found = 0
  · have hPlace (place : Place) (hThere : (system.idsAt installation place).count found = 1) :
        ∀ other, other ≠ place → found ∉ system.idsAt installation other := by
      intro other hOther
      apply List.count_eq_zero.mp
      cases other with
      | queue name =>
          have hName := system.count_queue_le installation name found
          omega
      | _ =>
          cases place with
          | queue name =>
              have hName := system.count_queue_le installation name found
              omega
          | _ => first | exact absurd rfl hOther | omega
    by_cases hProcessed : (system.idsAt installation .processed).count found = 1
    · exact ⟨.processed, hProcessed, hPlace .processed hProcessed⟩
    by_cases hHeld : (system.idsAt installation .held).count found = 1
    · exact ⟨.held, hHeld, hPlace .held hHeld⟩
    have hDeferred : (system.idsAt installation .deferred).count found = 1 := by omega
    exact ⟨.deferred, hDeferred, hPlace .deferred hDeferred⟩
  · have hMem := List.count_pos_iff.mp (Nat.pos_of_ne_zero hQueued)
    obtain ⟨message, hMessage, hFound⟩ := List.mem_map.mp hMem
    obtain ⟨name, hContents⟩ := Transport.exists_mem_contents hMessage
    have hThere : 0 < (system.idsAt installation (.queue name)).count found :=
      List.count_pos_iff.mpr (List.mem_map.mpr ⟨message, hContents, hFound⟩)
    have hName := system.count_queue_le installation name found
    have hOne : (system.idsAt installation (.queue name)).count found = 1 := by omega
    refine ⟨.queue name, hOne, ?_⟩
    intro other hOther
    apply List.count_eq_zero.mp
    cases other with
    | queue otherName =>
        have hNames : name ≠ otherName := fun hSame => hOther (hSame ▸ rfl)
        have hBoth : (system.idsAt installation (.queue name)).count found +
            (system.idsAt installation (.queue otherName)).count found ≤
              (system.queuedIds installation).count found :=
          Transport.count_contents_add_le WireMessage.messageId found _ hNames
        omega
    | processed => omega
    | held => omega
    | deferred => omega

/-- The messages that are with the host, and one of them whose call comes to its
end. -/
theorem idsAt_held_of_calls (hCalls : system.calls = before ++ call :: after) :
    (system.idsAt installation .held).Perm (call.message.messageId ::
      (system.held ++ (before ++ after).map (·.message)).map WireMessage.messageId) := by
  rw [idsAt, hCalls]
  simp only [List.map_append, List.map_cons]
  rw [← List.append_assoc, ← List.append_assoc]
  exact List.perm_middle

/-- A call that gives up control has no effect so far. -/
theorem Balanced.suspended {rest : Task σ (Except BusError Unit)}
    (balanced : Balanced installation system) (hCall : call ∈ system.calls)
    (gaveUp : call.rest.poll system.host = (.suspended rest, host)) :
    installation.IsSound host ∧
      (installation.traffic host).ids = (installation.traffic system.host).ids ∧
      IsCall installation { call with rest } := by
  rcases (balanced.calls call hCall _ balanced.sound).poll with
    ⟨value, t, hPoll, -⟩ | ⟨later, t, hPoll, sound, hStore, hLater⟩
  · rw [gaveUp] at hPoll
    cases hPoll
  · rw [gaveUp] at hPoll
    cases hPoll
    exact ⟨sound, Traffic.ids_of_store hStore, hLater⟩

/-- The poll in which a call ends has the effect of the call. -/
theorem Balanced.finished {answer : Except BusError Unit} (balanced : Balanced installation system)
    (hCall : call ∈ system.calls)
    (ended : call.rest.poll system.host = (.finished answer, host)) :
    installation.IsSound host ∧ ∃ message traffic,
      some message.id = call.message.messageId ∧
      traffic.ids = (installation.traffic system.host).ids ∧
      Effect installation message traffic answer (installation.traffic host) := by
  obtain ⟨id, hId, hNonempty⟩ := balanced.messageId hCall
  rcases (balanced.calls call hCall _ balanced.sound).poll with
    ⟨value, t, hPoll, fresh, sound, traffic, hStore, effect⟩ | ⟨rest, t, hPoll, -⟩
  · rw [ended] at hPoll
    cases hPoll
    refine ⟨sound, _, traffic, ?_, Traffic.ids_of_store hStore, effect⟩
    rw [InboundMessage.ofWire, hId, resolveMessageId, if_neg hNonempty]
  · rw [ended] at hPoll
    cases hPoll

section Steps

variable [Host σ] [LogSink κ]

variable (installation) in
/-- What can happen next. A message comes with an identifier of its own, in a
queue or directly to the host. The host takes a message out of a queue, makes a
call with one that it holds, under any token, and resumes calls in any order; it
drops a message that is acknowledged, and keeps one that is not, with any
delivery count. Others do what is not about messages. -/
inductive Step : Dispatcher σ → Dispatcher σ → Prop where
  | injects {system : Dispatcher σ} {message : WireMessage} {id : String} (queue : String)
      (hId : message.messageId = some id) (hNonempty : id ≠ "") (hNew : id ∉ system.injected) :
      Step system { system with
        host := installation.engine.transport.modify (·.enqueue queue message) system.host
        injected := id :: system.injected }
  | hands {system : Dispatcher σ} {message : WireMessage} {id : String}
      (hId : message.messageId = some id) (hNonempty : id ≠ "") (hNew : id ∉ system.injected) :
      Step system { system with
        held := message :: system.held
        injected := id :: system.injected }
  | takes {system : Dispatcher σ} {message : WireMessage} {transport : Transport} (queue : String)
      (received : (installation.engine.transport.get system.host).receive queue =
        (some message, transport)) :
      Step system { system with
        host := installation.engine.transport.set transport system.host
        held := message :: system.held }
  | calls {system : Dispatcher σ} {before after : List WireMessage} {message : WireMessage}
      (hHeld : system.held = before ++ message :: after) (context : FunctionContext κ)
      (cancel : CancellationToken σ) :
      Step system { system with
        held := before ++ after
        calls := ⟨message, installation.endpoint.process message context cancel⟩ :: system.calls }
  | suspends {system : Dispatcher σ} {before after : List (Call σ)} {call : Call σ}
      {rest : Task σ (Except BusError Unit)} {host : σ}
      (hCalls : system.calls = before ++ call :: after)
      (gaveUp : call.rest.poll system.host = (.suspended rest, host)) :
      Step system { system with host, calls := before ++ { call with rest } :: after }
  | drops {system : Dispatcher σ} {before after : List (Call σ)} {call : Call σ} {host : σ}
      (hCalls : system.calls = before ++ call :: after)
      (acknowledged : call.rest.poll system.host = (.finished (.ok ()), host)) :
      Step system { system with host, calls := before ++ after }
  | keeps {system : Dispatcher σ} {before after : List (Call σ)} {call : Call σ}
      {error : BusError} {host : σ} (hCalls : system.calls = before ++ call :: after)
      (failed : call.rest.poll system.host = (.finished (.error error), host))
      (deliveryCount : UInt32) :
      Step system { system with
        host
        held := { call.message with deliveryCount } :: system.held
        calls := before ++ after }
  | releases {system : Dispatcher σ} :
      Step system { system with
        host := installation.engine.transport.modify (·.releaseDeferred.2) system.host }
  | changes {system : Dispatcher σ} {host : σ} (sound : installation.IsSound host)
      (hStore : (installation.traffic host).store = (installation.traffic system.host).store) :
      Step system { system with host }

variable (installation) in
/-- Whatever may have happened since there was no message. -/
inductive Reachable : Dispatcher σ → Prop where
  | fresh {host : σ} (sound : installation.IsSound host)
      (hEmpty : (installation.traffic host).ids = []) : Reachable ⟨host, [], [], []⟩
  | step {system next : Dispatcher σ} (reachable : Reachable system)
      (step : Step installation system next) : Reachable next

omit [LogSink κ] in
/-- Messages that come to the transport. -/
theorem ids_setTransport (secludes : installation.Secludes) {transport : Transport}
    (messages : List WireMessage) {s : σ}
    (hMessages : (transport.queued ++ transport.waiting).Perm (messages ++
      ((installation.traffic s).transport.queued ++ (installation.traffic s).transport.waiting))) :
    (installation.traffic (installation.engine.transport.set transport s)).ids.Perm
      (messages.map WireMessage.messageId ++ (installation.traffic s).ids) := by
  rw [secludes.traffic_setTransport]
  exact Traffic.ids_of_perm _ messages hMessages

/-- No step loses a message, and none makes a second one of it. -/
theorem Balanced.step (secludes : installation.Secludes)
    (handlers : installation.HandlersUnseen Traffic.store)
    (balanced : Balanced installation system) (step : Step installation system next) :
    Balanced installation next := by
  have balance := balanced.balance
  cases step with
  | @injects message id queue hId hNonempty hNew =>
      have hTraffic := ids_setTransport secludes [message]
        (((installation.traffic system.host).transport.queued_enqueue queue message).append_right _)
      rw [List.map_singleton, hId] at hTraffic
      refine ⟨secludes.isSound_setTransport balanced.sound _, ?_, ?_, ?_, balanced.calls⟩
      · exact List.forall_mem_cons.mpr ⟨hNonempty, balanced.named⟩
      · exact List.nodup_cons.mpr ⟨hNew, balanced.distinct⟩
      · exact (hTraffic.append_right _).trans (balance.cons _)
  | hands hId hNonempty hNew =>
      refine ⟨balanced.sound, ?_, ?_, ?_, balanced.calls⟩
      · exact List.forall_mem_cons.mpr ⟨hNonempty, balanced.named⟩
      · exact List.nodup_cons.mpr ⟨hNew, balanced.distinct⟩
      · refine .trans ?_ (balance.cons (some _))
        rw [← hId]
        exact List.perm_middle
  | @takes message transport queue received =>
      obtain ⟨hQueued, hWaiting⟩ := Transport.queued_receive received
      have hTraffic : (installation.traffic system.host).ids.Perm
          (message.messageId :: (installation.traffic
            (installation.engine.transport.set transport system.host)).ids) := by
        rw [secludes.traffic_setTransport]
        apply Traffic.ids_of_perm { installation.traffic system.host with transport } [message]
        rw [hWaiting]
        exact hQueued.append_right _
      refine ⟨secludes.isSound_setTransport balanced.sound _, balanced.named, balanced.distinct, ?_,
        balanced.calls⟩
      exact List.perm_middle.trans ((hTraffic.symm.append_right _).trans balance)
  | @calls before after message hHeld context cancel =>
      refine ⟨balanced.sound, balanced.named, balanced.distinct, ?_, ?_⟩
      · refine .trans (.append_left _ (.map _ ?_)) balance
        rw [hHeld]
        exact List.perm_middle.trans (List.perm_middle.symm.append_right _)
      · refine List.forall_mem_cons.mpr ⟨?_, balanced.calls⟩
        intro t sound
        exact secludes.actsLast_process handlers _ context sound
  | @suspends before after call rest host hCalls gaveUp =>
      obtain ⟨sound, hTraffic, isCall⟩ :=
        balanced.suspended (hCalls ▸ List.mem_append_cons_self) gaveUp
      have calls := balanced.calls
      rw [hCalls, List.forall_mem_append, List.forall_mem_cons] at calls
      refine ⟨sound, balanced.named, balanced.distinct, ?_, ?_⟩
      · have hSame : ids installation
            { system with host, calls := before ++ { call with rest } :: after } =
              system.ids installation := by
          rw [ids, ids, hTraffic, idsAt, idsAt, hCalls]
          simp
        rw [hSame]
        exact balance
      · rw [List.forall_mem_append, List.forall_mem_cons]
        exact ⟨calls.1, isCall, calls.2.2⟩
  | @drops before after call host hCalls acknowledged =>
      obtain ⟨sound, message, traffic, hId, hTraffic, effect⟩ :=
        balanced.finished (hCalls ▸ List.mem_append_cons_self) acknowledged
      have hIds := effect.ids_of_ok
      rw [hId, hTraffic] at hIds
      have calls := balanced.calls
      rw [hCalls, List.forall_mem_append, List.forall_mem_cons] at calls
      refine ⟨sound, balanced.named, balanced.distinct, ?_, ?_⟩
      · refine .trans (hIds.append_right _) (.trans ?_ balance)
        exact List.perm_middle.symm.trans ((idsAt_held_of_calls hCalls).symm.append_left _)
      · rw [List.forall_mem_append]
        exact ⟨calls.1, calls.2.2⟩
  | @keeps before after call error host hCalls failed deliveryCount =>
      obtain ⟨sound, message, traffic, hId, hTraffic, effect⟩ :=
        balanced.finished (hCalls ▸ List.mem_append_cons_self) failed
      have hIds := effect.ids_of_error.trans hTraffic
      have calls := balanced.calls
      rw [hCalls, List.forall_mem_append, List.forall_mem_cons] at calls
      refine ⟨sound, balanced.named, balanced.distinct, ?_, ?_⟩
      · change ((installation.traffic host).ids ++ _).Perm _
        rw [hIds]
        exact ((idsAt_held_of_calls hCalls).symm.append_left _).trans balance
      · rw [List.forall_mem_append]
        exact ⟨calls.1, calls.2.2⟩
  | releases =>
      have hReleased := (installation.traffic system.host).transport.queued_releaseDeferred
      have hTraffic := ids_setTransport secludes [] (s := system.host)
        (by rw [hReleased.2, List.append_nil]; exact hReleased.1)
      refine ⟨secludes.isSound_setTransport balanced.sound _, balanced.named, balanced.distinct, ?_,
        balanced.calls⟩
      exact (hTraffic.append_right _).trans balance
  | changes sound hStore =>
      refine ⟨sound, balanced.named, balanced.distinct, ?_, balanced.calls⟩
      change ((installation.traffic _).ids ++ _).Perm _
      rw [Traffic.ids_of_store hStore]
      exact balance

theorem Reachable.balanced (secludes : installation.Secludes)
    (handlers : installation.HandlersUnseen Traffic.store)
    (reachable : Reachable installation system) : Balanced installation system := by
  induction reachable with
  | fresh sound hEmpty =>
      refine ⟨sound, nofun, .nil, ?_, nofun⟩
      rw [ids, hEmpty]
      exact .refl _
  | step reachable step ih => exact ih.step secludes handlers step

/-- Whatever the handlers answer, and however the calls are cancelled and
interleaved, no message is lost and none is doubled. -/
theorem Reachable.conserves (secludes : installation.Secludes)
    (handlers : installation.HandlersUnseen Traffic.store)
    (reachable : Reachable installation system) : Conserves installation system := by
  have balanced := reachable.balanced secludes handlers
  constructor
  · intro id hInjected
    apply exists_place
    rw [balanced.balance.count_eq, List.count_map_of_injective _ _ fun _ _ => Option.some.inj]
    exact List.nodup_iff_count_eq_one.mp balanced.distinct id hInjected
  · intro place found hFound
    obtain ⟨id, hInjected, hId⟩ :=
      List.mem_map.mp (balanced.balance.subset (idsAt_subset place hFound))
    exact ⟨id, hInjected, hId.symm⟩

end Steps

end Dispatcher

namespace Installation

/-- An endpoint without retries. The handler of its orders gives up control once
and then succeeds. -/
def parking : Installation (HostState × List Answer) Sink Unit :=
  onHost "orders"
    ⟨"orders", "", none, .receiveOnly, { immediateRetries := 0, delayedRetries := 0 }, false⟩
    (.ofList [("Order", fun _ => .ok fun _ => .pause (.done (.ok ())))])

theorem handlersUnseen_parking : parking.HandlersUnseen Traffic.store := by
  -- The handler leaves the whole host alone.
  apply handlersUnseen_installed id
  · rintro s t (rfl : t = s)
    rfl
  · rintro answers s t (rfl : t = s)
    rfl
  intro messageType handler body work context hHandler hWork
  have hOrder : handler = fun _ => .ok fun _ => .pause (.done (.ok ())) := by
    by_cases hType : "Order" = messageType
    · simpa [Dictionary.ofList, Dictionary.insertAll, Dictionary.get?_insert, hType,
        eq_comm] using hHandler
    · simp [Dictionary.ofList, Dictionary.insertAll, Dictionary.get?_insert, hType] at hHandler
  subst hOrder
  cases hWork
  trivial

end Installation

/-- A message of a type without a handler is put into the error queue, and is
there once. -/
theorem Dispatcher.conserves_parked :
    ∃ system, Reachable .parking system ∧ Conserves .parking system ∧
      system.injected = ["a"] ∧ system.idsAt .parking (.queue "error") = [some "a"] := by
  let message : WireMessage := { messageId := some "a" }
  have hMessage : message.messageId = some "a" := rfl
  have fresh : Reachable .parking ⟨({}, []), [], [], []⟩ := .fresh nofun rfl
  have came := fresh.step (.injects "orders" hMessage (by decide) (by simp))
  have took := came.step (.takes "orders" rfl)
  have called := took.step (.calls (List.nil_append _).symm ⟨"", "", none⟩ fun _ => false)
  have dropped := called.step (.drops (List.nil_append _).symm rfl)
  refine ⟨_, dropped, dropped.conserves (Installation.secludes_onHost _ _ _)
    Installation.handlersUnseen_parking, rfl, ?_⟩
  decide +kernel

end BusEndpoint.InMemory
