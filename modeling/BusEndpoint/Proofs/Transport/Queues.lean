import BusEndpoint.InMemory.Transport
import BusEndpoint.Proofs.Dictionary

/-! Queues one by one. What an operation on a transport does is said of every
single queue, of the deferred messages and of the subscribers of every event. -/

namespace BusEndpoint

namespace Transport

variable {transport next : Transport} {queue other : String}

/-- Put messages into queues, one after the other. -/
def putAll (deposits : List (String × WireMessage)) (transport : Transport) : Transport :=
  deposits.foldl (fun t deposit => t.enqueue deposit.1 deposit.2) transport

theorem contents_putAll (deposits : List (String × WireMessage)) (transport : Transport)
    (queue : String) :
    (transport.putAll deposits).contents queue =
      transport.contents queue ++
        (deposits.filter fun deposit => decide (deposit.1 = queue)).map Prod.snd := by
  induction deposits generalizing transport with
  | nil => exact (List.append_nil _).symm
  | cons deposit deposits ih =>
      show ((transport.enqueue deposit.1 deposit.2).putAll deposits).contents queue = _
      rw [ih, contents_enqueue]
      by_cases hQueue : deposit.1 = queue <;> simp [hQueue]

theorem deferred_putAll (deposits : List (String × WireMessage)) (transport : Transport) :
    (transport.putAll deposits).deferred = transport.deferred := by
  induction deposits generalizing transport with
  | nil => rfl
  | cons deposit deposits ih => exact ih (transport.enqueue deposit.1 deposit.2)

theorem subscriptions_putAll (deposits : List (String × WireMessage)) (transport : Transport) :
    (transport.putAll deposits).subscriptions = transport.subscriptions := by
  induction deposits generalizing transport with
  | nil => rfl
  | cons deposit deposits ih => exact ih (transport.enqueue deposit.1 deposit.2)

theorem enqueueAll_eq_putAll (queues : List String) (message : WireMessage)
    (transport : Transport) :
    transport.enqueueAll queues message =
      transport.putAll (queues.map fun queue => (queue, message)) := by
  rw [enqueueAll, putAll, List.foldl_map]

theorem contents_enqueueAll {queues : List String} (hQueues : queues.Nodup)
    (message : WireMessage) (transport : Transport) (queue : String) :
    (transport.enqueueAll queues message).contents queue =
      transport.contents queue ++ if queue ∈ queues then [message] else [] := by
  rw [enqueueAll_eq_putAll, contents_putAll]
  congr 1
  induction queues with
  | nil => rfl
  | cons first queues ih =>
      obtain ⟨hFirst, hQueues⟩ := List.nodup_cons.mp hQueues
      rw [List.map_cons, List.filter_cons]
      by_cases hQueue : first = queue
      · subst hQueue
        simp [ih hQueues, hFirst]
      · simp [ih hQueues, hQueue, Ne.symm hQueue]

theorem releaseDeferred_eq_putAll (transport : Transport) :
    transport.releaseDeferred.2 =
      putAll (transport.deferred.map fun d => (d.queue, d.message))
        { transport with deferred := [] } := by
  rw [releaseDeferred, putAll, List.foldl_map]

/-- Each queue gets its own deferred messages, in the order of scheduling. -/
theorem contents_releaseDeferred (transport : Transport) (queue : String) :
    transport.releaseDeferred.2.contents queue =
      transport.contents queue ++
        (transport.deferred.filter fun d => decide (d.queue = queue)).map (·.message) := by
  rw [releaseDeferred_eq_putAll, contents_putAll, List.filter_map, List.map_map]
  rfl

theorem deferred_releaseDeferred (transport : Transport) :
    transport.releaseDeferred.2.deferred = [] := by
  rw [releaseDeferred_eq_putAll, deferred_putAll]

theorem subscriptions_releaseDeferred (transport : Transport) :
    transport.releaseDeferred.2.subscriptions = transport.subscriptions := by
  rw [releaseDeferred_eq_putAll, subscriptions_putAll]

/-- The oldest message of a queue is taken out, if there is one, and nothing else
is changed. -/
structure Loses (before after : Transport) (queue : String) (answer : Option WireMessage) :
    Prop where
  oldest : answer = (before.contents queue).head?
  left : after.contents queue = (before.contents queue).tail
  others : ∀ other, other ≠ queue → after.contents other = before.contents other
  deferred : after.deferred = before.deferred
  subscriptions : after.subscriptions = before.subscriptions

theorem loses_of_receive {answer : Option WireMessage}
    (hReceive : transport.receive queue = (answer, next)) :
    transport.Loses next queue answer := by
  rw [receive] at hReceive
  cases hContents : transport.contents queue with
  | nil =>
      rw [hContents] at hReceive
      cases hReceive
      exact ⟨by rw [hContents]; rfl, by rw [hContents]; rfl, fun _ _ => rfl, rfl, rfl⟩
  | cons message rest =>
      rw [hContents] at hReceive
      cases hReceive
      constructor
      · rw [hContents]
        rfl
      · rw [contents_setContents, if_pos rfl, hContents]
        rfl
      · intro other hOther
        rw [contents_setContents, if_neg (Ne.symm hOther)]
      · rfl
      · rfl

/-- The endpoints that want an event, by name. -/
def wanting (transport : Transport) (event : String) : Dictionary Unit :=
  (transport.subscriptions.get? event).getD .empty

theorem subscribers_eq (transport : Transport) (event : String) :
    transport.subscribers event = (transport.wanting event).names := by
  rw [subscribers, wanting]
  cases transport.subscriptions.get? event <;> rfl

theorem subscribers_congr (hSame : next.subscriptions = transport.subscriptions) (event : String) :
    next.subscribers event = transport.subscribers event := by
  rw [subscribers, subscribers, hSame]

theorem nodup_subscribers (transport : Transport) (event : String) :
    (transport.subscribers event).Nodup := by
  rw [subscribers_eq]
  exact Dictionary.nodup_names _

theorem wanting_subscribe (transport : Transport) (event endpoint other : String) :
    (transport.subscribe event endpoint).wanting other =
      if event = other then (transport.wanting other).insert endpoint ()
      else transport.wanting other := by
  rw [wanting, subscribe, Dictionary.get?_insert]
  by_cases hEvent : event = other
  · rw [if_pos hEvent, if_pos hEvent, hEvent]
    rfl
  · rw [if_neg hEvent, if_neg hEvent]
    rfl

theorem wanting_unsubscribe (transport : Transport) (event endpoint other : String) :
    (transport.unsubscribe event endpoint).wanting other =
      if event = other then (transport.wanting other).erase endpoint
      else transport.wanting other := by
  by_cases hEvent : event = other
  · subst hEvent
    rw [if_pos rfl, unsubscribe]
    cases hSubscribed : transport.subscriptions.get? event with
    | none =>
        rw [wanting, hSubscribed]
        rfl
    | some subscribed => simp [wanting, hSubscribed]
  · rw [if_neg hEvent, unsubscribe]
    cases transport.subscriptions.get? event with
    | none => rfl
    | some subscribed => simp [wanting, Dictionary.get?_insert, hEvent]

/-- Only the subscriptions are changed. -/
theorem unsubscribe_eq (transport : Transport) (event endpoint : String) :
    transport.unsubscribe event endpoint =
      { transport with subscriptions := (transport.unsubscribe event endpoint).subscriptions } := by
  rw [unsubscribe]
  cases transport.subscriptions.get? event <;> rfl

theorem mem_subscribers {event name : String} :
    name ∈ transport.subscribers event ↔ ((transport.wanting event).get? name).isSome = true := by
  rw [subscribers_eq, Dictionary.mem_names]

/-- A subscription adds one subscriber to one event. -/
theorem mem_subscribers_subscribe {event endpoint wanted name : String} :
    name ∈ (transport.subscribe event endpoint).subscribers wanted ↔
      event = wanted ∧ endpoint = name ∨ name ∈ transport.subscribers wanted := by
  rw [mem_subscribers, mem_subscribers, wanting_subscribe]
  by_cases hEvent : event = wanted
  · rw [if_pos hEvent, Dictionary.get?_insert]
    by_cases hName : endpoint = name <;> simp [hEvent, hName]
  · simp [hEvent]

/-- Taking a subscription back removes one subscriber from one event. -/
theorem mem_subscribers_unsubscribe {event endpoint wanted name : String} :
    name ∈ (transport.unsubscribe event endpoint).subscribers wanted ↔
      ¬(event = wanted ∧ endpoint = name) ∧ name ∈ transport.subscribers wanted := by
  rw [mem_subscribers, mem_subscribers, wanting_unsubscribe]
  by_cases hEvent : event = wanted
  · rw [if_pos hEvent, Dictionary.get?_erase]
    by_cases hName : endpoint = name <;> simp [hEvent, hName]
  · simp [hEvent]

end Transport

end BusEndpoint
