import BusEndpoint.Proofs.Transport.Sending

/-! The operations on a transport. Hosts put messages into queues, take them out,
schedule and release them; sessions send, publish and change subscriptions. All
that an operation can do to the transport is said once, and whatever is reached by
operations of any number of sessions is told from the list of them. -/

namespace BusEndpoint.InMemory

variable {σ : Type}

/-- Outbound work that an application asks of a session. -/
inductive Outbound where
  | send (message : OutgoingMessage) (options : SendOptions)
  | publish (message : OutgoingMessage) (options : PublishOptions)
  | subscribe (event : String) (options : SubscribeOptions)
  | unsubscribe (event : String) (options : SubscribeOptions)

namespace Outbound

def perform (session : Session σ) (cancel : CancellationToken σ) :
    Outbound → Task σ (Except BusError Unit)
  | send message options => session.send message options cancel
  | publish message options => session.publish message options cancel
  | subscribe event options => session.subscribe event options cancel
  | unsubscribe event options => session.unsubscribe event options cancel

/-- The work without the check for cancellation. -/
def change [Host σ] (session : SessionState σ) : Outbound → StateM σ (Except BusError Unit)
  | send message options => session.send message options
  | publish message options => session.publish message options
  | subscribe event _ => session.subscribe event
  | unsubscribe event _ => session.unsubscribe event

theorem perform_eq [Host σ] (session : SessionState σ) (cancel : CancellationToken σ)
    (work : Outbound) :
    work.perform session.toSession cancel =
      SessionState.guarded cancel (work.change session) := by
  cases work <;> rfl

end Outbound

/-- An operation on a transport, and its answer. Outbound work is told with the
name of the endpoint and the routes of the session. -/
inductive Operation where
  | enqueued (queue : String) (message : WireMessage)
  | received (queue : String) (answer : Option WireMessage)
  | scheduled (queue : String) (message : WireMessage) (delay : Duration)
  | released (count : Nat)
  | worked (endpoint : String) (routes : Routes) (work : Outbound)
      (answer : Except BusError Unit)

/-- What an operation with this answer makes of a transport. -/
inductive Becomes : Transport → Operation → Transport → Prop where
  | enqueued {transport : Transport} {queue : String} {message : WireMessage} :
      Becomes transport (.enqueued queue message) (transport.enqueue queue message)
  | received {transport next : Transport} {queue : String} {answer : Option WireMessage}
      (hReceive : transport.receive queue = (answer, next)) :
      Becomes transport (.received queue answer) next
  | scheduled {transport : Transport} {queue : String} {message : WireMessage}
      {delay : Duration} :
      Becomes transport (.scheduled queue message delay) (transport.schedule queue message delay)
  | released {transport : Transport} :
      Becomes transport (.released transport.deferred.length) transport.releaseDeferred.2
  | sent {transport : Transport} {endpoint queue : String} {routes : Routes}
      {message : OutgoingMessage} {options : SendOptions}
      (hQueue : options.resolve routes message.messageType = some queue) :
      Becomes transport (.worked endpoint routes (.send message options) (.ok ()))
        (transport.enqueue queue (message.prepare options endpoint).toWire)
  | published {transport : Transport} {endpoint : String} {routes : Routes}
      {message : OutgoingMessage} {options : PublishOptions} :
      Becomes transport (.worked endpoint routes (.publish message options) (.ok ()))
        (transport.enqueueAll (transport.subscribers message.messageType)
          (message.prepare { headers := options.headers } endpoint).toWire)
  | subscribed {transport : Transport} {endpoint event : String} {routes : Routes}
      {options : SubscribeOptions} :
      Becomes transport (.worked endpoint routes (.subscribe event options) (.ok ()))
        (transport.subscribe event endpoint)
  | unsubscribed {transport : Transport} {endpoint event : String} {routes : Routes}
      {options : SubscribeOptions} :
      Becomes transport (.worked endpoint routes (.unsubscribe event options) (.ok ()))
        (transport.unsubscribe event endpoint)
  | failed {transport : Transport} {endpoint : String} {routes : Routes} {work : Outbound}
      {error : BusError} :
      Becomes transport (.worked endpoint routes work (.error error)) transport

variable [Host σ]

/-- An operation on the transport of a host. Sessions may belong to any endpoint
and have any routes, and their work is done under any token. -/
inductive Operates (slot : Slot σ Transport) : σ → Operation → σ → Prop where
  | enqueues {s : σ} (queue : String) (message : WireMessage) :
      Operates slot s (.enqueued queue message) (slot.modify (·.enqueue queue message) s)
  | receives {s : σ} {answer : Option WireMessage} {next : Transport} (queue : String)
      (hReceive : (slot.get s).receive queue = (answer, next)) :
      Operates slot s (.received queue answer) (slot.set next s)
  | schedules {s : σ} (queue : String) (message : WireMessage) (delay : Duration) :
      Operates slot s (.scheduled queue message delay)
        (slot.modify (·.schedule queue message delay) s)
  | releases {s : σ} :
      Operates slot s (.released (slot.get s).releaseDeferred.1)
        (slot.modify (·.releaseDeferred.2) s)
  | works {s t : σ} {answer : Except BusError Unit} (endpoint : String) (routes : Routes)
      (work : Outbound) (cancel : CancellationToken σ)
      (ended : (work.perform (SessionState.mk slot endpoint routes).toSession cancel).poll s =
        (.finished answer, t)) :
      Operates slot s (.worked endpoint routes work answer) t

/-- The states that operations lead to from an empty transport, with the
operations, the latest first. Whatever leaves the transport alone may happen in
between. -/
inductive Reaches (slot : Slot σ Transport) : List Operation → σ → Prop where
  | fresh {s : σ} (hFresh : slot.get s = {}) : Reaches slot [] s
  | operates {past : List Operation} {operation : Operation} {s t : σ}
      (reaches : Reaches slot past s) (operates : Operates slot s operation t) :
      Reaches slot (operation :: past) t
  | aside {past : List Operation} {s t : σ} (reaches : Reaches slot past s)
      (hSame : slot.get t = slot.get s) : Reaches slot past t

variable {slot : Slot σ Transport} {s t : σ}

/-- Work that fails leaves the transport alone. -/
theorem Outbound.change_becomes (hUnreported : slot.Unreported) (endpoint : String)
    (routes : Routes) (work : Outbound) (s : σ) :
    Becomes (slot.get s) (.worked endpoint routes work (work.change ⟨slot, endpoint, routes⟩ s).1)
      (slot.get (work.change ⟨slot, endpoint, routes⟩ s).2) := by
  cases work with
  | send message options =>
      cases hQueue : options.resolve routes message.messageType with
      | some queue =>
          obtain ⟨hAnswer, hTransport⟩ :=
            SessionState.send_of_resolve ⟨slot, endpoint, routes⟩ hUnreported hQueue s
          rw [change, hAnswer, hTransport]
          exact .sent hQueue
      | none =>
          rw [change, SessionState.send, hQueue]
          exact .failed
  | publish message options =>
      have hTransport := SessionState.get_publish ⟨slot, endpoint, routes⟩ message options s
      rw [change, hTransport]
      exact .published
  | subscribe event options =>
      have hTransport : slot.get ((subscribe event options).change ⟨slot, endpoint, routes⟩ s).2 =
          (slot.get s).subscribe event endpoint :=
        slot.get_set _ _
      rw [hTransport]
      exact .subscribed
  | unsubscribe event options =>
      have hTransport : slot.get ((unsubscribe event options).change ⟨slot, endpoint, routes⟩ s).2 =
          (slot.get s).unsubscribe event endpoint :=
        slot.get_set _ _
      rw [hTransport]
      exact .unsubscribed

theorem Outbound.becomes_of_ended {endpoint : String} {routes : Routes} {work : Outbound}
    {cancel : CancellationToken σ} {answer : Except BusError Unit} (hUnreported : slot.Unreported)
    (ended : (work.perform (SessionState.mk slot endpoint routes).toSession cancel).poll s =
      (.finished answer, t)) :
    Becomes (slot.get s) (.worked endpoint routes work answer) (slot.get t) := by
  rw [perform_eq] at ended
  cases hCancel : cancel s with
  | true =>
      rw [SessionState.poll_guarded_of_cancelled hCancel] at ended
      cases ended
      exact .failed
  | false =>
      rw [SessionState.poll_guarded_of_going hCancel] at ended
      cases ended
      exact change_becomes hUnreported endpoint routes work s

theorem Operates.becomes {operation : Operation} (hUnreported : slot.Unreported)
    (operates : Operates slot s operation t) : Becomes (slot.get s) operation (slot.get t) := by
  cases operates with
  | enqueues queue message =>
      rw [Slot.modify, slot.get_set]
      exact .enqueued
  | receives queue hReceive =>
      rw [slot.get_set]
      exact .received hReceive
  | schedules queue message delay =>
      rw [Slot.modify, slot.get_set]
      exact .scheduled
  | releases =>
      rw [Slot.modify, slot.get_set]
      exact .released
  | works endpoint routes work cancel ended => exact Outbound.becomes_of_ended hUnreported ended

end BusEndpoint.InMemory
