import BusEndpoint.Endpoint
import BusEndpoint.Proofs.Transport.Order

/-! Publishing. An event is put into the queue of every endpoint that wants it at
the time, which is told from the calls that endpoints have made so far. All of
them find the same message. -/

namespace BusEndpoint

/-- Messages that are made of payloads have identifiers. -/
theorem Payload.messageId_ne_empty {σ : Type} [Host σ] {payload : Payload} {s : σ}
    {message : OutgoingMessage} (hMade : (payload.toMessage s).1 = .ok message) :
    message.messageId ≠ "" := by
  cases hBody : payload.body with
  | error reason =>
      simp only [toMessage, hBody] at hMade
      cases hMade
  | ok body =>
      simp only [toMessage, hBody] at hMade
      cases hMade
      exact identifier_ne_empty _

theorem Transport.gains_enqueueAll {queues : List String} (hQueues : queues.Nodup)
    (transport : Transport) (message : WireMessage) :
    transport.Gains (transport.enqueueAll queues message) message (· ∈ queues) where
  gained queue hQueue := by rw [contents_enqueueAll hQueues, if_pos hQueue]
  others queue hQueue := by rw [contents_enqueueAll hQueues, if_neg hQueue, List.append_nil]
  deferred := by rw [enqueueAll_eq_putAll, deferred_putAll]
  subscriptions := by rw [enqueueAll_eq_putAll, subscriptions_putAll]

namespace OutgoingMessage

/-- What every subscriber finds in a message that an endpoint has published. An
empty identifier would be replaced by each of them. -/
structure IsSeen (message : OutgoingMessage) (options : PublishOptions) (endpoint : String)
    (inbound : InboundMessage) : Prop where
  id : message.messageId ≠ "" → inbound.id = message.messageId
  arrives : message.Arrives { headers := options.headers } endpoint inbound
  replies : Text.isBlank endpoint = false →
    options.headers.get? Header.replyToAddress = none →
    message.headers.get? Header.replyToAddress = none →
      inbound.header? Header.replyToAddress = some endpoint

theorem isSeen (message : OutgoingMessage) (options : PublishOptions) (endpoint fresh : String) :
    message.IsSeen options endpoint (InboundMessage.ofWire fresh
      (message.prepare { headers := options.headers } endpoint).toWire) := by
  have arrives := message.arrives { headers := options.headers } endpoint fresh
  refine ⟨id_ofWire_prepare fresh, arrives, ?_⟩
  intro hEndpoint hOptions hMessage
  rw [arrives.replyToAddress, hOptions, hMessage]
  exact Text.nonBlank_eq_some.mpr ⟨hEndpoint, rfl⟩

end OutgoingMessage

namespace InMemory

open Operation

variable {σ : Type} [Host σ] {slot : Slot σ Transport} {past : List Operation} {s : σ}

/-- Whatever endpoints have subscribed to and have taken back before, an event that
is published is put into the queues of those that want it then, once in each, and
is the same to all of them. An event that is made of a payload has an identifier. -/
theorem Reaches.publishes (hUnreported : slot.Unreported) (reaches : Reaches slot past s)
    (endpoint : String) (routes : Routes) (message : OutgoingMessage) (options : PublishOptions)
    (cancel : CancellationToken σ) (hCancel : cancel s = false) :
    (∃ wire t, ((SessionState.mk slot endpoint routes).toSession.publish message options
        cancel).poll s = (.finished (.ok ()), t) ∧
      (slot.get s).Gains (slot.get t) wire
        (fun queue => isSubscribed message.messageType queue past = true) ∧
      ∀ fresh, message.IsSeen options endpoint (InboundMessage.ofWire fresh wire)) ∧
    ∀ (payload : Payload) (u : σ), (payload.toMessage u).1 = .ok message →
      message.messageId ≠ "" := by
  refine ⟨⟨(message.prepare { headers := options.headers } endpoint).toWire,
    ((SessionState.mk slot endpoint routes).publish message options s).2, ?_, ?_, ?_⟩, ?_⟩
  · exact SessionState.poll_guarded_of_going hCancel
  · have hTransport := SessionState.get_publish ⟨slot, endpoint, routes⟩ message options s
    have hWanted : (· ∈ (slot.get s).subscribers message.messageType) =
        fun queue => isSubscribed message.messageType queue past = true := by
      funext queue
      exact propext ((reaches.agrees hUnreported).subscribers message.messageType queue)
    rw [hTransport, ← hWanted]
    exact Transport.gains_enqueueAll (Transport.nodup_subscribers _ _) _ _
  · exact message.isSeen options endpoint
  · intro payload u hMade
    exact Payload.messageId_ne_empty hMade

open HostState in
/-- An endpoint that has subscribed twice gets the event once, and one that has
taken its subscription back does not get it. -/
theorem Reaches.publishes_current :
    let order : OutgoingMessage := ⟨"1", "Order", [], .ofList [(Header.originatingEndpoint, "a")]⟩
    ∃ s wire t, ((SessionState.mk queues "sales" .empty).toSession.publish order {}
        (isCancelled "call")).poll s = (.finished (.ok ()), t) ∧
      t.transport.contents "billing" = [wire] ∧ t.transport.contents "shipping" = [] ∧
      ∀ fresh, order.IsSeen {} "sales" (InboundMessage.ofWire fresh wire) := by
  intro order
  have fresh : Reaches queues [] {} := .fresh rfl
  have first := fresh.operates
    (.works "billing" .empty (.subscribe "Order" {}) (isCancelled "call") rfl)
  have second := first.operates
    (.works "shipping" .empty (.subscribe "Order" {}) (isCancelled "call") rfl)
  have third := second.operates
    (.works "billing" .empty (.subscribe "Order" {}) (isCancelled "call") rfl)
  have reaches := third.operates
    (.works "shipping" .empty (.unsubscribe "Order" {}) (isCancelled "call") rfl)
  obtain ⟨⟨wire, t, hPoll, gains, isSeen⟩, -⟩ :=
    reaches.publishes (fun _ _ => rfl) "sales" .empty order {} (isCancelled "call") rfl
  exact ⟨_, wire, t, hPoll, gains.gained "billing" rfl, gains.others "shipping" (by decide), isSeen⟩

open HostState in
/-- An empty identifier does not arrive: two subscribers find the same message under
two identifiers. -/
theorem Reaches.publishes_unidentified :
    let order : OutgoingMessage := ⟨"", "Order", [], .empty⟩
    let past : List Operation := [.worked "shipping" .empty (.subscribe "Order" {}) (.ok ()),
      .worked "billing" .empty (.subscribe "Order" {}) (.ok ())]
    ∃ s wire t, Reaches queues past s ∧
      ((SessionState.mk queues "sales" .empty).toSession.publish order {}
        (isCancelled "call")).poll s = (.finished (.ok ()), t) ∧
      t.transport.contents "billing" = [wire] ∧ t.transport.contents "shipping" = [wire] ∧
      let first := Host.freshIdentifier t
      let second := Host.freshIdentifier first.2
      (InboundMessage.ofWire first.1 wire).id ≠ (InboundMessage.ofWire second.1 wire).id := by
  intro order past
  have fresh : Reaches queues [] {} := .fresh rfl
  have first := fresh.operates (show Operates queues _ (.worked "billing" .empty
    (.subscribe "Order" {}) (.ok ())) _ from .works _ _ _ (isCancelled "call") rfl)
  have reaches := first.operates (show Operates queues _ (.worked "shipping" .empty
    (.subscribe "Order" {}) (.ok ())) _ from .works _ _ _ (isCancelled "call") rfl)
  refine ⟨_, (order.prepare {} "sales").toWire, _, reaches, rfl, rfl, rfl, ?_⟩
  change identifier 0 ≠ identifier 1
  decide

end InMemory

end BusEndpoint
