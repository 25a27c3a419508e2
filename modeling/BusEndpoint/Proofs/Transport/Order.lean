import BusEndpoint.Proofs.Transport.Operations
import BusEndpoint.Proofs.Transport.Queues

/-! Queues keep their order. From the operations alone it is told which messages
have been put into a queue and which have been received from it; what the queue
holds is the rest. Deferred messages are put into their queues by a release, all
of them and in the order in which they were scheduled. -/

namespace BusEndpoint.InMemory

namespace Operation

/-- The messages that were scheduled since the last release. -/
def scheduledIn : List Operation → List DeferredMessage
  | [] => []
  | .released _ :: _ => []
  | .scheduled queue message delay :: past => scheduledIn past ++ [⟨queue, delay, message⟩]
  | _ :: past => scheduledIn past

/-- The latest of an endpoint's successful calls about an event was to subscribe
to it. -/
def isSubscribed (event endpoint : String) : List Operation → Bool
  | [] => false
  | .worked caller _ (.subscribe wanted _) (.ok ()) :: past =>
    if wanted = event ∧ caller = endpoint then true else isSubscribed event endpoint past
  | .worked caller _ (.unsubscribe wanted _) (.ok ()) :: past =>
    if wanted = event ∧ caller = endpoint then false else isSubscribed event endpoint past
  | _ :: past => isSubscribed event endpoint past

/-- What an operation puts into a queue. An endpoint takes events from the queue
of its name. -/
def puts (queue : String) (past : List Operation) : Operation → List WireMessage
  | .enqueued other message => if other = queue then [message] else []
  | .released _ =>
    ((scheduledIn past).filter fun d => decide (d.queue = queue)).map (·.message)
  | .worked endpoint routes (.send message options) (.ok ()) =>
    if options.resolve routes message.messageType = some queue then
      [(message.prepare options endpoint).toWire]
    else []
  | .worked endpoint _ (.publish message options) (.ok ()) =>
    if isSubscribed message.messageType queue past then
      [(message.prepare { headers := options.headers } endpoint).toWire]
    else []
  | _ => []

/-- What an operation takes out of a queue. -/
def takes (queue : String) : Operation → List WireMessage
  | .received other answer => if other = queue then answer.toList else []
  | _ => []

/-- All that was put into a queue, in order. -/
def inserted (queue : String) : List Operation → List WireMessage
  | [] => []
  | operation :: past => inserted queue past ++ operation.puts queue past

/-- All that was received from a queue, in order. -/
def taken (queue : String) : List Operation → List WireMessage
  | [] => []
  | operation :: past => taken queue past ++ operation.takes queue

/-- The queue that an operation is on, if it is on one. -/
def queue? : Operation → Option String
  | .enqueued queue _ => some queue
  | .received queue _ => some queue
  | .scheduled queue _ _ => some queue
  | .worked _ routes (.send message options) _ => options.resolve routes message.messageType
  | _ => none

/-- The answer that the operations before call for: a receiver gets the oldest
message that has not been received, and a release counts what was scheduled. -/
def Fits (past : List Operation) : Operation → Prop
  | .received queue answer => answer = (inserted queue past)[(taken queue past).length]?
  | .released count => count = (scheduledIn past).length
  | _ => True

theorem isSubscribed_failed (event endpoint name : String) (routes : Routes) (work : Outbound)
    (error : BusError) (past : List Operation) :
    isSubscribed event name (.worked endpoint routes work (.error error) :: past) =
      isSubscribed event name past := by
  cases work <;> rfl

theorem puts_failed (queue endpoint : String) (routes : Routes) (work : Outbound)
    (error : BusError) (past : List Operation) :
    puts queue past (.worked endpoint routes work (.error error)) = [] := by
  cases work <;> rfl

/-- An operation on one queue puts nothing into the others. -/
theorem puts_eq_nil {operation : Operation} {queue other : String} {past : List Operation}
    (hQueue : operation.queue? = some queue) (hOther : other ≠ queue) :
    operation.puts other past = [] := by
  cases operation with
  | enqueued name message =>
      cases hQueue
      exact if_neg (Ne.symm hOther)
  | received name answer => rfl
  | scheduled name message delay => rfl
  | released count => cases hQueue
  | worked endpoint routes work answer =>
      cases work with
      | send message options =>
          cases answer with
          | ok value =>
              have hElsewhere : options.resolve routes message.messageType ≠ some other := by
                intro hSame
                exact hOther (Option.some.inj (hSame.symm.trans hQueue))
              exact if_neg hElsewhere
          | error error => rfl
      | _ => cases hQueue

theorem takes_eq_nil {operation : Operation} {queue other : String}
    (hQueue : operation.queue? = some queue) (hOther : other ≠ queue) :
    operation.takes other = [] := by
  cases operation with
  | received name answer =>
      cases hQueue
      exact if_neg (Ne.symm hOther)
  | _ => rfl

end Operation

open Operation

/-- What is told from the operations is found in the transport. -/
structure Agrees (past : List Operation) (transport : Transport) : Prop where
  queues : ∀ queue, taken queue past ++ transport.contents queue = inserted queue past
  deferred : transport.deferred = scheduledIn past
  subscribers : ∀ event endpoint,
    endpoint ∈ transport.subscribers event ↔ isSubscribed event endpoint past = true

theorem agrees_fresh : Agrees [] {} where
  queues _ := rfl
  deferred := rfl
  subscribers _ _ := by simp [isSubscribed, Transport.subscribers]

variable {past : List Operation} {operation : Operation} {transport next : Transport}

/-- What a queue held before an operation and what is put into it are what is taken
out of it and what it holds afterwards. -/
theorem Becomes.contents (becomes : Becomes transport operation next)
    (agrees : Agrees past transport) (queue : String) :
    operation.takes queue ++ next.contents queue =
      transport.contents queue ++ operation.puts queue past := by
  cases becomes with
  | @enqueued other message =>
      rw [Transport.contents_enqueue, puts]
      by_cases hQueue : other = queue <;> simp [hQueue, takes]
  | @received next other answer hReceive =>
      have loses := Transport.loses_of_receive hReceive
      show (if other = queue then answer.toList else []) ++ _ = _ ++ []
      rw [List.append_nil]
      by_cases hQueue : other = queue
      · rw [if_pos hQueue, ← hQueue, loses.oldest, loses.left]
        cases transport.contents other <;> rfl
      · rw [if_neg hQueue, loses.others queue (Ne.symm hQueue), List.nil_append]
  | scheduled => exact (List.append_nil _).symm
  | released =>
      rw [Transport.contents_releaseDeferred, agrees.deferred]
      rfl
  | @sent endpoint other routes message options hQueue =>
      rw [Transport.contents_enqueue, puts, hQueue]
      by_cases hQueue : other = queue <;> simp [hQueue, takes]
  | @published endpoint routes message options =>
      rw [Transport.contents_enqueueAll (transport.nodup_subscribers _)]
      simp only [takes, puts, List.nil_append, agrees.subscribers]
  | subscribed => exact (List.append_nil _).symm
  | @unsubscribed endpoint event =>
      rw [Transport.unsubscribe_eq]
      exact (List.append_nil _).symm
  | failed =>
      rw [puts_failed]
      exact (List.append_nil _).symm

theorem Becomes.deferred (becomes : Becomes transport operation next)
    (agrees : Agrees past transport) : next.deferred = scheduledIn (operation :: past) := by
  have hDeferred := agrees.deferred
  cases becomes with
  | enqueued => exact hDeferred
  | received hReceive => exact (Transport.loses_of_receive hReceive).deferred.trans hDeferred
  | scheduled => exact congrArg (· ++ _) hDeferred
  | released => exact Transport.deferred_releaseDeferred _
  | sent => exact hDeferred
  | published =>
      rw [Transport.enqueueAll_eq_putAll, Transport.deferred_putAll]
      exact hDeferred
  | subscribed => exact hDeferred
  | unsubscribed =>
      rw [Transport.unsubscribe_eq]
      exact hDeferred
  | failed => exact hDeferred

theorem Becomes.subscribers (becomes : Becomes transport operation next)
    (agrees : Agrees past transport) (event endpoint : String) :
    endpoint ∈ next.subscribers event ↔ isSubscribed event endpoint (operation :: past) = true := by
  have hSubscribers := agrees.subscribers event endpoint
  cases becomes with
  | enqueued => exact hSubscribers
  | received hReceive =>
      rw [Transport.subscribers_congr (Transport.loses_of_receive hReceive).subscriptions]
      exact hSubscribers
  | scheduled => exact hSubscribers
  | released =>
      rw [Transport.subscribers_congr (Transport.subscriptions_releaseDeferred _)]
      exact hSubscribers
  | sent => exact hSubscribers
  | published =>
      rw [Transport.enqueueAll_eq_putAll,
        Transport.subscribers_congr (Transport.subscriptions_putAll _ _)]
      exact hSubscribers
  | @subscribed caller wanted =>
      rw [Transport.mem_subscribers_subscribe, hSubscribers, isSubscribed]
      by_cases hLatest : wanted = event ∧ caller = endpoint <;> simp [hLatest]
  | @unsubscribed caller wanted =>
      rw [Transport.mem_subscribers_unsubscribe, hSubscribers, isSubscribed]
      by_cases hLatest : wanted = event ∧ caller = endpoint <;> simp [hLatest]
  | failed =>
      rw [isSubscribed_failed]
      exact hSubscribers

/-- Every operation keeps what is told of the transport. -/
theorem Agrees.becomes (agrees : Agrees past transport)
    (becomes : Becomes transport operation next) : Agrees (operation :: past) next where
  queues queue :=
    calc taken queue past ++ operation.takes queue ++ next.contents queue
        = taken queue past ++ (transport.contents queue ++ operation.puts queue past) := by
          rw [List.append_assoc, becomes.contents agrees]
      _ = inserted queue past ++ operation.puts queue past := by
          rw [← List.append_assoc, agrees.queues]
  deferred := becomes.deferred agrees
  subscribers := becomes.subscribers agrees

theorem Becomes.fits (becomes : Becomes transport operation next)
    (agrees : Agrees past transport) : operation.Fits past := by
  cases becomes with
  | @received next queue answer hReceive =>
      show answer = _
      rw [← agrees.queues queue, List.getElem?_append_right (Nat.le_refl _), Nat.sub_self,
        ← List.head?_eq_getElem?]
      exact (Transport.loses_of_receive hReceive).oldest
  | released =>
      show _ = _
      rw [agrees.deferred]
  | _ => trivial

section Runs

variable {σ : Type} [Host σ] {slot : Slot σ Transport} {s : σ}

theorem Reaches.agrees (hUnreported : slot.Unreported) (reaches : Reaches slot past s) :
    Agrees past (slot.get s) := by
  induction reaches with
  | fresh hFresh =>
      rw [hFresh]
      exact agrees_fresh
  | operates reaches operates ih => exact ih.becomes (operates.becomes hUnreported)
  | aside reaches hSame ih =>
      rw [hSame]
      exact ih

/-- What a transport makes of all operations on it. -/
structure KeepsOrder (slot : Slot σ Transport) (past : List Operation) (s : σ) : Prop where
  queues : ∀ queue, taken queue past ++ (slot.get s).contents queue = inserted queue past
  deferred : (slot.get s).deferred = scheduledIn past
  answers : ∀ later operation earlier, past = later ++ operation :: earlier →
    operation.Fits earlier
  /-- What is done next to one queue leaves the others alone. -/
  apart : ∀ operation t, Operates slot s operation t → ∀ queue, operation.queue? = some queue →
    ∀ other, other ≠ queue → (slot.get t).contents other = (slot.get s).contents other

theorem Reaches.fits (hUnreported : slot.Unreported) (reaches : Reaches slot past s) :
    ∀ later operation earlier, past = later ++ operation :: earlier → operation.Fits earlier := by
  induction reaches with
  | fresh hFresh =>
      intro later operation earlier hPast
      simp at hPast
  | @operates past latest s t reaches operates ih =>
      intro later operation earlier hPast
      cases later with
      | nil =>
          cases hPast
          exact (operates.becomes hUnreported).fits (reaches.agrees hUnreported)
      | cons first later =>
          obtain ⟨-, hPast⟩ := List.cons.inj hPast
          exact ih later operation earlier hPast
  | aside reaches hSame ih => exact ih

/-- Whatever is done to a transport by any number of sessions, its queues are
received from in the order in which they were filled, no message is lost or
doubled, and a release moves all deferred messages into their queues. -/
theorem Reaches.keepsOrder (hUnreported : slot.Unreported) (reaches : Reaches slot past s) :
    KeepsOrder slot past s := by
  have agrees := reaches.agrees hUnreported
  refine ⟨agrees.queues, agrees.deferred, reaches.fits hUnreported, ?_⟩
  intro operation t operates queue hQueue other hOther
  have hContents := (operates.becomes hUnreported).contents agrees other
  rw [takes_eq_nil hQueue hOther, puts_eq_nil hQueue hOther, List.append_nil] at hContents
  exact hContents

end Runs

open HostState in
/-- A message that was scheduled first joins its queue after one that was sent in
the meantime has been received. -/
theorem Reaches.keepsOrder_released :
    let early : WireMessage := { messageId := some "early" }
    let late : WireMessage := { messageId := some "late" }
    let order : OutgoingMessage := ⟨"1", "Order", [], .empty⟩
    let sent := (order.prepare {} "sales").toWire
    let routes : Routes := .ofList [("Order", "orders")]
    let past : List Operation :=
      [.released 2, .received "orders" (some sent), .scheduled "billing" late (.ofSeconds 1),
        .worked "sales" routes (.send order {}) (.ok ()),
        .scheduled "orders" early (.ofSeconds 5)]
    ∃ s, Reaches queues past s ∧ KeepsOrder queues past s ∧
      s.transport.contents "orders" = [early] ∧ s.transport.contents "billing" = [late] := by
  intro early late order sent routes past
  have fresh : Reaches queues [] {} := .fresh rfl
  have first := fresh.operates (.schedules "orders" early (.ofSeconds 5))
  have second := first.operates (show Operates queues _ (.worked "sales" routes (.send order {})
    (.ok ())) _ from .works _ _ _ (isCancelled "call") rfl)
  have third := second.operates (.schedules "billing" late (.ofSeconds 1))
  have fourth := third.operates (show Operates queues _ (.received "orders" (some sent)) _ from
    .receives "orders" rfl)
  have reaches := fourth.operates (show Operates queues _ (.released 2) _ from .releases)
  have keepsOrder := reaches.keepsOrder fun _ _ => rfl
  have hOrders : [sent] ++ _ = [sent] ++ [early] := keepsOrder.queues "orders"
  exact ⟨_, reaches, keepsOrder, List.append_cancel_left hOrders, keepsOrder.queues "billing"⟩

end BusEndpoint.InMemory
