import BusEndpoint.Duration
import BusEndpoint.Message.Wire
/-!
Queues in memory. Messages leave a queue in the order in which they were put
into it; deferred messages wait outside of the queues until they are released,
all at once and in the order of scheduling, whatever their delays.
-/

namespace BusEndpoint

structure DeferredMessage where
  queue : String
  delay : Duration
  message : WireMessage

structure Transport where
  queues : Dictionary (List WireMessage) := .empty
  deferred : List DeferredMessage := []
  /-- The endpoints that want an event, by the name of the event's type. -/
  subscriptions : Dictionary (Dictionary Unit) := .empty

namespace Transport

instance : Inhabited Transport := ⟨{}⟩

/-- What a queue holds, the oldest message first. -/
def contents (transport : Transport) (queue : String) : List WireMessage :=
  (transport.queues.get? queue).getD []

def size (transport : Transport) (queue : String) : Nat := (transport.contents queue).length

def setContents (queue : String) (messages : List WireMessage) (transport : Transport) :
    Transport :=
  { transport with queues := transport.queues.insert queue messages }

def enqueue (queue : String) (message : WireMessage) (transport : Transport) : Transport :=
  transport.setContents queue (transport.contents queue ++ [message])

def receive (queue : String) (transport : Transport) : Option WireMessage × Transport :=
  match transport.contents queue with
  | [] => (none, transport)
  | message :: rest => (some message, transport.setContents queue rest)

/-- Take all messages out of a queue. -/
def drain (queue : String) (transport : Transport) : List WireMessage × Transport :=
  (transport.contents queue, transport.setContents queue [])

def schedule (queue : String) (message : WireMessage) (delay : Duration)
    (transport : Transport) : Transport :=
  { transport with deferred := transport.deferred ++ [⟨queue, delay, message⟩] }

/-- Put all deferred messages into their queues, and say how many there
were. -/
def releaseDeferred (transport : Transport) : Nat × Transport :=
  (transport.deferred.length,
    transport.deferred.foldl (fun t d => t.enqueue d.queue d.message)
      { transport with deferred := [] })

/-- The subscribers of an event, in the order of their names. -/
def subscribers (transport : Transport) (event : String) : List String :=
  ((transport.subscriptions.get? event).map Dictionary.names).getD []

def subscribe (event endpoint : String) (transport : Transport) : Transport :=
  let others := (transport.subscriptions.get? event).getD .empty
  { transport with
    subscriptions := transport.subscriptions.insert event (others.insert endpoint ()) }

def unsubscribe (event endpoint : String) (transport : Transport) : Transport :=
  match transport.subscriptions.get? event with
  | none => transport
  | some subscribed =>
    { transport with
      subscriptions := transport.subscriptions.insert event (subscribed.erase endpoint) }

/-- Put one message into each of several queues. -/
def enqueueAll (queues : List String) (message : WireMessage) (transport : Transport) :
    Transport :=
  queues.foldl (fun t queue => t.enqueue queue message) transport

@[simp] theorem contents_setContents (transport : Transport) (queue other : String)
    (messages : List WireMessage) :
    (transport.setContents queue messages).contents other =
      if queue = other then messages else transport.contents other := by
  simp only [contents, setContents, Dictionary.get?_insert]
  split <;> simp

theorem contents_enqueue (transport : Transport) (queue other : String) (message : WireMessage) :
    (transport.enqueue queue message).contents other =
      if queue = other then transport.contents other ++ [message]
      else transport.contents other := by
  simp only [enqueue, contents_setContents]
  by_cases h : queue = other <;> simp [h]

end Transport

end BusEndpoint
