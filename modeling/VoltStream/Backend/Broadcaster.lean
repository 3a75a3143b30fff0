/-
Module: VoltStream.Backend.Broadcaster
Purpose: The fan-out of realtime events: one bounded queue for each connected client,
  and clients that join, read and leave between publishes.
Trusted boundary: human-reviewed spec of `app/services/broadcaster.py`, of the queue calls
  in `_event_stream` of `app/api/stream.py` and of `asyncio.Queue`
Main exports: QueueError, putNowait, getNowait, Broadcaster, Broadcaster.publish,
  Broadcaster.Move, Broadcaster.Step, Broadcaster.start
-/
import VoltStream.Relational.Run

namespace VoltStream.Backend

/-- One call of `subscribe`: the queue object that it returns. -/
abbrev ClientId := Nat

/-- `_CLIENT_QUEUE_MAXSIZE`. -/
def clientQueueMaxsize : Nat := 32

/-- `asyncio.QueueFull` and `asyncio.QueueEmpty`. -/
inductive QueueError where
  | queueFull
  | queueEmpty
deriving Repr, DecidableEq

section Queue

variable {ε : Type*}

/-- `put_nowait` on a client's queue. -/
def putNowait (event : ε) (queue : List ε) : Except QueueError (List ε) :=
  if clientQueueMaxsize ≤ queue.length then .error .queueFull else .ok (queue ++ [event])

/-- `get_nowait`. -/
def getNowait : List ε → Except QueueError (ε × List ε)
  | [] => .error .queueEmpty
  | event :: rest => .ok (event, rest)

/-- The body of the loop in `publish`, for one client.  Of the second attempt only
`QueueEmpty` is caught. -/
def offer (event : ε) (queue : List ε) : Except QueueError (List ε) :=
  match putNowait event queue with
  | .ok after => .ok after
  | .error _ =>
      match getNowait queue with
      | .error _ => .ok queue
      | .ok (_, rest) => putNowait event rest

end Queue

/-- `Broadcaster`, with the queues of the clients; `ε` is the envelope that `publish`
builds once. -/
structure Broadcaster (ε : Type*) where
  subscribers : Finset ClientId
  queues : ClientId → List ε

namespace Broadcaster

variable {ε : Type*}

def start : Broadcaster ε where
  subscribers := ∅
  queues _ := []

def setQueue (self : Broadcaster ε) (client : ClientId) (queue : List ε) : Broadcaster ε :=
  { self with queues := Function.update self.queues client queue }

/-- `subscribe`, which returns this client's queue. -/
def subscribe (client : ClientId) (self : Broadcaster ε) : Broadcaster ε :=
  { self.setQueue client [] with subscribers := insert client self.subscribers }

/-- `unsubscribe`. -/
def unsubscribe (client : ClientId) (self : Broadcaster ε) : Broadcaster ε :=
  { self with subscribers := self.subscribers.erase client }

/-- `publish`, for the order in which the set is iterated. -/
def publish (event : ε) : List ClientId → Broadcaster ε → Except QueueError (Broadcaster ε)
  | [], self => .ok self
  | client :: rest, self =>
      match offer event (self.queues client) with
      | .error error => .error error
      | .ok queue => publish event rest (self.setQueue client queue)

/-- The order visits every subscriber once, as an iteration over the set does. -/
def Iterates (order : List ClientId) (self : Broadcaster ε) : Prop :=
  order.Nodup ∧ order.toFinset = self.subscribers

instance (order : List ClientId) (self : Broadcaster ε) : Decidable (self.Iterates order) :=
  inferInstanceAs (Decidable (_ ∧ _))

/-- What may happen next: a client connects, disconnects, or gets an event; or one is
published. -/
inductive Move (ε : Type*) where
  | subscribe (client : ClientId)
  | unsubscribe (client : ClientId)
  | publish (event : ε) (order : List ClientId)
  | get (client : ClientId) (event : ε)
deriving Repr, DecidableEq

/-- One move between two states.  A connection gets a queue object of its own, a `get`
the oldest event; none of the calls awaits anything halfway. -/
inductive Step : Broadcaster ε → Move ε → Broadcaster ε → Prop where
  | subscribe {state : Broadcaster ε} {client : ClientId} (fresh : client ∉ state.subscribers) :
      Step state (.subscribe client) (state.subscribe client)
  | unsubscribe {state : Broadcaster ε} {client : ClientId} :
      Step state (.unsubscribe client) (state.unsubscribe client)
  | publish {state after : Broadcaster ε} {event : ε} {order : List ClientId}
      (iterates : state.Iterates order) (published : state.publish event order = .ok after) :
      Step state (.publish event order) after
  | get {state : Broadcaster ε} {client : ClientId} {event : ε} {rest : List ε}
      (oldest : getNowait (state.queues client) = .ok (event, rest)) :
      Step state (.get client event) (state.setQueue client rest)

end Broadcaster

end VoltStream.Backend
