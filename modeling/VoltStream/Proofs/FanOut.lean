/-
Module: VoltStream.Proofs.FanOut
Purpose: What each connected client gets to see of the events published since it
  connected, over every interleaving of clients and publishes.
Trusted boundary: none
Main exports: publishedSince, receivedSince, DroppedAt, offer_eq, publish_eq, Tracks,
  tracked, Served, fan_out, perform, step_of_perform
-/
import VoltStream.Relational.DropOldest
import VoltStream.Backend.Broadcaster

namespace VoltStream.Backend

open Relational

variable {ε : Type*}

namespace Broadcaster

/-! ### What happened since a client connected -/

/-- A client's events published since its last `subscribe`, after one more move. -/
def publishedAfter (client : ClientId) (published : List ε) : Move ε → List ε
  | .subscribe joining => if joining = client then [] else published
  | .unsubscribe _ => published
  | .publish event _ => published ++ [event]
  | .get _ _ => published

/-- The events published since the last `subscribe` of this client. -/
def publishedSince (client : ClientId) (moves : List (Move ε)) : List ε :=
  moves.foldl (publishedAfter client) []

def receivedAfter (client : ClientId) (received : List ε) : Move ε → List ε
  | .subscribe joining => if joining = client then [] else received
  | .unsubscribe _ => received
  | .publish _ _ => received
  | .get getting event => if getting = client then received ++ [event] else received

/-- The events that this client got since its last `subscribe`. -/
def receivedSince (client : ClientId) (moves : List (Move ε)) : List ε :=
  moves.foldl (receivedAfter client) []

theorem publishedSince_concat (client : ClientId) (moves : List (Move ε)) (move : Move ε) :
    publishedSince client (moves ++ [move]) =
      publishedAfter client (publishedSince client moves) move := by
  rw [publishedSince, List.foldl_append]
  rfl

theorem receivedSince_concat (client : ClientId) (moves : List (Move ε)) (move : Move ε) :
    receivedSince client (moves ++ [move]) =
      receivedAfter client (receivedSince client moves) move := by
  rw [receivedSince, List.foldl_append]
  rfl

/-- The event at this position of those published for the client was dropped at a
publish that found the client's queue full. -/
def DroppedAt (client : ClientId) (position : Nat) (moves : List (Move ε)) : Prop :=
  ∃ earlier event order later before,
    moves = earlier ++ .publish event order :: later ∧ .subscribe client ∉ later ∧
    Trace Step start earlier before ∧ client ∈ before.subscribers ∧
    (before.queues client).length = clientQueueMaxsize ∧
    (publishedSince client earlier).length = position + clientQueueMaxsize

/-- It stays dropped until the client connects again. -/
theorem DroppedAt.concat {client : ClientId} {position : Nat} {moves : List (Move ε)}
    {move : Move ε} (dropped : DroppedAt client position moves)
    (stays : .subscribe client ≠ move) : DroppedAt client position (moves ++ [move]) := by
  obtain ⟨earlier, event, order, later, before, split, since, run, connected, full, oldest⟩ :=
    dropped
  refine ⟨earlier, event, order, later ++ [move], before, ?_, ?_, run, connected, full, oldest⟩
  · rw [split, List.append_assoc, List.cons_append]
  · rw [List.mem_append, List.mem_singleton]
    exact not_or.mpr ⟨since, stays⟩

/-- What a `get` returns is the head of the queue. -/
theorem getNowait_eq_ok {event : ε} {queue rest : List ε}
    (oldest : getNowait queue = .ok (event, rest)) : queue = event :: rest := by
  cases queue with
  | nil => cases oldest
  | cons first others =>
      cases oldest
      rfl

/-! ### A publish -/

/-- Within its bound, a client's queue takes every event and drops its oldest if need
be: no exception leaves the loop. -/
theorem offer_eq (event : ε) {queue : List ε} (small : queue.length ≤ clientQueueMaxsize) :
    offer event queue = .ok (pushDropOldest clientQueueMaxsize queue event) := by
  rcases Nat.lt_or_ge queue.length clientQueueMaxsize with room | full
  · have none : queue.length + 1 - clientQueueMaxsize = 0 := by omega
    rw [offer, putNowait, if_neg (Nat.not_le.mpr room), pushDropOldest, none, List.drop_zero]
  · have one : queue.length + 1 - clientQueueMaxsize = 1 := by omega
    rw [offer, putNowait, if_pos full, pushDropOldest, one]
    cases queue with
    | nil => exact absurd full (Nat.not_le.mpr (by decide : 0 < clientQueueMaxsize))
    | cons oldest rest =>
        have room : ¬ clientQueueMaxsize ≤ rest.length := by
          rw [List.length_cons] at small
          omega
        simp only [getNowait, putNowait, if_neg room, List.cons_append, List.drop_one,
          List.tail_cons]

/-- A publish gives every client what its own queue makes of the event. -/
theorem publish_eq (event : ε) {order : List ClientId} {self : Broadcaster ε}
    (once : order.Nodup)
    (small : ∀ client ∈ order, (self.queues client).length ≤ clientQueueMaxsize) :
    self.publish event order = .ok { self with
      queues := fun client =>
        if client ∈ order then pushDropOldest clientQueueMaxsize (self.queues client) event
        else self.queues client } := by
  induction order generalizing self with
  | nil => simp [publish]
  | cons first rest ih =>
      obtain ⟨notAgain, restOnce⟩ := List.nodup_cons.mp once
      obtain ⟨firstSmall, restSmall⟩ := List.forall_mem_cons.mp small
      rw [publish, offer_eq event firstSmall]
      dsimp only
      rw [ih restOnce]
      · congr 2
        funext client
        by_cases same : client = first
        · subst same
          simp [setQueue, notAgain]
        · simp [setQueue, same]
      · intro client isRest
        have other : client ≠ first := fun same => notAgain (same ▸ isRest)
        simpa [setQueue, other] using restSmall client isRest

/-! ### Runs -/

/-- The reader has seen what this client has. -/
structure Tracks (client : ClientId) (moves : List (Move ε)) (state : Broadcaster ε)
    (reader : Reader clientQueueMaxsize ε) : Prop where
  pushed : reader.pushed = publishedSince client moves
  queue : reader.queue = state.queues client
  received : reader.received = receivedSince client moves
  dropped : ∀ position ∈ reader.dropped, DroppedAt client position moves

section Steps

variable {client : ClientId} {moves : List (Move ε)} {state after : Broadcaster ε}
  {reader : Reader clientQueueMaxsize ε} {move : Move ε}

/-- A move that concerns others. -/
theorem Tracks.unchanged (tracks : Tracks client moves state reader)
    (stays : .subscribe client ≠ move)
    (published : publishedAfter client (publishedSince client moves) move =
      publishedSince client moves)
    (received : receivedAfter client (receivedSince client moves) move =
      receivedSince client moves)
    (sameQueue : after.queues client = state.queues client) :
    Tracks client (moves ++ [move]) after reader where
  pushed := by rw [publishedSince_concat, published, tracks.pushed]
  queue := by rw [sameQueue, tracks.queue]
  received := by rw [receivedSince_concat, received, tracks.received]
  dropped position isDropped := (tracks.dropped position isDropped).concat stays

theorem Tracks.subscribed :
    Tracks client (moves ++ [.subscribe client]) (state.subscribe client) Reader.start where
  pushed := by
    rw [publishedSince_concat, publishedAfter, if_pos rfl]
    rfl
  queue := by
    change [] = Function.update state.queues client [] client
    rw [Function.update_self]
  received := by
    rw [receivedSince_concat, receivedAfter, if_pos rfl]
    rfl
  dropped position isDropped := absurd isDropped List.not_mem_nil

theorem Tracks.published {event : ε} {order : List ClientId}
    (tracks : Tracks client moves state reader) (run : Trace Step start moves state)
    (connected : client ∈ state.subscribers)
    (offered : after.queues client =
      pushDropOldest clientQueueMaxsize (state.queues client) event) :
    Tracks client (moves ++ [.publish event order]) after (reader.push event) where
  pushed := by rw [Reader.push_pushed, tracks.pushed, publishedSince_concat, publishedAfter]
  queue := by rw [Reader.queue_push, tracks.queue, offered]
  received := by
    rw [Reader.received_push, tracks.received, receivedSince_concat, receivedAfter]
  dropped := by
    intro position isDropped
    rcases reader.mem_dropped_push.mp isDropped with before | ⟨rfl, full⟩
    · exact (tracks.dropped position before).concat (by simp)
    · refine ⟨moves, event, order, [], state, rfl, List.not_mem_nil, run, connected, ?_, ?_⟩
      · rw [← tracks.queue, full]
      · have length := reader.length_queue
        have least := reader.nextBound
        rw [← tracks.pushed]
        omega

theorem Tracks.got {event : ε} {rest : List ε} (tracks : Tracks client moves state reader)
    (oldest : state.queues client = event :: rest) :
    ∃ later, Tracks client (moves ++ [.get client event]) (state.setQueue client rest) later := by
  have queue : reader.queue = event :: rest := tracks.queue.trans oldest
  have nonempty : reader.next < reader.pushed.length := by
    have length := reader.length_queue
    rw [queue, List.length_cons] at length
    omega
  have head : reader.pushed[reader.next] = event := by
    have first : reader.queue[0]? = some event := by rw [queue]; rfl
    rw [Reader.queue, List.getElem?_drop, Nat.add_zero, List.getElem?_eq_getElem nonempty] at first
    exact Option.some.inj first
  refine ⟨reader.take nonempty, ?_, ?_, ?_, ?_⟩
  · rw [publishedSince_concat]
    exact tracks.pushed
  · rw [Reader.queue_take, queue]
    change rest = Function.update state.queues client rest client
    rw [Function.update_self]
  · rw [Reader.received_take, head, tracks.received, receivedSince_concat, receivedAfter,
      if_pos rfl]
  · exact fun position isDropped => (tracks.dropped position isDropped).concat (by simp)

end Steps

/-- A publish offers its event to every subscriber, whatever the order. -/
theorem publish_of_tracked {moves : List (Move ε)} {state : Broadcaster ε}
    (tracked : ∀ client ∈ state.subscribers, ∃ reader, Tracks client moves state reader)
    (event : ε) {order : List ClientId} (iterates : state.Iterates order) :
    state.publish event order = .ok { state with
      queues := fun client =>
        if client ∈ state.subscribers then
          pushDropOldest clientQueueMaxsize (state.queues client) event
        else state.queues client } := by
  have isSubscriber : ∀ client, client ∈ order ↔ client ∈ state.subscribers := by
    intro client
    rw [← iterates.2, List.mem_toFinset]
  rw [publish_eq event iterates.1]
  · simp only [isSubscriber]
  · intro client inOrder
    obtain ⟨reader, tracks⟩ := tracked client ((isSubscriber client).mp inOrder)
    rw [← tracks.queue]
    exact reader.length_queue_le

/-- In every run, each connected client has seen what some reader has. -/
theorem tracked {moves : List (Move ε)} {state : Broadcaster ε}
    (run : Trace Step start moves state) :
    ∀ client ∈ state.subscribers, ∃ reader, Tracks client moves state reader := by
  have both := run.invariant
    (fun moves state => Trace Step start moves state ∧
      ∀ client ∈ state.subscribers, ∃ reader, Tracks client moves state reader)
    ⟨.nil start, fun client connected => absurd connected (Finset.notMem_empty client)⟩ ?_
  · exact both.2
  rintro moves state move after ⟨run, tracked⟩ step
  refine ⟨.snoc run step, fun client connected => ?_⟩
  cases step with
  | @subscribe joining fresh =>
      rcases Finset.mem_insert.mp connected with rfl | already
      · exact ⟨Reader.start, Tracks.subscribed⟩
      · obtain ⟨reader, tracks⟩ := tracked client already
        have apart : joining ≠ client := fun same => fresh (same ▸ already)
        refine ⟨reader, tracks.unchanged ?_ ?_ ?_ ?_⟩
        · exact fun same => apart (Move.subscribe.inj same).symm
        · rw [publishedAfter, if_neg apart]
        · rw [receivedAfter, if_neg apart]
        · exact Function.update_of_ne apart.symm ..
  | unsubscribe =>
      obtain ⟨reader, tracks⟩ := tracked client (Finset.mem_of_mem_erase connected)
      exact ⟨reader, tracks.unchanged (by simp) rfl rfl rfl⟩
  | @publish _ event order iterates published =>
      rw [publish_of_tracked tracked event iterates] at published
      obtain rfl := Except.ok.inj published
      obtain ⟨reader, tracks⟩ := tracked client connected
      exact ⟨reader.push event, tracks.published run connected (if_pos connected)⟩
  | @get getting event rest oldest =>
      obtain ⟨reader, tracks⟩ := tracked client connected
      by_cases same : getting = client
      · subst same
        exact tracks.got (getNowait_eq_ok oldest)
      · refine ⟨reader, tracks.unchanged (by simp) rfl ?_ ?_⟩
        · rw [receivedAfter, if_neg same]
        · exact Function.update_of_ne (Ne.symm same) ..

/-- What a connected client may rely on: a short queue that ends where the events
published since it connected do; with what it received before, they are events at rising
positions, and each missing one was dropped from a full queue. -/
structure Served (client : ClientId) (moves : List (Move ε)) (state : Broadcaster ε) : Prop where
  bounded : (state.queues client).length ≤ 32
  suffix : state.queues client <:+ publishedSince client moves
  positions : ∃ positions : List Nat, positions.Pairwise (· < ·) ∧
    positions.map ((publishedSince client moves)[·]?) =
      (receivedSince client moves ++ state.queues client).map some ∧
    ∀ position < (publishedSince client moves).length, position ∉ positions →
      DroppedAt client position moves

/-- At every moment of every interleaving, each connected client is served, and a publish,
in whatever order it visits the clients, raises nothing and gives each of them what its
own queue makes of the event. -/
theorem fan_out (moves : List (Move ε)) (state : Broadcaster ε)
    (run : Trace Step start moves state) :
    (∀ client ∈ state.subscribers, Served client moves state) ∧
      ∀ event order, state.Iterates order →
        ∃ after, state.publish event order = .ok after ∧
          after.subscribers = state.subscribers ∧
          ∀ client, after.queues client =
            if client ∈ state.subscribers then
              pushDropOldest 32 (state.queues client) event
            else state.queues client := by
  have readers := tracked run
  refine ⟨fun client connected => ?_, fun event order iterates =>
    ⟨_, publish_of_tracked readers event iterates, rfl, fun _ => rfl⟩⟩
  obtain ⟨reader, tracks⟩ := readers client connected
  obtain ⟨positions, rising, items, missing⟩ := reader.exists_positions
  refine ⟨?_, ?_, positions, rising, ?_, ?_⟩
  · rw [← tracks.queue]
    exact reader.length_queue_le
  · rw [← tracks.queue, ← tracks.pushed]
    exact reader.queue_suffix
  · rw [← tracks.pushed, ← tracks.received, ← tracks.queue]
    exact items
  · intro position inRange absent
    rw [← tracks.pushed] at inRange
    exact tracks.dropped position (missing position inRange absent)

/-- The next state, unless the move is impossible. -/
def perform [DecidableEq ε] (state : Broadcaster ε) : Move ε → Option (Broadcaster ε)
  | .subscribe client =>
      if client ∈ state.subscribers then none else some (state.subscribe client)
  | .unsubscribe client => some (state.unsubscribe client)
  | .publish event order =>
      if state.Iterates order then (state.publish event order).toOption else none
  | .get client event =>
      match getNowait (state.queues client) with
      | .ok (oldest, rest) => if oldest = event then some (state.setQueue client rest) else none
      | .error _ => none

theorem step_of_perform [DecidableEq ε] {state after : Broadcaster ε} {move : Move ε}
    (performed : state.perform move = some after) : Step state move after := by
  cases move with
  | subscribe client =>
      obtain ⟨fresh, isAfter⟩ := Option.ite_none_left_eq_some.mp performed
      cases isAfter
      exact .subscribe fresh
  | unsubscribe client =>
      cases performed
      exact .unsubscribe
  | publish event order =>
      obtain ⟨iterates, published⟩ := Option.ite_none_right_eq_some.mp performed
      refine .publish iterates ?_
      cases outcome : state.publish event order with
      | error error =>
          rw [outcome] at published
          cases published
      | ok reached =>
          rw [outcome] at published
          exact congrArg _ (Option.some.inj published)
  | get client event =>
      rw [perform] at performed
      split at performed
      · next oldest rest got =>
          obtain ⟨rfl, isAfter⟩ := Option.ite_none_right_eq_some.mp performed
          cases isAfter
          exact .get got
      · cases performed

/-- Two clients connect, of which the first gets each of forty events at once and the second
none.  Then a third one comes, an event is published in another order, and the first goes. -/
def slowClient : List (Move Nat) :=
  [.subscribe 1, .subscribe 2] ++
    (List.range 40).flatMap (fun event => [.publish event [1, 2], .get 1 event]) ++
    [.subscribe 3, .publish 40 [3, 1, 2], .unsubscribe 1]

/-- The slow client has lost the nine oldest events, and loses a tenth with the next one. -/
theorem sample_fan_out :
    ∃ state after : Broadcaster Nat, Trace Step start slowClient state ∧
      state.queues 2 = List.range' 9 32 ∧ Served 2 slowClient state ∧
      state.queues 3 = [40] ∧ Served 3 slowClient state ∧
      state.publish 41 [3, 2] = .ok after ∧
      after.queues 2 = pushDropOldest 32 (List.range' 9 32) 41 ∧
      after.queues 3 = pushDropOldest 32 [40] 41 := by
  have played : (play perform slowClient (start : Broadcaster Nat)).map (fun state =>
      (state.subscribers, state.queues 2, state.queues 3)) =
        some ({2, 3}, List.range' 9 32, [40]) := by
    decide +kernel
  obtain ⟨state, isState, reached⟩ := Option.map_eq_some_iff.mp played
  simp only [Prod.mk.injEq] at reached
  obtain ⟨connected, second, third⟩ := reached
  have run : Trace Step start slowClient state :=
    (trace_of_play perform isState).mono fun _ _ _ => step_of_perform
  have isSecond : 2 ∈ state.subscribers := by rw [connected]; decide
  have isThird : 3 ∈ state.subscribers := by rw [connected]; decide
  obtain ⟨served, published⟩ := fan_out slowClient state run
  have iterates : state.Iterates [3, 2] := ⟨by decide, by rw [connected]; decide⟩
  obtain ⟨after, isAfter, -, queues⟩ := published 41 [3, 2] iterates
  refine ⟨state, after, run, second, served 2 isSecond, third, served 3 isThird, isAfter, ?_, ?_⟩
  · rw [queues, if_pos isSecond, second]
  · rw [queues, if_pos isThird, third]

end Broadcaster

end VoltStream.Backend
