/-
Module: VoltStream.Backend.RealtimePublisher
Purpose: The realtime side of the backend as one process: the publisher that computes a
  fleet summary at most once an interval, the broadcaster, and the streams of the clients.
Trusted boundary: human-reviewed spec of `run_fleet_update_publisher` of
  `app/services/realtime_publisher.py`, of `_event_stream` of `app/api/stream.py`, and of
  `asyncio.sleep`
Main exports: publishInterval, FleetUpdate, Publisher, Realtime, Realtime.Move,
  Realtime.perform, Realtime.Step, Realtime.start
-/
import VoltStream.Backend.Broadcaster
import VoltStream.Backend.FleetSummary

namespace VoltStream.Backend

/-- `_PUBLISH_INTERVAL_SECONDS`. -/
@[irreducible] def publishInterval : Int := timedelta 1

/-- One `fleet_update`, stamped with the moment at which its summary was computed.  The
stamp is not in the event. -/
structure FleetUpdate where
  summary : FleetSummaryResponse ℚ
  computedAt : Timestamp
deriving Repr, DecidableEq

/-- Where `run_fleet_update_publisher` is. -/
inductive Publisher where
  | sleeping (wake : Timestamp)
  | computing
  | computed (update : FleetUpdate)
deriving Repr, DecidableEq

/-- The process, with a clock.  `connected` counts the calls of `subscribe`, each of which
creates a queue of its own. -/
structure Realtime where
  now : Timestamp
  publisher : Publisher
  broadcaster : Broadcaster FleetUpdate
  connected : Nat

namespace Realtime

/-- The tasks have just been created. -/
def start (now : Timestamp) : Realtime where
  now := now
  publisher := .sleeping now
  broadcaster := .start
  connected := 0

/-- What can happen between two awaits. -/
inductive Move where
  | wait (later : Timestamp)
  | wake
  | compute (summary : FleetSummaryResponse ℚ)
  | publish (update : FleetUpdate) (order : List ClientId)
  | fail
  | subscribe (client : ClientId)
  | unsubscribe (client : ClientId)
  | get (client : ClientId) (update : FleetUpdate)
deriving Repr, DecidableEq

variable (state : Realtime)

/-- `asyncio.sleep` at the end of an iteration, whether it published, skipped or failed. -/
def sleep : Realtime := { state with publisher := .sleeping (state.now + publishInterval) }

/-- What a move does, if it is possible.  An iteration queries the summary only if somebody
is connected, and may fail until it has published; who is connected may change while the
query and the end of its session are awaited. -/
def perform : Move → Option Realtime
  | .wait later => if state.now ≤ later then some { state with now := later } else none
  | .wake =>
      match state.publisher with
      | .sleeping wake =>
          if wake ≤ state.now then
            if 0 < state.broadcaster.subscribers.card then
              some { state with publisher := .computing }
            else some state.sleep
          else none
      | _ => none
  | .compute summary =>
      match state.publisher with
      | .computing => some { state with publisher := .computed ⟨summary, state.now⟩ }
      | _ => none
  | .publish update order =>
      if state.publisher = .computed update ∧ state.broadcaster.Iterates order then
        match state.broadcaster.publish update order with
        | .ok broadcaster => some { state with broadcaster := broadcaster }.sleep
        | .error _ => none
      else none
  | .fail =>
      match state.publisher with
      | .sleeping _ => none
      | _ => some state.sleep
  | .subscribe client =>
      if client = state.connected then
        some
          { state with
            broadcaster := state.broadcaster.subscribe client
            connected := state.connected + 1 }
      else none
  | .unsubscribe client =>
      some { state with broadcaster := state.broadcaster.unsubscribe client }
  | .get client update =>
      match getNowait (state.broadcaster.queues client) with
      | .ok (oldest, rest) =>
          if client ∈ state.broadcaster.subscribers ∧ oldest = update then
            some { state with broadcaster := state.broadcaster.setQueue client rest }
          else none
      | .error _ => none

/-- `perform` as a relation. -/
def Step (before : Realtime) (move : Move) (after : Realtime) : Prop :=
  before.perform move = some after

/-- What a move does to the broadcaster. -/
def Move.toBroadcaster : Move → Option (Broadcaster.Move FleetUpdate)
  | .publish update order => some (.publish update order)
  | .subscribe client => some (.subscribe client)
  | .unsubscribe client => some (.unsubscribe client)
  | .get client update => some (.get client update)
  | _ => none

end Realtime

end VoltStream.Backend
