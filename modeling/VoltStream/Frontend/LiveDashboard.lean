/-
Module: VoltStream.Frontend.LiveDashboard
Purpose: A mounted dashboard together with the server that it is connected to: the event
  source connects and reconnects, the server writes updates on the connection, and the
  browser reads them.
Trusted boundary: human-reviewed spec of an `EventSource`, which reads one connection at a
  time, in order, and drops what it has not read when the connection ends
Main exports: FleetUpdate.snapshot, Live, Live.start, LiveMove, Live.perform, Live.Step,
  LiveMove.toServer, LiveMove.toHook
-/
import VoltStream.Backend.RealtimePublisher
import VoltStream.Frontend.FleetDashboard

namespace VoltStream.Frontend

open Backend

/-- The update as the listener for `fleet_update` gets it. -/
def snapshot (update : FleetUpdate) : Snapshot Timestamp := ⟨update.summary, update.computedAt⟩

/-- The server, the connection of the event source if there is one, what has been written
on it but not read, and the dashboard. -/
structure Live where
  server : Realtime
  connection : Option ClientId
  wire : List FleetUpdate
  mount : Mount Timestamp

/-- What can happen: at the server, on the connection, or in the browser. -/
inductive LiveMove where
  | server (move : Realtime.Move)
  | connect (client : ClientId)
  | deliver (update : FleetUpdate)
  | browser (move : Move Timestamp)
deriving Repr, DecidableEq

/-- What a move does to the server; a request of the event source is a `subscribe`. -/
def LiveMove.toServer : LiveMove → Option Realtime.Move
  | .server move => some move
  | .connect client => some (.subscribe client)
  | _ => none

/-- What a move does to the dashboard. -/
def LiveMove.toHook : LiveMove → Option (Move Timestamp)
  | .deliver update => some (.fleetUpdate (snapshot update))
  | .browser move => some move
  | _ => none

namespace Live

/-- The dashboard has just been mounted, at a server that has just been started. -/
def start (now : Timestamp) : Live where
  server := .start now
  connection := none
  wire := []
  mount := .mounted

variable (live : Live)

/-- The connection is gone, and with it what has not been read. -/
def disconnect : Live := { live with connection := none, wire := [] }

/-- What a step of the server adds to what has been written on the connection. -/
def written : Realtime.Move → List FleetUpdate
  | .get client update => if live.connection = some client then [update] else []
  | _ => []

/-- What a move does, if it is possible.  The event source connects while it is
connecting; it is open once the response to its request has begun. -/
def perform : LiveMove → Option Live
  | .server move =>
      (live.server.perform move).map fun server =>
        { live with server := server, wire := live.wire ++ live.written move }
  | .connect client =>
      if live.mount.readyState = .connecting ∧ live.connection = none then
        (live.server.perform (.subscribe client)).map fun server =>
          { live with server := server, connection := some client, wire := [] }
      else none
  | .deliver update =>
      match live.wire with
      | [] => none
      | next :: rest =>
          if next = update then
            (live.mount.perform (.fleetUpdate (snapshot update))).map fun mount =>
              { live with wire := rest, mount := mount }
          else none
  | .browser move =>
      match move with
      | .fleetUpdate _ => none
      | .opened =>
          if live.connection.isSome then
            (live.mount.perform .opened).map fun mount => { live with mount := mount }
          else none
      | .errored givenUp =>
          (live.mount.perform (.errored givenUp)).map fun mount =>
            { live.disconnect with mount := mount }
      | .unmounted =>
          (live.mount.perform .unmounted).map fun mount => { live.disconnect with mount := mount }
      | other => (live.mount.perform other).map fun mount => { live with mount := mount }

/-- `perform` as a relation. -/
def Step (before : Live) (move : LiveMove) (after : Live) : Prop :=
  before.perform move = some after

end Live

end VoltStream.Frontend
