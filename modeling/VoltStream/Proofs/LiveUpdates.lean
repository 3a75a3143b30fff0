/-
Module: VoltStream.Proofs.LiveUpdates
Purpose: What a dashboard hears from the server over every run of both: across all its
  connections, updates that were published, each once, in order and an interval apart.
Trusted boundary: none
Main exports: delivered, Live.trail, Live.Traced, Live.traced_of_run, live_updates
-/
import VoltStream.Frontend.LiveDashboard
import VoltStream.Proofs.DashboardHistory
import VoltStream.Proofs.UpdateSpacing

namespace VoltStream.Frontend

open Relational Backend Backend.Realtime

/-- The update that a move delivers to the browser. -/
def LiveMove.delivered : LiveMove → Option FleetUpdate
  | .deliver update => some update
  | _ => none

/-- The updates that a run delivers to the browser, over all connections. -/
def delivered (moves : List LiveMove) : List FleetUpdate := moves.filterMap LiveMove.delivered

/-- The summary of an event that the listener gets. -/
def eventOf : Move Timestamp → Option (Snapshot Timestamp)
  | .fleetUpdate payload => some payload
  | _ => none

namespace Live

/-- What has been published for the connection and not been read: what is written on it,
and what waits in its queue. -/
def trail (live : Live) : List FleetUpdate :=
  live.wire ++ (live.connection.map live.server.broadcaster.queues).getD []

/-- What a run consists of: a run of the server, a run of the dashboard, and what goes from
one to the other. -/
structure Traced (now : Timestamp) (moves : List LiveMove) (live : Live) : Prop where
  server : Trace Realtime.Step (Realtime.start now) (moves.filterMap LiveMove.toServer) live.server
  hook : Trace Mount.Step .mounted (moves.filterMap LiveMove.toHook) live.mount
  events : (moves.filterMap LiveMove.toHook).filterMap eventOf = (delivered moves).map snapshot
  part : (delivered moves ++ live.trail).Sublist
    (published (moves.filterMap LiveMove.toServer))

variable {now : Timestamp} {moves : List LiveMove} {before after : Live} {move : LiveMove}

/-- A step of the browser alone, after which no more waits for it than before. -/
theorem Traced.of_browser (traced : Traced now moves before) {act : Move Timestamp}
    (isBrowser : move.toHook = some act) (notServer : move.toServer = none)
    (sameServer : after.server = before.server)
    (performed : before.mount.perform act = some after.mount)
    (event : eventOf act = move.delivered.map snapshot)
    (part : (move.delivered.toList ++ after.trail).Sublist before.trail) :
    Traced now (moves ++ [move]) after where
  server := by
    rw [filterMap_concat, notServer, sameServer, Option.toList_none, List.append_nil]
    exact traced.server
  hook := by
    rw [filterMap_concat, isBrowser]
    exact .snoc traced.hook performed
  events := by
    rw [delivered, filterMap_concat, filterMap_concat, isBrowser, Option.toList_some,
      filterMap_concat, traced.events, event, List.map_append]
    cases move.delivered <;> rfl
  part := by
    rw [delivered, filterMap_concat, filterMap_concat, notServer, Option.toList_none,
      List.append_nil, List.append_assoc]
    exact (part.append_left _).trans traced.part

/-- A step of the server, after which nothing waits for the browser but what did and what
has been published. -/
theorem Traced.of_server (traced : Traced now moves before) {act : Realtime.Move}
    (isServer : move.toServer = some act) (notHook : move.toHook = none)
    (notDelivered : move.delivered = none) (sameMount : after.mount = before.mount)
    (performed : before.server.perform act = some after.server)
    (part : after.trail.Sublist (before.trail ++ act.published.toList)) :
    Traced now (moves ++ [move]) after where
  server := by
    rw [filterMap_concat, isServer]
    exact .snoc traced.server performed
  hook := by
    rw [filterMap_concat, notHook, sameMount, Option.toList_none, List.append_nil]
    exact traced.hook
  events := by
    rw [delivered, filterMap_concat, filterMap_concat, notHook, notDelivered,
      Option.toList_none, Option.toList_none, List.append_nil, List.append_nil]
    exact traced.events
  part := by
    rw [delivered, filterMap_concat, filterMap_concat, notDelivered, isServer,
      Option.toList_none, List.append_nil, Option.toList_some, published_concat]
    refine (part.append_left _).trans ?_
    rw [← List.append_assoc]
    exact traced.part.append_right _

/-- What a client gets is the oldest update of its queue. -/
theorem queues_of_get {server later : Realtime} {client : ClientId} {update : FleetUpdate}
    (performed : server.perform (.get client update) = some later) :
    server.broadcaster.queues client = update :: later.broadcaster.queues client := by
  rw [Realtime.perform] at performed
  cases waiting : server.broadcaster.queues client with
  | nil =>
      rw [waiting] at performed
      cases performed
  | cons oldest rest =>
      rw [waiting] at performed
      obtain ⟨⟨-, rfl⟩, done⟩ := Option.ite_none_right_eq_some.mp performed
      obtain rfl := Option.some.inj done
      have left : (server.broadcaster.setQueue client rest).queues client = rest :=
        Function.update_self ..
      exact congrArg _ left.symm

/-- A step of the server brings nothing on the way but what it publishes. -/
theorem trail_of_server {later : Realtime} {act : Realtime.Move} (sound : before.server.Sound)
    (performed : before.server.perform act = some later) :
    Live.trail { before with server := later, wire := before.wire ++ before.written act }
      |>.Sublist (before.trail ++ act.published.toList) := by
  obtain ⟨server, connection, wire, mount⟩ := before
  cases connection with
  | none =>
      have unwritten : Live.written ⟨server, none, wire, mount⟩ act = [] := by
        cases act <;> rfl
      rw [unwritten]
      change (wire ++ [] ++ []).Sublist (wire ++ [] ++ _)
      rw [List.append_nil]
      exact List.sublist_append_left ..
  | some connected =>
      have waiting := (transition_of_step sound performed).queues connected
      change (wire ++ _ ++ later.broadcaster.queues connected).Sublist
        (wire ++ server.broadcaster.queues connected ++ act.published.toList)
      rw [List.append_assoc, List.append_assoc]
      refine List.Sublist.append_left ?_ wire
      by_cases own : ∃ update, act = .get connected update
      · obtain ⟨update, rfl⟩ := own
        rw [queues_of_get performed, Live.written, if_pos rfl]
        exact List.sublist_append_left ..
      · have unwritten : Live.written ⟨server, some connected, wire, mount⟩ act = [] := by
          cases act with
          | get client update =>
              refine if_neg fun same => own ⟨update, ?_⟩
              rw [Option.some.inj same]
          | _ => rfl
        rw [unwritten, List.nil_append]
        exact waiting

theorem traced_of_step (traced : Traced now moves before) (step : before.Step move after) :
    Traced now (moves ++ [move]) after := by
  have sound := (timely_of_run traced.server).1
  unfold Step at step
  cases move with
  | server act =>
      obtain ⟨later, performed, rfl⟩ := Option.map_eq_some_iff.mp step
      exact traced.of_server rfl rfl rfl rfl performed (trail_of_server sound performed)
  | connect client =>
      obtain ⟨-, done⟩ := Option.ite_none_right_eq_some.mp step
      obtain ⟨later, performed, rfl⟩ := Option.map_eq_some_iff.mp done
      refine traced.of_server rfl rfl rfl rfl performed ?_
      obtain ⟨-, subscribed⟩ := Option.ite_none_right_eq_some.mp performed
      obtain rfl := Option.some.inj subscribed
      change (Function.update before.server.broadcaster.queues client [] client).Sublist _
      rw [Function.update_self]
      exact List.nil_sublist _
  | deliver update =>
      rw [perform] at step
      cases onWire : before.wire with
      | nil =>
          rw [onWire] at step
          exact absurd step nofun
      | cons next rest =>
          rw [onWire] at step
          obtain ⟨rfl, done⟩ := Option.ite_none_right_eq_some.mp step
          obtain ⟨mount, performed, rfl⟩ := Option.map_eq_some_iff.mp done
          refine traced.of_browser rfl rfl rfl performed rfl ?_
          rw [trail, trail, onWire]
          exact List.Sublist.refl _
  | browser act =>
      cases act with
      | fleetUpdate payload => exact absurd step nofun
      | opened =>
          obtain ⟨-, done⟩ := Option.ite_none_right_eq_some.mp step
          obtain ⟨mount, performed, rfl⟩ := Option.map_eq_some_iff.mp done
          exact traced.of_browser rfl rfl rfl performed rfl (List.Sublist.refl _)
      | errored givenUp =>
          obtain ⟨mount, performed, rfl⟩ := Option.map_eq_some_iff.mp step
          exact traced.of_browser rfl rfl rfl performed rfl (List.nil_sublist _)
      | unmounted =>
          obtain ⟨mount, performed, rfl⟩ := Option.map_eq_some_iff.mp step
          exact traced.of_browser rfl rfl rfl performed rfl (List.nil_sublist _)
      | _ =>
          obtain ⟨mount, performed, rfl⟩ := Option.map_eq_some_iff.mp step
          exact traced.of_browser rfl rfl rfl performed rfl (List.Sublist.refl _)

variable {live : Live}

theorem traced_of_run (run : Trace Step (start now) moves live) : Traced now moves live :=
  run.invariant (Traced now) ⟨.nil _, .nil _, rfl, List.Sublist.refl _⟩
    fun _ _ _ _ traced step => traced_of_step traced step

end Live

/-! ### What the dashboard hears -/

theorem filter_deliveries_sublist (moves : List (Move Timestamp)) :
    ((deliveries moves).filter fun delivery => delivery.1 = .events).Sublist
      ((moves.filterMap eventOf).map fun payload => (Channel.events, payload)) := by
  have all : (deliveries moves).Sublist (moves.filterMap Move.delivery) :=
    List.Sublist.filterMap _ (List.takeWhile_sublist _)
  have same : ((moves.filterMap Move.delivery).filter fun delivery => delivery.1 = .events) =
      (moves.filterMap eventOf).map fun payload => (Channel.events, payload) := by
    rw [List.filter_filterMap, List.map_filterMap]
    refine List.filterMap_congr fun move _ => ?_
    cases move <;> rfl
  rw [← same]
  exact all.filter _

/-- Over every run of the server, the dashboard and the connections between them, the
updates that the dashboard is given were published, each is given once, in the order and
at the pace in which they were; and so the events that it hears are in order. -/
theorem live_updates {now : Timestamp} {moves : List LiveMove} {live : Live}
    (run : Trace Live.Step (Live.start now) moves live) :
    (delivered moves).Sublist (published (moves.filterMap LiveMove.toServer)) ∧
      (delivered moves).Pairwise Apart ∧
      UpdatesInOrder (moves.filterMap LiveMove.toHook) := by
  have traced := Live.traced_of_run run
  have part : (delivered moves).Sublist (published (moves.filterMap LiveMove.toServer)) :=
    (List.sublist_append_left ..).trans traced.part
  have apart := (timely_of_run traced.server).2.1.apart.sublist part
  have interval := publishInterval_pos
  have events := filter_deliveries_sublist (moves.filterMap LiveMove.toHook)
  rw [traced.events] at events
  have ordered : ((deliveries (moves.filterMap LiveMove.toHook)).filter fun delivery =>
      delivery.1 = .events).Pairwise NoEarlier := by
    refine List.Pairwise.sublist events ?_
    rw [List.map_map, List.pairwise_map]
    refine apart.imp fun isApart => ?_
    exact (le_add_of_nonneg_right interval.le).trans isApart
  refine ⟨part, apart, (List.pairwise_filter.mp ordered).imp ?_⟩
  rintro first second inOrder ⟨isEvent, isNext⟩
  exact inOrder (decide_eq_true isEvent) (decide_eq_true isNext)

/-- An update on a first connection, and one on a second after the first has failed. -/
def reconnecting : List LiveMove :=
  [.connect 0, .browser .opened, .server .wake, .server (.wait 9),
    .server (.compute oneIdleBattery), .server (.publish ⟨oneIdleBattery, 9⟩ [0]),
    .server (.get 0 ⟨oneIdleBattery, 9⟩), .deliver ⟨oneIdleBattery, 9⟩,
    .browser (.errored false), .connect 1, .browser .opened, .server (.wait 1000020),
    .server .wake, .server (.compute oneIdleBattery),
    .server (.publish ⟨oneIdleBattery, 1000020⟩ [1, 0]),
    .server (.get 1 ⟨oneIdleBattery, 1000020⟩), .deliver ⟨oneIdleBattery, 1000020⟩]

theorem sample_live_updates :
    delivered reconnecting = [⟨oneIdleBattery, 9⟩, ⟨oneIdleBattery, 1000020⟩] ∧
      UpdatesInOrder (reconnecting.filterMap LiveMove.toHook) := by
  have played : (play Live.perform reconnecting (Live.start 0)).isSome := by decide +kernel
  obtain ⟨live, isLive⟩ := Option.isSome_iff_exists.mp played
  exact ⟨rfl, (live_updates (trace_of_play Live.perform isLive)).2.2⟩

end VoltStream.Frontend
