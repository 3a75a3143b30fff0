/-
Module: VoltStream.Proofs.UpdateSpacing
Purpose: The realtime updates over every run of the publisher and its clients: how far
  apart they are, that no publish fails, and how old an update is when a slow client
  loses it.
Trusted boundary: human-reviewed statements of the results
Main exports: Apart, Realtime.earliest, Realtime.Sound, Realtime.Transition,
  Realtime.transition_of_step, Realtime.Timely, Realtime.timely_of_run
-/
import VoltStream.Relational.Spacing
import VoltStream.Backend.RealtimePublisher
import VoltStream.Proofs.FanOut

namespace VoltStream.Backend

open Relational Broadcaster

/-- The second update was computed at least an interval after the first. -/
def Apart (first second : FleetUpdate) : Prop :=
  first.computedAt + publishInterval ≤ second.computedAt

namespace Realtime

/-- What a move publishes. -/
def Move.published : Move → Option FleetUpdate
  | .publish update _ => some update
  | _ => none

/-- No summary of an iteration that has not published is computed before this moment. -/
def earliest (state : Realtime) : Timestamp :=
  match state.publisher with
  | .sleeping wake => wake
  | .computing => state.now
  | .computed update => update.computedAt

/-- What every step keeps: a summary is no newer than the clock, and no queue is longer
than its bound. -/
structure Sound (state : Realtime) : Prop where
  current : ∀ update, state.publisher = .computed update → update.computedAt ≤ state.now
  bounded : ∀ client, (state.broadcaster.queues client).length ≤ clientQueueMaxsize

theorem sound_start (now : Timestamp) : (start now).Sound where
  current := fun _ isComputed => nomatch isComputed
  bounded _ := Nat.zero_le _

variable {before after : Realtime} {move : Move}

/-- A publish succeeds, and gives each subscriber what its queue makes of the update. -/
theorem publish_of_sound {state : Realtime} (sound : state.Sound) (update : FleetUpdate)
    {order : List ClientId} (iterates : state.broadcaster.Iterates order) :
    state.broadcaster.publish update order = .ok { state.broadcaster with
      queues := fun client =>
        if client ∈ state.broadcaster.subscribers then
          pushDropOldest clientQueueMaxsize (state.broadcaster.queues client) update
        else state.broadcaster.queues client } := by
  have isSubscriber : ∀ client, client ∈ order ↔ client ∈ state.broadcaster.subscribers := by
    intro client
    rw [← iterates.2, List.mem_toFinset]
  rw [publish_eq update iterates.1 fun client _ => sound.bounded client]
  simp only [isSubscriber]

/-- What a step changes: the clock and the publisher go on, what is published was computed,
and a queue holds nothing but what it held and what is published. -/
structure Transition (before : Realtime) (move : Move) (after : Realtime) : Prop where
  sound : after.Sound
  earliest : before.earliest ≤ after.earliest
  published : ∀ update ∈ move.published,
    before.earliest ≤ update.computedAt ∧ update.computedAt + publishInterval ≤ after.earliest
  queues : ∀ client, (after.broadcaster.queues client).Sublist
    (before.broadcaster.queues client ++ move.published.toList)

/-- A step that publishes nothing and leaves the queues as they are. -/
theorem Transition.of_same (sound : before.Sound) (silent : move.published = none)
    (later : before.earliest ≤ after.earliest)
    (current : ∀ update, after.publisher = .computed update → update.computedAt ≤ after.now)
    (same : after.broadcaster.queues = before.broadcaster.queues) :
    Transition before move after where
  sound :=
    { current := current
      bounded := fun client => by
        rw [same]
        exact sound.bounded client }
  earliest := later
  published update isPublished := absurd isPublished (by simp [silent])
  queues client := by
    rw [same]
    exact List.sublist_append_left ..

/-- A step of a client, by which one queue becomes a part of what it was. -/
theorem Transition.of_setQueue (sound : before.Sound) (silent : move.published = none)
    {client : ClientId} {queue : List FleetUpdate}
    (part : queue.Sublist (before.broadcaster.queues client))
    (samePublisher : after.publisher = before.publisher) (sameNow : after.now = before.now)
    (set : after.broadcaster.queues = Function.update before.broadcaster.queues client queue) :
    Transition before move after where
  sound :=
    { current := fun update computed => by
        rw [sameNow]
        exact sound.current update (samePublisher ▸ computed)
      bounded := fun other => by
        rw [set]
        by_cases same : other = client
        · subst same
          rw [Function.update_self]
          exact part.length_le.trans (sound.bounded other)
        · rw [Function.update_of_ne same]
          exact sound.bounded other }
  earliest := by
    rw [Realtime.earliest, Realtime.earliest, samePublisher, sameNow]
  published update isPublished := absurd isPublished (by simp [silent])
  queues other := by
    rw [set, silent, Option.toList_none, List.append_nil]
    by_cases same : other = client
    · subst same
      rw [Function.update_self]
      exact part
    · rw [Function.update_of_ne same]

theorem publishInterval_pos : 0 < publishInterval := by decide +kernel

theorem earliest_sleep (state : Realtime) :
    state.sleep.earliest = state.now + publishInterval := rfl

theorem transition_of_step (sound : before.Sound) (step : before.Step move after) :
    Transition before move after := by
  have interval := publishInterval_pos
  unfold Step at step
  cases move with
  | wait later =>
      obtain ⟨noEarlier, done⟩ := Option.ite_none_right_eq_some.mp step
      obtain rfl := Option.some.inj done
      refine .of_same sound rfl ?_ ?_ rfl
      · unfold earliest
        cases before.publisher <;> simp [noEarlier]
      · exact fun update computed => (sound.current update computed).trans noEarlier
  | wake =>
      simp only [perform] at step
      split at step
      · rename_i wake asleep
        obtain ⟨due, done⟩ := Option.ite_none_right_eq_some.mp step
        have isWake : before.earliest = wake := by rw [earliest, asleep]
        split_ifs at done with connected
        · obtain rfl := Option.some.inj done
          exact .of_same sound rfl (isWake ▸ due)
            (fun _ isComputed => Publisher.noConfusion isComputed) rfl
        · obtain rfl := Option.some.inj done
          refine .of_same sound rfl ?_ (fun _ isComputed => Publisher.noConfusion isComputed) rfl
          rw [isWake, earliest_sleep]
          linarith
      · cases step
  | compute summary =>
      simp only [perform] at step
      split at step
      · rename_i computing
        obtain rfl := Option.some.inj step
        refine .of_same sound rfl ?_ ?_ rfl
        · rw [earliest, computing]
          exact le_rfl
        · intro update computed
          obtain rfl := Publisher.computed.inj computed
          exact le_rfl
      · cases step
  | publish update order =>
      simp only [perform] at step
      obtain ⟨⟨computed, iterates⟩, done⟩ := Option.ite_none_right_eq_some.mp step
      rw [publish_of_sound sound update iterates] at done
      obtain rfl := Option.some.inj done
      have current := sound.current update computed
      have isUpdate : before.earliest = update.computedAt := by rw [earliest, computed]
      refine ⟨⟨fun _ isComputed => Publisher.noConfusion isComputed, fun client => ?_⟩, ?_, ?_,
        fun client => ?_⟩
      · change (if _ then _ else _ : List FleetUpdate).length ≤ _
        split
        · rw [pushDropOldest, List.length_drop, List.length_append, List.length_singleton]
          omega
        · exact sound.bounded client
      · rw [isUpdate, earliest_sleep]
        change _ ≤ before.now + publishInterval
        linarith
      · intro other isPublished
        obtain rfl := Option.some.inj isPublished
        rw [earliest_sleep]
        exact ⟨isUpdate.le, by change _ ≤ before.now + publishInterval; linarith⟩
      · change (if _ then _ else _ : List FleetUpdate).Sublist _
        split
        · exact List.drop_sublist ..
        · exact List.sublist_append_left ..
  | fail =>
      simp only [perform] at step
      split at step
      · cases step
      · rename_i awake
        obtain rfl := Option.some.inj step
        refine .of_same sound rfl ?_ (fun _ isComputed => Publisher.noConfusion isComputed) rfl
        rw [earliest_sleep, earliest]
        split
        · rename_i wake asleep
          exact absurd asleep (awake wake)
        · linarith
        · rename_i update computed
          have current := sound.current update computed
          linarith
  | subscribe client =>
      obtain ⟨-, done⟩ := Option.ite_none_right_eq_some.mp step
      obtain rfl := Option.some.inj done
      exact .of_setQueue sound rfl (List.nil_sublist _) rfl rfl rfl
  | unsubscribe client =>
      obtain rfl := Option.some.inj step
      exact .of_same sound rfl le_rfl sound.current rfl
  | get client update =>
      simp only [perform] at step
      cases waiting : before.broadcaster.queues client with
      | nil =>
          rw [waiting] at step
          cases step
      | cons oldest rest =>
          rw [waiting] at step
          obtain ⟨-, done⟩ := Option.ite_none_right_eq_some.mp step
          obtain rfl := Option.some.inj done
          exact .of_setQueue sound rfl (waiting ▸ List.sublist_cons_self oldest rest) rfl rfl rfl

/-! ### Runs -/

/-- The updates are an interval apart, and so is whatever comes next. -/
structure Timely (updates : List FleetUpdate) (state : Realtime) : Prop where
  apart : updates.Pairwise Apart
  before : ∀ update ∈ updates, update.computedAt + publishInterval ≤ state.earliest

theorem Timely.sublist {updates others : List FleetUpdate} {state : Realtime}
    (timely : Timely updates state) (part : others.Sublist updates) : Timely others state :=
  ⟨timely.apart.sublist part, fun update isOther => timely.before update (part.subset isOther)⟩

/-- What is published in a step joins updates that are an interval apart. -/
theorem Timely.step {updates : List FleetUpdate} (timely : Timely updates before)
    (transition : Transition before move after) :
    Timely (updates ++ move.published.toList) after where
  apart := by
    refine List.pairwise_append.mpr ⟨timely.apart, ?_, ?_⟩
    · cases move.published <;> simp
    · intro update isOld next isNext
      have published := transition.published next (Option.mem_toList.mp isNext)
      exact (timely.before update isOld).trans published.1
  before := by
    intro update isUpdate
    rcases List.mem_append.mp isUpdate with isOld | isNext
    · exact (timely.before update isOld).trans transition.earliest
    · exact (transition.published update (Option.mem_toList.mp isNext)).2

/-- The updates that a run publishes. -/
def published (moves : List Move) : List FleetUpdate := moves.filterMap Move.published

theorem published_concat (moves : List Move) (move : Move) :
    published (moves ++ [move]) = published moves ++ move.published.toList :=
  filterMap_concat moves move Move.published

variable {now : Timestamp} {moves : List Move} {state : Realtime}

/-- What holds after every run: the updates published so far are an interval apart, and so
are those that wait for a client. -/
theorem timely_of_run (run : Trace Step (start now) moves state) :
    state.Sound ∧ Timely (published moves) state ∧
      ∀ client, Timely (state.broadcaster.queues client) state := by
  refine run.invariant
    (fun moves state => state.Sound ∧ Timely (published moves) state ∧
      ∀ client, Timely (state.broadcaster.queues client) state)
    ⟨sound_start now, ⟨.nil, List.forall_mem_nil _⟩, fun _ => ⟨.nil, List.forall_mem_nil _⟩⟩ ?_
  rintro moves before move after ⟨sound, timely, waiting⟩ step
  have transition := transition_of_step sound step
  refine ⟨transition.sound, ?_, fun client => ?_⟩
  · rw [published_concat]
    exact timely.step transition
  · exact ((waiting client).step transition).sublist (transition.queues client)

/-- The publisher sends at most one update an interval: of those computed within a stretch
of time there is at most one more than it has intervals. -/
theorem published_rate (run : Trace Step (start now) moves state) {low high : Timestamp}
    (ordered : low ≤ high) :
    ((published moves).countP fun update =>
        low ≤ update.computedAt ∧ update.computedAt ≤ high : Int) ≤
      (high - low) / publishInterval + 1 := by
  have interval := publishInterval_pos
  have timely := (timely_of_run run).2.1
  rw [List.countP_eq_length_filter]
  set within := (published moves).filter fun update =>
    low ≤ update.computedAt ∧ update.computedAt ≤ high with isWithin
  have spaced : SpacedBy publishInterval (within.map FleetUpdate.computedAt) :=
    List.pairwise_map.mpr (timely.apart.sublist List.filter_sublist)
  by_cases none : within = []
  · rw [none, List.length_nil]
    have intervals : 0 ≤ (high - low) / publishInterval :=
      Int.ediv_nonneg (sub_nonneg.mpr ordered) interval.le
    push_cast
    linarith
  · have inside : ∀ time ∈ within.map FleetUpdate.computedAt, low ≤ time ∧ time ≤ high := by
      intro time isTime
      obtain ⟨update, isUpdate, rfl⟩ := List.mem_map.mp isTime
      exact of_decide_eq_true (List.mem_filter.mp isUpdate).2
    have span := spaced.nsmul_le_of_within (by simpa using none) inside
    have positive : 0 < within.length := List.length_pos_iff.mpr none
    rw [List.length_map, nsmul_eq_mul, Nat.cast_sub positive, Nat.cast_one] at span
    have intervals : (within.length : Int) - 1 ≤ (high - low) / publishInterval :=
      (Int.le_ediv_iff_mul_le interval).mpr (by linarith)
    linarith

/-- The summary of a fleet of one idle battery. -/
def oneIdleBattery : FleetSummaryResponse ℚ where
  totalDevices := 1
  onlineDevices := 1
  offlineDevices := 0
  averageSoc := 55
  totalAvailableEnergyKwh := 11 / 2
  chargingDevices := 0
  dischargingDevices := 0
  idleDevices := 1
  activeAlerts := 0
  criticalAlerts := 0

/-- An iteration that computes and publishes at this moment. -/
def iteration (time : Timestamp) : List Move :=
  [.wait time, .wake, .compute oneIdleBattery, .publish ⟨oneIdleBattery, time⟩ [0]]

/-- A client connects, and fetches none of this many updates, which come every second. -/
def unread (count : Nat) : List Move :=
  .subscribe 0 :: (List.range count).flatMap fun second => iteration (second * 1000000)

theorem exists_of_isSome {moves : List Move} (played : (play perform moves (start 0)).isSome) :
    ∃ state, Trace Step (start 0) moves state :=
  (Option.isSome_iff_exists.mp played).imp fun _ isState => trace_of_play perform isState

/-- Forty updates in thirty-nine seconds are as many as there can be. -/
theorem sample_published_rate :
    ((published (unread 40)).countP fun update =>
        0 ≤ update.computedAt ∧ update.computedAt ≤ 39000000 : Int) ≤
      (39000000 - 0) / publishInterval + 1 ∧
    (published (unread 40)).length = 40 ∧ (39000000 - 0) / publishInterval + 1 = 40 := by
  have played : (play perform (unread 40) (start 0)).isSome ∧
      (published (unread 40)).length = 40 ∧ (39000000 - 0) / publishInterval + 1 = 40 := by
    decide +kernel
  obtain ⟨state, run⟩ := exists_of_isSome played.1
  exact ⟨published_rate run (by decide), played.2⟩

/-! ### What a slow client loses -/

/-- What a publish does to the queue of a client: it is added at the end, and only of a
full queue is the oldest update lost, which by then is as many intervals old as the queue
has places. -/
structure Offered (update : FleetUpdate) (before after : List FleetUpdate) : Prop where
  bounded : before.length ≤ clientQueueMaxsize
  added : before.length < clientQueueMaxsize → after = before ++ [update]
  lost : before.length = clientQueueMaxsize →
    ∃ oldest rest, before = oldest :: rest ∧ after = rest ++ [update] ∧
      oldest.computedAt + clientQueueMaxsize * publishInterval ≤ update.computedAt

theorem offered_of_timely {state : Realtime} {update : FleetUpdate} {queue : List FleetUpdate}
    (bounded : queue.length ≤ clientQueueMaxsize) (timely : Timely queue state)
    (isEarliest : state.earliest = update.computedAt) :
    Offered update queue (pushDropOldest clientQueueMaxsize queue update) where
  bounded := bounded
  added room := by
    have none : queue.length + 1 - clientQueueMaxsize = 0 := by omega
    rw [pushDropOldest, none, List.drop_zero]
  lost full := by
    cases queue with
    | nil => exact absurd full (by decide)
    | cons oldest rest =>
        have one : (oldest :: rest).length + 1 - clientQueueMaxsize = 1 := by omega
        refine ⟨oldest, rest, rfl, by rw [pushDropOldest, one]; rfl, ?_⟩
        have apart : (oldest :: rest ++ [update]).Pairwise Apart := by
          refine List.pairwise_append.mpr ⟨timely.apart, List.pairwise_singleton .., ?_⟩
          intro waiting isWaiting next isNext
          rw [List.mem_singleton.mp isNext, Apart, ← isEarliest]
          exact timely.before waiting isWaiting
        have spaced : SpacedBy publishInterval
            (oldest.computedAt :: (rest ++ [update]).map FleetUpdate.computedAt) :=
          (List.pairwise_map (f := FleetUpdate.computedAt) (l := oldest :: rest ++ [update])).mpr
            apart
        have span := spaced.add_nsmul_le_getLast
        rw [List.length_map, List.length_append, List.length_singleton] at span
        rw [← full, List.length_cons, ← nsmul_eq_mul]
        refine span.trans (le_of_eq ?_)
        simp

/-- Whenever the publisher has computed an update, the publish succeeds, in whatever order
the subscribers come, and each of them is offered the update. -/
theorem publish_offers (run : Trace Step (start now) moves state) {update : FleetUpdate}
    (computed : state.publisher = .computed update) {order : List ClientId}
    (iterates : state.broadcaster.Iterates order) :
    ∃ after, state.perform (.publish update order) = some after ∧
      ∀ client ∈ state.broadcaster.subscribers,
        Offered update (state.broadcaster.queues client) (after.broadcaster.queues client) := by
  obtain ⟨sound, -, waiting⟩ := timely_of_run run
  have isEarliest : state.earliest = update.computedAt := by rw [earliest, computed]
  have performed : state.perform (.publish update order) =
      some (sleep { state with broadcaster := { state.broadcaster with
        queues := fun client =>
          if client ∈ state.broadcaster.subscribers then
            pushDropOldest clientQueueMaxsize (state.broadcaster.queues client) update
          else state.broadcaster.queues client } }) := by
    rw [perform, if_pos ⟨computed, iterates⟩, publish_of_sound sound update iterates]
  refine ⟨_, performed, fun client connected => ?_⟩
  change Offered _ _ (if _ then _ else _)
  rw [if_pos connected]
  exact offered_of_timely (sound.bounded client) (waiting client) isEarliest

/-- After thirty-two updates that the client has not fetched, the next one costs it the first. -/
theorem sample_publish_offers :
    ∃ state after : Realtime, ∃ oldest rest,
      state.perform (.publish ⟨oneIdleBattery, 32000000⟩ [0]) = some after ∧
      state.broadcaster.queues 0 = oldest :: rest ∧
      after.broadcaster.queues 0 = rest ++ [⟨oneIdleBattery, 32000000⟩] ∧
      oldest.computedAt + clientQueueMaxsize * publishInterval ≤ 32000000 := by
  have played : (play perform (unread 32 ++ [.wait 32000000, .wake, .compute oneIdleBattery])
      (start 0)).map (fun state => (state.publisher, state.broadcaster.subscribers,
        (state.broadcaster.queues 0).length)) =
          some (.computed ⟨oneIdleBattery, 32000000⟩, {0}, clientQueueMaxsize) := by
    decide +kernel
  obtain ⟨state, isState, reached⟩ := Option.map_eq_some_iff.mp played
  simp only [Prod.mk.injEq] at reached
  obtain ⟨computed, connected, full⟩ := reached
  have iterates : state.broadcaster.Iterates [0] := ⟨by decide, connected.symm⟩
  obtain ⟨after, performed, offered⟩ :=
    publish_offers (trace_of_play perform isState) computed iterates
  obtain ⟨oldest, rest, isQueue, lost, old⟩ := (offered 0 (by rw [connected]; decide)).lost full
  exact ⟨state, after, oldest, rest, performed, isQueue, lost, old⟩

/-! ### The clients of the process are clients of the broadcaster -/

/-- The ids of the queues that exist were given out. -/
def Fresh (state : Realtime) : Prop := ∀ client ∈ state.broadcaster.subscribers,
  client < state.connected

theorem subscribers_publish {ε : Type*} {event : ε} {order : List ClientId}
    {state after : Broadcaster ε} (published : state.publish event order = .ok after) :
    after.subscribers = state.subscribers := by
  induction order generalizing state with
  | nil =>
      obtain rfl := Except.ok.inj published
      rfl
  | cons first rest ih =>
      rw [Broadcaster.publish] at published
      split at published
      · cases published
      · have kept := ih published
        exact kept

/-- A step leaves the broadcaster alone, or is a step of it. -/
theorem broadcaster_of_step (fresh : before.Fresh) (step : before.Step move after) :
    after.Fresh ∧ ((move.toBroadcaster = none ∧ after.broadcaster = before.broadcaster) ∨
      ∃ call, move.toBroadcaster = some call ∧
        Broadcaster.Step before.broadcaster call after.broadcaster) := by
  unfold Step at step
  cases move with
  | wait later =>
      obtain ⟨-, done⟩ := Option.ite_none_right_eq_some.mp step
      obtain rfl := Option.some.inj done
      exact ⟨fresh, .inl ⟨rfl, rfl⟩⟩
  | wake =>
      simp only [perform] at step
      split at step
      · obtain ⟨-, done⟩ := Option.ite_none_right_eq_some.mp step
        split_ifs at done <;>
          (obtain rfl := Option.some.inj done; exact ⟨fresh, .inl ⟨rfl, rfl⟩⟩)
      · exact absurd step nofun
  | compute summary =>
      simp only [perform] at step
      split at step
      · obtain rfl := Option.some.inj step
        exact ⟨fresh, .inl ⟨rfl, rfl⟩⟩
      · exact absurd step nofun
  | publish update order =>
      simp only [perform] at step
      obtain ⟨⟨-, iterates⟩, done⟩ := Option.ite_none_right_eq_some.mp step
      split at done
      · rename_i published isPublished
        obtain rfl := Option.some.inj done
        have called : Broadcaster.Step before.broadcaster (.publish update order) published :=
          .publish iterates isPublished
        refine ⟨?_, .inr ⟨_, rfl, called⟩⟩
        intro client connected
        exact fresh client (subscribers_publish isPublished ▸ connected)
      · exact absurd done nofun
  | fail =>
      simp only [perform] at step
      split at step
      · exact absurd step nofun
      · obtain rfl := Option.some.inj step
        exact ⟨fresh, .inl ⟨rfl, rfl⟩⟩
  | subscribe client =>
      obtain ⟨rfl, done⟩ := Option.ite_none_right_eq_some.mp step
      obtain rfl := Option.some.inj done
      have unknown : before.connected ∉ before.broadcaster.subscribers :=
        fun known => (fresh _ known).false
      refine ⟨?_, .inr ⟨_, rfl, .subscribe unknown⟩⟩
      intro client connected
      rcases Finset.mem_insert.mp connected with rfl | already
      · exact Nat.lt_succ_self _
      · exact Nat.lt_succ_of_lt (fresh client already)
  | unsubscribe client =>
      obtain rfl := Option.some.inj step
      exact ⟨fun other connected => fresh other (Finset.mem_of_mem_erase connected),
        .inr ⟨_, rfl, .unsubscribe⟩⟩
  | get client update =>
      simp only [perform] at step
      split at step
      · rename_i oldest rest isOldest
        obtain ⟨⟨-, rfl⟩, done⟩ := Option.ite_none_right_eq_some.mp step
        obtain rfl := Option.some.inj done
        exact ⟨fresh, .inr ⟨_, rfl, .get isOldest⟩⟩
      · exact absurd step nofun

/-- What the moves of a run do to the broadcaster. -/
def calls (moves : List Move) : List (Broadcaster.Move FleetUpdate) :=
  moves.filterMap Move.toBroadcaster

theorem calls_concat (moves : List Move) (move : Move) :
    calls (moves ++ [move]) = calls moves ++ move.toBroadcaster.toList :=
  filterMap_concat moves move Move.toBroadcaster

/-- A run of the process is a run of its broadcaster. -/
theorem broadcaster_of_run (run : Trace Step (start now) moves state) :
    state.Fresh ∧ Trace Broadcaster.Step Broadcaster.start (calls moves) state.broadcaster := by
  refine run.invariant
    (fun moves state => state.Fresh ∧
      Trace Broadcaster.Step Broadcaster.start (calls moves) state.broadcaster)
    ⟨fun client connected => absurd connected (Finset.notMem_empty client), .nil _⟩ ?_
  rintro moves before move after ⟨fresh, before_run⟩ step
  obtain ⟨stillFresh, ⟨silent, same⟩ | ⟨call, called, one⟩⟩ := broadcaster_of_step fresh step
  · rw [calls_concat, silent, same, Option.toList_none, List.append_nil]
    exact ⟨stillFresh, before_run⟩
  · rw [calls_concat, called]
    exact ⟨stillFresh, .snoc before_run one⟩

/-- Whenever an update was published, the oldest one that waited for the client was less
than a full queue of intervals old. -/
def KeepsUp (now : Timestamp) (client : ClientId) (moves : List Move) : Prop :=
  ∀ early update order late before, moves = early ++ .publish update order :: late →
    Trace Step (start now) early before →
      ∀ oldest ∈ (before.broadcaster.queues client).head?,
        update.computedAt < oldest.computedAt + clientQueueMaxsize * publishInterval

theorem KeepsUp.of_concat {client : ClientId} {last : Move}
    (keepsUp : KeepsUp now client (moves ++ [last])) : KeepsUp now client moves := by
  intro early update order late before split
  refine keepsUp early update order (late ++ [last]) before ?_
  rw [split, List.append_assoc, List.cons_append]

/-- One step after which a client still has, or has had, all that was published for it. -/
theorem accounted_of_step {state after : Broadcaster FleetUpdate}
    {call : Broadcaster.Move FleetUpdate} {client : ClientId}
    {received published : List FleetUpdate}
    (step : Broadcaster.Step state call after) (connected : client ∈ after.subscribers)
    (accounted : client ∈ state.subscribers → received ++ state.queues client = published)
    (added : ∀ update order, call = .publish update order → client ∈ state.subscribers →
      after.queues client = state.queues client ++ [update]) :
    receivedAfter client received call ++ after.queues client =
      publishedAfter client published call := by
  cases step with
  | @subscribe joining fresh =>
      by_cases same : joining = client
      · subst same
        rw [receivedAfter, publishedAfter, if_pos rfl, if_pos rfl]
        exact Function.update_self ..
      · rw [receivedAfter, publishedAfter, if_neg same, if_neg same]
        have already := Finset.mem_of_mem_insert_of_ne connected (Ne.symm same)
        rw [← accounted already]
        exact congrArg _ (Function.update_of_ne (Ne.symm same) ..)
  | unsubscribe => exact accounted (Finset.mem_of_mem_erase connected)
  | @publish _ update order iterates isPublished =>
      have already : client ∈ state.subscribers := subscribers_publish isPublished ▸ connected
      rw [receivedAfter, publishedAfter, added update order rfl already, ← List.append_assoc,
        accounted already]
  | @get getting update rest oldest =>
      have queue := getNowait_eq_ok oldest
      by_cases same : getting = client
      · subst same
        rw [receivedAfter, if_pos rfl, publishedAfter, ← accounted connected, queue]
        change received ++ [update] ++ Function.update state.queues getting rest getting = _
        rw [Function.update_self, List.append_assoc, List.singleton_append]
      · rw [receivedAfter, if_neg same, publishedAfter, ← accounted connected]
        exact congrArg _ (Function.update_of_ne (Ne.symm same) ..)

/-- A client that keeps up loses nothing: what it received and what waits for it is all
that was published since it connected. -/
theorem keeps_up_loses_nothing {client : ClientId} (run : Trace Step (start now) moves state)
    (keepsUp : KeepsUp now client moves) (connected : client ∈ state.broadcaster.subscribers) :
    receivedSince client (calls moves) ++ state.broadcaster.queues client =
      publishedSince client (calls moves) := by
  induction run with
  | nil => exact absurd connected (Finset.notMem_empty client)
  | @snoc before after moves move run step ih =>
      obtain ⟨-, ⟨silent, same⟩ | ⟨call, called, one⟩⟩ :=
        broadcaster_of_step (broadcaster_of_run run).1 step
      · rw [calls_concat, silent, Option.toList_none, List.append_nil, same]
        exact ih keepsUp.of_concat (same ▸ connected)
      · rw [calls_concat, called, Option.toList_some, receivedSince_concat,
          publishedSince_concat]
        refine accounted_of_step one connected (ih keepsUp.of_concat) ?_
        rintro update order rfl already
        have isPublish : move = .publish update order := by
          cases move <;> simp_all [Move.toBroadcaster]
        subst isPublish
        obtain ⟨⟨computed, iterates⟩, -⟩ := Option.ite_none_right_eq_some.mp step
        obtain ⟨found, performed, offered⟩ := publish_offers run computed iterates
        obtain rfl : found = after := Option.some.inj (performed.symm.trans step)
        have young := keepsUp moves update order [] before rfl run
        have offer := offered client already
        rcases offer.bounded.lt_or_eq with room | full
        · exact offer.added room
        · obtain ⟨oldest, rest, isFirst, -, old⟩ := offer.lost full
          have recent := young oldest (by rw [isFirst]; rfl)
          exact absurd old (not_le.mpr recent)

/-- Forty updates, of which the client fetches each after the next one has come. -/
def fetchLate : List Move :=
  unread 1 ++ (List.range 39).flatMap fun second =>
    iteration ((second + 1) * 1000000) ++ [.get 0 ⟨oneIdleBattery, second * 1000000⟩]

/-- The update that is published at this position, and the one that the client waits for the
longest by then. -/
def publishedAt (moves : List Move) (position : Nat) : Option (FleetUpdate × FleetUpdate) :=
  match moves[position]?.bind Move.published, play perform (moves.take position) (start 0) with
  | some update, some before =>
      (before.broadcaster.queues 0).head?.map fun oldest => (update, oldest)
  | _, _ => none

theorem keepsUp_fetchLate : KeepsUp 0 0 fetchLate := by
  intro early update order late before split run oldest isOldest
  have isEarly : early = fetchLate.take early.length := by rw [split, List.take_left]
  have isPublish : fetchLate[early.length]? = some (.publish update order) := by
    rw [split, List.getElem?_append_right le_rfl, Nat.sub_self]
    rfl
  have inside : early.length < 200 := (List.getElem?_eq_some_iff.mp isPublish).1
  have young : ∀ position < 200, ∀ waiting ∈ publishedAt fetchLate position,
      waiting.1.computedAt < waiting.2.computedAt + clientQueueMaxsize * publishInterval := by
    decide +kernel
  refine young early.length inside (update, oldest) ?_
  rw [publishedAt, isPublish, ← isEarly, play_of_trace perform run]
  exact Option.mem_map.mpr ⟨oldest, isOldest, rfl⟩

/-- More updates than the queue has places, and none is lost. -/
theorem sample_keeps_up_loses_nothing :
    ∃ state : Realtime, (receivedSince 0 (calls fetchLate)).length = 39 ∧
      state.broadcaster.queues 0 = [⟨oneIdleBattery, 39000000⟩] ∧
      receivedSince 0 (calls fetchLate) ++ state.broadcaster.queues 0 =
        publishedSince 0 (calls fetchLate) := by
  have played : (play perform fetchLate (start 0)).map (fun state =>
      (state.broadcaster.subscribers, state.broadcaster.queues 0)) =
        some ({0}, [⟨oneIdleBattery, 39000000⟩]) ∧
      (receivedSince 0 (calls fetchLate)).length = 39 := by
    decide +kernel
  obtain ⟨played, received⟩ := played
  obtain ⟨state, isState, reached⟩ := Option.map_eq_some_iff.mp played
  obtain ⟨connected, waiting⟩ := Prod.mk.inj reached
  exact ⟨state, received, waiting, keeps_up_loses_nothing (trace_of_play perform isState)
    keepsUp_fetchLate (by rw [connected]; decide)⟩

end Realtime

end VoltStream.Backend
