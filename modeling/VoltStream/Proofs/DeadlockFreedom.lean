/-
Module: VoltStream.Proofs.DeadlockFreedom
Purpose: The backend's writers cannot deadlock: all their transactions lock rows
  in one order, as long as two ingestion requests bring the same ids or no
  common one.
Trusted boundary: none
Main exports: Resource.rank, placeOf, ranked_transactions, writers_never_deadlock
-/
import VoltStream.Backend.Locks
import VoltStream.Proofs.DetectorEffect
import VoltStream.Proofs.RequestEffect

namespace VoltStream.Backend

open Relational

/-! ### The order of the rows -/

/-- The order of the rules in one turn of the rule pass. -/
def AlertType.turn : AlertType → Nat
  | .lowSoc => 0
  | .highTemperature => 1
  | .voltageAnomaly => 2
  | .rapidDischarge => 3
  | .deviceOffline => 4

namespace Resource

/-- Telemetry rows come first, then current-state rows, then the rules' alerts,
then offline alerts. -/
def phase : Resource → Nat
  | .telemetry _ => 0
  | .currentState _ => 1
  | .alert _ .deviceOffline => 3
  | .alert _ _ => 2

/-- Within a phase the rows go by battery, the telemetry rows of all batteries
together. -/
def battery : Resource → BatteryId
  | .telemetry _ => ""
  | .currentState batteryId => batteryId
  | .alert batteryId _ => batteryId

/-- Telemetry rows go by their place in the requests, the alerts of one battery
by rule. -/
def turn (place : Uuid → Nat) : Resource → Nat
  | .telemetry eventId => place eventId
  | .currentState _ => 0
  | .alert _ alertType => alertType.turn

/-- The order in which every writer locks rows. -/
def rank (place : Uuid → Nat) (resource : Resource) : Nat ×ₗ BatteryId ×ₗ Nat :=
  toLex (resource.phase, toLex (resource.battery, resource.turn place))

variable {place : Uuid → Nat} {first second : Resource}

theorem rank_lt_of_phase (before : first.phase < second.phase) :
    first.rank place < second.rank place :=
  Prod.Lex.toLex_lt_toLex.mpr (Or.inl before)

theorem rank_lt_of_battery (same : first.phase = second.phase)
    (before : first.battery < second.battery) : first.rank place < second.rank place :=
  Prod.Lex.toLex_lt_toLex.mpr (Or.inr ⟨same, Prod.Lex.toLex_lt_toLex.mpr (Or.inl before)⟩)

theorem rank_lt_of_turn (same : first.phase = second.phase)
    (alike : first.battery = second.battery) (before : first.turn place < second.turn place) :
    first.rank place < second.rank place :=
  Prod.Lex.toLex_lt_toLex.mpr
    (Or.inr ⟨same, Prod.Lex.toLex_lt_toLex.mpr (Or.inr ⟨alike, before⟩)⟩)

theorem phase_rule (batteryId : BatteryId) {alertType : AlertType}
    (ruled : alertType ≠ .deviceOffline) : (Resource.alert batteryId alertType).phase = 2 := by
  cases alertType with
  | deviceOffline => exact absurd rfl ruled
  | lowSoc => rfl
  | highTemperature => rfl
  | rapidDischarge => rfl
  | voltageAnomaly => rfl

end Resource

/-! ### The place of an id -/

theorem firstOccurrences_nodup (ids : List Uuid) : (firstOccurrences ids).Nodup :=
  List.nodup_reverse.mpr (List.nodup_dedup _)

theorem mem_firstOccurrences {ids : List Uuid} {eventId : Uuid} :
    eventId ∈ firstOccurrences ids ↔ eventId ∈ ids := by
  simp [firstOccurrences]

theorem pairwise_idxOf {ids : List Uuid} (once : ids.Nodup) :
    ids.Pairwise fun first second => ids.idxOf first < ids.idxOf second := by
  rw [List.pairwise_iff_getElem]
  intro one two inOne inTwo before
  rwa [once.idxOf_getElem, once.idxOf_getElem]

open Classical in
/-- The place of an id in a request that brings it. -/
noncomputable def placeOf {ι : Type*} (lists : ι → List Uuid) (eventId : Uuid) : Nat :=
  if brought : ∃ session, eventId ∈ lists session then
    (firstOccurrences (lists brought.choose)).idxOf eventId
  else 0

theorem placeOf_eq {ι : Type*} {lists : ι → List Uuid}
    (apart : ∀ one two, lists one = lists two ∨ (lists one).Disjoint (lists two))
    {session : ι} {eventId : Uuid} (brings : eventId ∈ lists session) :
    placeOf lists eventId = (firstOccurrences (lists session)).idxOf eventId := by
  have brought : ∃ session, eventId ∈ lists session := ⟨session, brings⟩
  rw [placeOf, dif_pos brought]
  rcases apart brought.choose session with same | disjoint
  · rw [same]
  · exact absurd brings (disjoint brought.choose_spec)

/-! ### Sorted batteries -/

/-- The reduction is sorted by battery, without repeats. -/
theorem sortedLatest_pairwise (events : List TelemetryEvent) :
    (sortedLatest events).Pairwise fun first second => first.batteryId < second.batteryId := by
  let byBattery : TelemetryEvent → TelemetryEvent → Prop :=
    fun first second => first.batteryId ≤ second.batteryId
  have total : Std.Total byBattery :=
    ⟨fun first second => le_total first.batteryId second.batteryId⟩
  have trans : IsTrans TelemetryEvent byBattery := ⟨fun _ _ _ one two => le_trans one two⟩
  have sorted : (sortedLatest events).Pairwise byBattery := List.pairwise_insertionSort byBattery _
  have keys : ((sortedLatest events).map TelemetryEvent.batteryId).Nodup :=
    ((List.perm_insertionSort byBattery _).map _).nodup_iff.mpr
      (latestPerBattery events).primaryKey
  exact (sorted.and (List.pairwise_map.mp keys)).imp fun both => lt_of_le_of_ne both.1 both.2

theorem staleIds_pairwise (settings : Settings) (now : Timestamp)
    (currentState : Table BatteryCurrentState BatteryCurrentState.batteryId) :
    (staleIds settings now currentState).Pairwise (· < ·) := by
  have sorted : (staleIds settings now currentState).Pairwise (· ≤ ·) :=
    List.pairwise_insertionSort _ _
  exact (sorted.and (staleIds_nodup settings now currentState)).imp fun both =>
    lt_of_le_of_ne both.1 both.2

/-! ### Every transaction keeps to the order -/

section Demands

variable {place : Uuid → Nat}

theorem telemetryDemands_phase {ids : List Uuid} :
    ∀ demand ∈ telemetryDemands ids, demand.resource.phase = 0 := by
  intro demand wanted
  obtain ⟨eventId, -, rfl⟩ := List.mem_map.mp wanted
  rfl

theorem currentStateDemands_phase {latest : List TelemetryEvent} :
    ∀ demand ∈ currentStateDemands latest, demand.resource.phase = 1 := by
  intro demand wanted
  obtain ⟨event, -, rfl⟩ := List.mem_map.mp wanted
  rfl

theorem ranked_telemetryDemands {ids : List Uuid}
    (placed : ∀ eventId ∈ ids, place eventId = (firstOccurrences ids).idxOf eventId) :
    Ranked (Resource.rank place) (telemetryDemands ids) := by
  apply List.pairwise_map.mpr
  apply (pairwise_idxOf (firstOccurrences_nodup ids)).imp_of_mem
  intro first second inFirst inSecond before
  refine Resource.rank_lt_of_turn (Eq.refl 0) (Eq.refl "") ?_
  change place first < place second
  rwa [placed first (mem_firstOccurrences.mp inFirst),
    placed second (mem_firstOccurrences.mp inSecond)]

/-- A statement or a pass that goes through rows of one phase by battery. -/
theorem ranked_by_battery {α : Type*} {items : List α} {batteryOf : α → BatteryId}
    {demand : α → Demand Resource}
    (sorted : items.Pairwise fun first second => batteryOf first < batteryOf second)
    (phase : Nat) (inPhase : ∀ item, (demand item).resource.phase = phase)
    (ofBattery : ∀ item, (demand item).resource.battery = batteryOf item) :
    Ranked (Resource.rank place) (items.map demand) := by
  apply List.pairwise_map.mpr
  apply sorted.imp
  intro first second before
  apply Resource.rank_lt_of_battery
  · rw [inPhase, inPhase]
  · rwa [ofBattery, ofBattery]

theorem ranked_currentStateDemands (events : List TelemetryEvent) :
    Ranked (Resource.rank place) (currentStateDemands (sortedLatest events)) :=
  ranked_by_battery (sortedLatest_pairwise events) 1 (fun _ => rfl) fun _ => rfl

/-- The rule calls of one event go by rule. -/
theorem evaluateRulesForEvent_pairwise (settings : Settings) (telemetry : List Telemetry)
    (batteries : Table Battery Battery.batteryId) (event : TelemetryEvent) :
    (evaluateRulesForEvent settings telemetry batteries event).Pairwise fun first second =>
      first.key.2.turn < second.key.2.turn := by
  unfold evaluateRulesForEvent
  split
  · exact List.Pairwise.nil
  · rw [evaluateRules_eq, List.pairwise_flatMap]
    constructor
    · intro alertType _
      cases ruleCall settings telemetry _ event alertType <;> simp
    · have turns : [AlertType.lowSoc, .highTemperature, .voltageAnomaly, .rapidDischarge].Pairwise
          fun first second => first.turn < second.turn := by decide
      apply turns.imp
      intro one two before first isFirst second isSecond
      rwa [ruleCall_key (Option.mem_toList.mp isFirst),
        ruleCall_key (Option.mem_toList.mp isSecond)]

theorem AlertCall.demand_phase {call : AlertCall} (ruled : call.key.2 ≠ .deviceOffline) :
    call.demand.resource.phase = 2 :=
  Resource.phase_rule _ ruled

/-- The rule pass over all batteries, then the pass that resolves offline alerts. -/
theorem ranked_rulePassDemands (settings : Settings) (telemetry : TelemetryEvent → List Telemetry)
    (batteries : Table Battery Battery.batteryId) (events : List TelemetryEvent) :
    Ranked (Resource.rank place)
      (rulePassDemands settings telemetry batteries (sortedLatest events)) := by
  rw [rulePassDemands, List.map_append, Ranked, List.pairwise_append]
  refine ⟨List.pairwise_map.mpr ?_, ?_, ?_⟩
  · rw [List.pairwise_flatMap]
    constructor
    · intro event _
      apply (evaluateRulesForEvent_pairwise settings _ batteries event).imp_of_mem
      intro first second isFirst isSecond before
      have one := evaluateRulesForEvent_key isFirst
      have two := evaluateRulesForEvent_key isSecond
      apply Resource.rank_lt_of_turn
      · rw [AlertCall.demand_phase one.2, AlertCall.demand_phase two.2]
      · exact one.1.trans two.1.symm
      · exact before
    · apply (sortedLatest_pairwise events).imp
      intro one two before first isFirst second isSecond
      have firstKey := evaluateRulesForEvent_key isFirst
      have secondKey := evaluateRulesForEvent_key isSecond
      apply Resource.rank_lt_of_battery
      · rw [AlertCall.demand_phase firstKey.2, AlertCall.demand_phase secondKey.2]
      · change first.key.1 < second.key.1
        rwa [firstKey.1, secondKey.1]
  · rw [List.map_map]
    exact ranked_by_battery (sortedLatest_pairwise events) 3 (fun _ => rfl) fun _ => rfl
  · intro first isFirst second isSecond
    obtain ⟨call, isRule, rfl⟩ := List.mem_map.mp isFirst
    obtain ⟨event, -, made⟩ := List.mem_flatMap.mp isRule
    obtain ⟨other, isOffline, rfl⟩ := List.mem_map.mp isSecond
    obtain ⟨reported, -, rfl⟩ := List.mem_map.mp isOffline
    apply Resource.rank_lt_of_phase
    rw [AlertCall.demand_phase (evaluateRulesForEvent_key made).2]
    exact Nat.lt_succ_self 2

theorem rulePassDemands_phase {settings : Settings} {telemetry : TelemetryEvent → List Telemetry}
    {batteries : Table Battery Battery.batteryId} {latest : List TelemetryEvent} :
    ∀ demand ∈ rulePassDemands settings telemetry batteries latest,
      2 ≤ demand.resource.phase := by
  intro demand wanted
  obtain ⟨call, made, rfl⟩ := List.mem_map.mp wanted
  rcases List.mem_append.mp made with isRule | isOffline
  · obtain ⟨event, -, made⟩ := List.mem_flatMap.mp isRule
    exact (AlertCall.demand_phase (evaluateRulesForEvent_key made).2).ge
  · obtain ⟨event, -, rfl⟩ := List.mem_map.mp isOffline
    exact Nat.le_succ 2

theorem ranked_append_of_phase {first second : List (Demand Resource)}
    (one : Ranked (Resource.rank place) first) (two : Ranked (Resource.rank place) second)
    (apart : ∀ earlier ∈ first, ∀ later ∈ second,
      earlier.resource.phase < later.resource.phase) :
    Ranked (Resource.rank place) (first ++ second) :=
  List.pairwise_append.mpr
    ⟨one, two, fun earlier isEarlier later isLater =>
      Resource.rank_lt_of_phase (apart earlier isEarlier later isLater)⟩

/-- The statements of an ingestion up to the mid-request commit. -/
theorem ranked_storing {ids : List Uuid}
    (placed : ∀ eventId ∈ ids, place eventId = (firstOccurrences ids).idxOf eventId)
    (events : List TelemetryEvent) :
    Ranked (Resource.rank place)
      (telemetryDemands ids ++ currentStateDemands (sortedLatest events)) := by
  apply ranked_append_of_phase (ranked_telemetryDemands placed) (ranked_currentStateDemands events)
  intro earlier isEarlier later isLater
  rw [telemetryDemands_phase earlier isEarlier, currentStateDemands_phase later isLater]
  exact Nat.zero_lt_one

theorem ranked_transactions (settings : Settings)
    (batteries : Table Battery Battery.batteryId) (writer : Writer)
    (placed : ∀ eventId ∈ writer.eventIds,
      place eventId = (firstOccurrences writer.eventIds).idxOf eventId) :
    ∀ transaction ∈ writer.transactions settings batteries,
      Ranked (Resource.rank place) transaction := by
  cases writer with
  | single event created telemetry =>
      cases created with
      | true =>
          refine List.forall_mem_singleton.mpr ?_
          apply ranked_append_of_phase (ranked_storing placed [event])
            (ranked_rulePassDemands settings telemetry batteries [event])
          intro earlier isEarlier later isLater
          have after := rulePassDemands_phase later isLater
          rcases List.mem_append.mp isEarlier with stored | upserted
          · have before := telemetryDemands_phase earlier stored
            omega
          · have before := currentStateDemands_phase earlier upserted
            omega
      | false => exact List.forall_mem_singleton.mpr (ranked_telemetryDemands placed)
  | batch events accepted telemetry =>
      refine List.forall_mem_cons.mpr ⟨ranked_storing placed accepted, ?_⟩
      exact List.forall_mem_singleton.mpr
        (ranked_rulePassDemands settings telemetry batteries accepted)
  | detector now currentState =>
      have sorted := staleIds_pairwise settings now currentState
      refine List.forall_mem_cons.mpr ⟨?_, List.forall_mem_singleton.mpr ?_⟩
      · exact ranked_by_battery sorted 1 (fun _ => rfl) fun _ => rfl
      · exact ranked_by_battery sorted 3 (fun _ => rfl) fun _ => rfl
  | manual batteryId alertType =>
      exact List.forall_mem_singleton.mpr (List.pairwise_singleton _ _)
  | idle => exact fun _ impossible => absurd impossible List.not_mem_nil

end Demands

/-! ### No deadlock -/

/-- In every reachable state of any set of concurrent writers the wait-for
relation has no cycle, if two requests bring the same ids or no common one. -/
theorem writers_never_deadlock {ι : Type*} [DecidableEq ι] (settings : Settings)
    (batteries : Table Battery Battery.batteryId) (writers : ι → Writer)
    (apart : ∀ one two, (writers one).eventIds = (writers two).eventIds ∨
      (writers one).eventIds.Disjoint (writers two).eventIds)
    {schedule : List ι} {lockers : ι → Locker Resource}
    (run : Trace LockStep
      (fun session => Locker.start ((writers session).transactions settings batteries))
      schedule lockers) (session : ι) :
    ¬ Relation.TransGen (WaitsFor (Holds lockers) (Wants lockers)) session session := by
  apply acyclic_of_trace (Resource.rank (placeOf fun session => (writers session).eventIds)) _ run
  intro session
  apply ranked_transactions
  intro eventId brings
  exact placeOf_eq apart brings

/-- A batch and its retry. -/
def sampleRetry (session : Nat) : Writer :=
  let events := [sampleEvent 1 0 50, sampleEvent 2 5 40]
  match session with
  | 0 => .batch events events fun _ => []
  | 1 => .batch events [] fun _ => []
  | _ => .idle

/-- The retry waits for the first row of the batch, in no circle. -/
theorem sample_writers_never_deadlock :
    ∃ lockers, Trace LockStep
        (fun session => Locker.start
          ((sampleRetry session).transactions Settings.default sampleBatteries)) [0] lockers ∧
      WaitsFor (Holds lockers) (Wants lockers) 1 0 ∧
      ¬ Relation.TransGen (WaitsFor (Holds lockers) (Wants lockers)) 1 1 := by
  have step : LockStep (fun session => Locker.start
      ((sampleRetry session).transactions Settings.default sampleBatteries)) 0 _ :=
    LockStep.take rfl fun other _ held => List.not_mem_nil held
  have run := Trace.snoc (.nil _) step
  refine ⟨_, run, ⟨Nat.one_ne_zero, .telemetry 1, ?_, ?_⟩,
    writers_never_deadlock Settings.default sampleBatteries sampleRetry ?_ run 1⟩
  · exact ⟨_, _, _, rfl, rfl, by decide⟩
  · exact List.mem_cons_self ..
  · rintro (_ | _ | one) (_ | _ | two) <;>
      simp [sampleRetry, Writer.eventIds, List.disjoint_nil_right]

end VoltStream.Backend
