/-
Module: VoltStream.Proofs.FleetCounts
Purpose: When the counts of a fleet summary are those of a possible fleet, whatever
  commits between its statements.
Trusted boundary: none
Main exports: FleetSummaryResponse.Possible, onlineDevices_eq, possible_iff
-/
import VoltStream.Backend.FleetSummary

namespace VoltStream.Backend

open Relational

/-- There is a fleet with these counts. -/
structure FleetSummaryResponse.Possible (summary : FleetSummaryResponse ℚ) : Prop where
  online : 0 ≤ summary.onlineDevices ∧ summary.onlineDevices ≤ summary.totalDevices
  offline : 0 ≤ summary.offlineDevices ∧ summary.offlineDevices ≤ summary.totalDevices
  everyone : summary.onlineDevices + summary.offlineDevices = summary.totalDevices
  active : summary.chargingDevices + summary.dischargingDevices + summary.idleDevices ≤
    summary.onlineDevices

/-! ### What the counts count -/

/-- Every row that is not `OFFLINE` has at most one of the other statuses. -/
theorem count_statuses_le (statuses : List BatteryStatus) :
    statuses.count (.reported .charging) + statuses.count (.reported .discharging) +
        statuses.count (.reported .idle) ≤ statuses.length - statuses.count .offline := by
  induction statuses with
  | nil => exact Nat.le_refl _
  | cons status rest ih =>
      have offline : rest.count .offline ≤ rest.length := List.count_le_length
      simp only [List.count_cons, List.length_cons]
      cases status with
      | reported reported => cases reported <;> simp <;> omega
      | offline => simp; omega

/-- Without the rows that are `OFFLINE`, the others are left. -/
theorem length_sub_count_offline (statuses : List BatteryStatus) :
    statuses.length - statuses.count .offline =
      statuses.countP fun status => status ≠ .offline := by
  induction statuses with
  | nil => rfl
  | cons status rest ih =>
      have offline : rest.count .offline ≤ rest.length := List.count_le_length
      simp only [List.count_cons, List.countP_cons, List.length_cons, ← ih]
      cases status with
      | reported reported => simp; omega
      | offline => simp

theorem Database.registeredIds_nodup (db : Database) : db.registeredIds.Nodup :=
  db.batteries.primaryKey

theorem isOnline_iff {db : Database} {batteryId : BatteryId} :
    db.isOnline batteryId = true ↔
      ∃ state ∈ db.batteryCurrentState.rows, state.batteryId = batteryId ∧
        state.status ≠ .offline := by
  simp only [Database.isOnline, Option.any_eq_true, decide_eq_true_eq, Database.currentState,
    Table.lookup_some_iff, and_assoc]

theorem mem_registeredIds_iff {db : Database} {batteryId : BatteryId} :
    batteryId ∈ db.registeredIds ↔ (db.batteries.lookup batteryId).isSome = true := by
  simp only [Database.registeredIds, List.mem_map, Option.isSome_iff_exists,
    Table.lookup_some_iff]

/-- The current-state rows that count as online are those of the registered batteries that
are online. -/
theorem onlineDevices_eq (db : Database) :
    (fleetStateRow db).knownStateDevices - (fleetStateRow db).offlineStatusDevices =
      (db.registeredIds.filter db.isOnline).length := by
  have joined : (fleetStateRow db).knownStateDevices - (fleetStateRow db).offlineStatusDevices =
      (db.batteryCurrentState.rows.filter fun state =>
        (db.batteries.lookup state.batteryId).isSome ∧ state.status ≠ .offline).length := by
    have statuses : (fleetStateRow db).knownStateDevices =
        ((joinedState db).map fun row => row.1.status).length := (List.length_map _).symm
    rw [statuses]
    refine (length_sub_count_offline _).trans ?_
    rw [List.countP_map, joinedState, List.countP_filterMap, ← List.countP_eq_length_filter]
    refine List.countP_congr fun state isState => ?_
    cases db.batteries.lookup state.batteryId <;> simp
  have ids : ((db.batteryCurrentState.rows.filter fun state =>
      (db.batteries.lookup state.batteryId).isSome ∧ state.status ≠ .offline).map
        BatteryCurrentState.batteryId).Perm (db.registeredIds.filter db.isOnline) := by
    refine (List.perm_ext_iff_of_nodup ?_ ?_).mpr fun batteryId => ?_
    · exact (List.filter_sublist.map _).nodup db.batteryCurrentState.primaryKey
    · exact List.Nodup.filter _ db.batteries.primaryKey
    · simp only [List.mem_map, List.mem_filter, isOnline_iff, mem_registeredIds_iff,
        decide_eq_true_eq]
      constructor
      · rintro ⟨state, ⟨isState, registered, online⟩, rfl⟩
        exact ⟨registered, state, isState, rfl, online⟩
      · rintro ⟨registered, state, isState, rfl, online⟩
        exact ⟨state, ⟨isState, registered, online⟩, rfl⟩
  rw [joined, ← ids.length_eq, List.length_map]

/-! ### Registrations between the statements -/

/-- Where the first list is part of the second, what one picks of the second is what one
picks of the first and what one picks of the rest. -/
theorem length_filter_of_subset {α : Type*} [DecidableEq α] {first second : List α}
    (distinct : first.Nodup) (distinctSecond : second.Nodup) (part : first ⊆ second)
    (picks : α → Bool) :
    (second.filter picks).length =
      (first.filter picks).length +
        (second.filter fun item => item ∉ first ∧ picks item = true).length := by
  have split : (second.filter picks).Perm
      (first.filter picks ++ second.filter fun item => item ∉ first ∧ picks item = true) := by
    refine (List.perm_ext_iff_of_nodup (distinctSecond.filter _) ?_).mpr fun item => ?_
    · refine (distinct.filter _).append (distinctSecond.filter _) fun item one two => ?_
      rw [List.mem_filter, decide_eq_true_eq] at two
      exact two.2.1 (List.mem_of_mem_filter one)
    · simp only [List.mem_append, List.mem_filter, decide_eq_true_eq]
      constructor
      · rintro ⟨isSecond, picked⟩
        by_cases isFirst : item ∈ first
        · exact .inl ⟨isFirst, picked⟩
        · exact .inr ⟨isSecond, isFirst, picked⟩
      · rintro (⟨isFirst, picked⟩ | ⟨isSecond, -, picked⟩)
        · exact ⟨part isFirst, picked⟩
        · exact ⟨isSecond, picked⟩
  rw [split.length_eq, List.length_append]

/-- The counts are possible exactly if no more batteries are online than registered. -/
theorem possible_iff_online_le (first second third : Database) :
    (getFleetSummary first second third).Possible ↔
      (second.registeredIds.filter second.isOnline).length ≤ first.registeredIds.length := by
  have fewer : (fleetStateRow second).offlineStatusDevices ≤
      (fleetStateRow second).knownStateDevices :=
    List.count_le_length.trans_eq (List.length_map _)
  have online : (getFleetSummary first second third).onlineDevices =
      ((second.registeredIds.filter second.isOnline).length : Int) := by
    rw [← onlineDevices_eq, Nat.cast_sub fewer]
    rfl
  have total : (getFleetSummary first second third).totalDevices =
      (first.registeredIds.length : Int) := by
    rw [Database.registeredIds, List.length_map]
    rfl
  have offline : (getFleetSummary first second third).offlineDevices =
      (getFleetSummary first second third).totalDevices -
        (getFleetSummary first second third).onlineDevices := rfl
  have statuses := count_statuses_le ((joinedState second).map fun row => row.1.status)
  rw [List.length_map] at statuses
  have active : (getFleetSummary first second third).chargingDevices +
      (getFleetSummary first second third).dischargingDevices +
        (getFleetSummary first second third).idleDevices ≤
      (getFleetSummary first second third).onlineDevices := by
    have counts : ((fleetStateRow second).chargingDevices +
        (fleetStateRow second).dischargingDevices + (fleetStateRow second).idleDevices : Int) ≤
        ((fleetStateRow second).knownStateDevices -
          (fleetStateRow second).offlineStatusDevices : Nat) := by
      exact_mod_cast statuses
    rwa [Nat.cast_sub fewer] at counts
  constructor
  · intro possible
    have most := possible.online.2
    rw [online, total] at most
    exact_mod_cast most
  · intro most
    have atMost : (getFleetSummary first second third).onlineDevices ≤
        (getFleetSummary first second third).totalDevices := by
      rw [online, total]
      exact_mod_cast most
    have atLeast : 0 ≤ (getFleetSummary first second third).onlineDevices := by
      rw [online]
      exact Int.natCast_nonneg _
    exact ⟨⟨atLeast, atMost⟩, by omega, by omega, active⟩

/-- For every database and all transactions that commit between the statements: the
summary is that of a possible fleet exactly if, of the batteries registered between the
first statement and the second, no more are online at the second than there are batteries
registered at the first and not online at the second. -/
theorem possible_iff (db : Database) (between after : List (List Write)) :
    let second := db.commitAll between
    (getFleetSummary db second (second.commitAll after)).Possible ↔
      (second.registeredIds.filter fun batteryId =>
          batteryId ∉ db.registeredIds ∧ second.isOnline batteryId = true).length ≤
        (db.registeredIds.filter fun batteryId => !second.isOnline batteryId).length := by
  intro second
  have divided := length_filter_of_subset db.registeredIds_nodup second.registeredIds_nodup
    (db.registeredIds_commitAll between) second.isOnline
  rw [possible_iff_online_le, divided, db.registeredIds.length_eq_length_filter_add
    second.isOnline]
  omega

/-- A battery is registered, and then reports. -/
def newcomer : List (List Write) :=
  [sampleBatteries.rows.map .register, [.storeTelemetry [sampleEvent 1 0 50]]]

/-- Between the first two statements over an empty fleet, it makes one battery online of
none, and so -1 offline. -/
theorem newcomer_breaks_summary :
    ¬(getFleetSummary (.registered .empty) ((Database.registered .empty).commitAll newcomer)
      (((Database.registered .empty).commitAll newcomer).commitAll [])).Possible := by
  intro possible
  have offline : (getFleetSummary (.registered .empty)
      ((Database.registered .empty).commitAll newcomer)
      (((Database.registered .empty).commitAll newcomer).commitAll [])).offlineDevices = -1 := by
    decide +kernel
  exact absurd (offline ▸ possible.offline.1) (by decide)

end VoltStream.Backend
