/-
Module: VoltStream.Proofs.IncidentHistory
Purpose: The alert rows of a battery and a pointwise rule are its incident
  history: one row for each maximal run of readings on which the rule's
  condition holds.
Trusted boundary: none
Main exports: raisedBy, Alert.Records, Database.acceptedReadings,
  history_records_episodes
-/
import VoltStream.Relational.MaximalRuns
import VoltStream.Relational.Run
import VoltStream.Proofs.RequestEffect

namespace VoltStream.Backend

open Relational

/-- The rules that judge a reading by itself. -/
def AlertType.Pointwise (alertType : AlertType) : Prop :=
  alertType = .lowSoc ∨ alertType = .highTemperature ∨ alertType = .voltageAnomaly

instance (alertType : AlertType) : Decidable alertType.Pointwise :=
  inferInstanceAs (Decidable (_ ∨ _ ∨ _))

/-- What a pointwise rule raises for a reading (severity, message, measured and
threshold value), or `none` when its condition does not hold.  These rules
never look at the stored telemetry. -/
def raisedBy (settings : Settings) (battery : Battery) (alertType : AlertType)
    (event : TelemetryEvent) : Option (Severity × String × Option ℚ × Option ℚ) :=
  (ruleCall settings [] battery event alertType).bind AlertCall.opens

/-- The alert is the record of this run of readings: it starts with the first
one, says what the rule computes for the last one, and is resolved by the
reading that ended the run. -/
structure Alert.Records (settings : Settings) (battery : Battery) (alertType : AlertType)
    (episode : Episode TelemetryEvent) (alert : Alert) : Prop where
  timestamp : alert.timestamp = episode.first.timestamp
  reading : raisedBy settings battery alertType episode.last = some alert.reading
  resolved : alert.resolved = episode.next.isSome
  resolvedAt : alert.resolvedAt = episode.next.map TelemetryEvent.timestamp

/-- The readings of a battery that a sequence of single-event requests newly
stores, in ingestion order. -/
def Database.acceptedReadings (settings : Settings) (db : Database) (batteryId : BatteryId)
    (events : List TelemetryEvent) : List TelemetryEvent :=
  ((taken (fun db event => Database.ingest settings db (.single event)) db events).filter
    fun taking => taking.1.Fresh taking.2 ∧ taking.2.batteryId = batteryId).map Prod.snd

section Rule

variable (settings : Settings) {battery : Battery} {alertType : AlertType}

/-- With a positive nominal voltage the expected voltage of a reading is
positive, so the voltage rule never abstains. -/
theorem expectedVoltage_pos (positive : 0 < battery.nominalVoltage) (event : TelemetryEvent) :
    0 < expectedVoltage battery.nominalVoltage event.stateOfCharge := by
  have charge := event.stateOfChargeBounds.1
  unfold expectedVoltage
  positivity

/-- A pointwise rule always settles its key, in the same way whatever telemetry
is stored. -/
theorem ruleCall_pointwise (pointwise : alertType.Pointwise)
    (positive : 0 < battery.nominalVoltage) (event : TelemetryEvent) :
    ∃ measuredValue message grade, ∀ telemetry,
      ruleCall settings telemetry battery event alertType =
        some (settle event.batteryId alertType event.timestamp measuredValue message grade) := by
  rcases pointwise with rfl | rfl | rfl
  · exact ⟨_, _, _, fun _ => rfl⟩
  · exact ⟨_, _, _, fun _ => rfl⟩
  · have expected := expectedVoltage_pos positive event
    simp only [ruleCall, evaluateVoltageAnomaly, if_neg (not_le.mpr expected)]
    exact ⟨_, _, _, fun _ => rfl⟩

end Rule

section Runs

variable {settings : Settings} {battery : Battery} {alertType : AlertType}
  {runs : List (Episode TelemetryEvent)} {alerts : List Alert}

/-- Changing the ongoing run and the unresolved alert in step keeps the
correspondence. -/
theorem records_onOngoing
    (recorded : List.Forall₂ (Alert.Records settings battery alertType) runs alerts)
    {changeRun : Episode TelemetryEvent → Episode TelemetryEvent} {change : Alert → Alert}
    (inStep : ∀ run alert, Alert.Records settings battery alertType run alert → run.next = none →
      Alert.Records settings battery alertType (changeRun run) (change alert)) :
    List.Forall₂ (Alert.Records settings battery alertType) (onOngoing changeRun runs)
      (alerts.map fun alert => if alert.resolved then alert else change alert) := by
  unfold onOngoing
  rw [List.forall₂_map_left_iff, List.forall₂_map_right_iff]
  apply recorded.imp
  intro run alert records
  rw [records.resolved]
  by_cases ended : run.next.isSome = true
  · simpa only [ended, if_true] using records
  · simp only [ended]
    exact inStep run alert records (by simpa using ended)

/-- An alert is unresolved exactly while a run is going on. -/
theorem ongoing_eq_any_unresolved
    (recorded : List.Forall₂ (Alert.Records settings battery alertType) runs alerts) :
    ongoing runs = alerts.any fun alert => alert.resolved = false := by
  apply any_eq_of_forall₂ recorded
  intro run alert records
  rw [records.resolved]
  cases run.next <;> rfl

end Runs

section Step

variable {settings : Settings} {battery : Battery} {alertType : AlertType}
  {runs : List (Episode TelemetryEvent)}

/-- A reading on which the condition does not hold ends the ongoing run, and the
resolution closes the open alert. -/
theorem records_resolve {event : TelemetryEvent} {alerts : Alerts} {batteryId : BatteryId}
    (recorded : List.Forall₂ (Alert.Records settings battery alertType) runs
      (alerts.history batteryId alertType))
    (inactive : raisedBy settings battery alertType event = none) :
    List.Forall₂ (Alert.Records settings battery alertType)
      (noted (fun reading => (raisedBy settings battery alertType reading).isSome) runs event)
      ((resolveAlertIfActive batteryId alertType event.timestamp alerts).history batteryId
        alertType) := by
  simp only [noted, inactive, Option.isSome_none, Bool.false_eq_true, if_false,
    Alerts.history_resolve]
  apply records_onOngoing recorded
  intro run alert records _
  exact
    { timestamp := records.timestamp
      reading := records.reading
      resolved := rfl
      resolvedAt := rfl }

/-- A reading on which the condition holds extends the ongoing run, whose alert
is retained, or starts a run, whose alert is created. -/
theorem records_create {event : TelemetryEvent} {alerts : Alerts} (request : AlertRequest)
    (recorded : List.Forall₂ (Alert.Records settings battery request.alertType) runs
      (alerts.history request.batteryId request.alertType))
    (verdict : raisedBy settings battery request.alertType event =
      (AlertCall.createOrRetainAlert request).opens)
    (start : request.timestamp = event.timestamp) :
    List.Forall₂ (Alert.Records settings battery request.alertType)
      (noted (fun reading => (raisedBy settings battery request.alertType reading).isSome) runs
        event)
      ((createOrRetainAlert request alerts).history request.batteryId request.alertType) := by
  have activeReading : (raisedBy settings battery request.alertType event).isSome = true := by
    rw [verdict]
    rfl
  have going := ongoing_eq_any_unresolved recorded
  rw [noted, if_pos activeReading]
  cases found : alerts.getUnresolvedAlert request.batteryId request.alertType with
  | some existing =>
      obtain ⟨stored, key, type, unresolved⟩ := alerts.getUnresolvedAlert_some_iff.mp found
      have isGoing : ongoing runs = true := by
        rw [going, List.any_eq_true]
        exact ⟨existing, Alerts.mem_history_iff.mpr ⟨stored, key, type⟩, by simp [unresolved]⟩
      rw [if_pos isGoing, Alerts.history_retain found]
      apply records_onOngoing recorded
      intro run alert records stillGoing
      exact
        { timestamp := records.timestamp
          reading := by
            rw [Episode.last_extend, verdict]
            rfl
          resolved := records.resolved
          resolvedAt := records.resolvedAt }
  | none =>
      have notGoing : ongoing runs = false := by
        rw [going, List.any_eq_false]
        intro alert inHistory unresolved
        obtain ⟨stored, key, type⟩ := Alerts.mem_history_iff.mp inHistory
        exact alerts.getUnresolvedAlert_none_iff.mp found alert stored
          ⟨key, type, by simpa using unresolved⟩
      rw [if_neg (by simp [notGoing]), Alerts.history_create found]
      apply List.rel_append recorded
      apply List.Forall₂.cons _ .nil
      exact
        { timestamp := start
          reading := verdict
          resolved := rfl
          resolvedAt := rfl }

/-- The rule's call for one more reading does to the alert rows what the reading
does to the runs. -/
theorem records_settle {event : TelemetryEvent} {measuredValue : ℚ}
    {message : Severity → ℚ → String} {grade : Grade} {alerts : Alerts}
    (recorded : List.Forall₂ (Alert.Records settings battery alertType) runs
      (alerts.history event.batteryId alertType))
    (verdict : raisedBy settings battery alertType event =
      (settle event.batteryId alertType event.timestamp measuredValue message grade).opens) :
    List.Forall₂ (Alert.Records settings battery alertType)
      (noted (fun reading => (raisedBy settings battery alertType reading).isSome) runs event)
      (((settle event.batteryId alertType event.timestamp measuredValue message grade).run
        alerts).history event.batteryId alertType) := by
  cases grade with
  | none => exact records_resolve recorded verdict
  | some crossed =>
      obtain ⟨severity, threshold⟩ := crossed
      exact records_create
        { batteryId := event.batteryId
          alertType := alertType
          severity := severity
          message := message severity threshold
          measuredValue := some measuredValue
          thresholdValue := some threshold
          timestamp := event.timestamp }
        recorded verdict rfl

end Step

theorem batteries_foldl_ingest (settings : Settings) (db : Database)
    (events : List TelemetryEvent) :
    (events.foldl (fun db event => Database.ingest settings db (.single event)) db).batteries =
      db.batteries := by
  induction events generalizing db with
  | nil => rfl
  | cons event rest ih => rw [List.foldl_cons, ih, Database.batteries_ingest]

/-- For every registered battery with a positive nominal voltage, every sequence
of single-event requests and every pointwise rule: the battery's alert rows of
that type are, one to one and in order, the records of the maximal runs of its
newly stored readings on which the rule's condition holds. -/
theorem history_records_episodes (settings : Settings)
    (batteries : Table Battery Battery.batteryId) (battery : Battery)
    (known : battery ∈ batteries.rows) (positive : 0 < battery.nominalVoltage)
    (alertType : AlertType) (pointwise : alertType.Pointwise) (events : List TelemetryEvent) :
    List.Forall₂ (Alert.Records settings battery alertType)
      (episodes (fun reading => (raisedBy settings battery alertType reading).isSome)
        ((Database.registered batteries).acceptedReadings settings battery.batteryId events))
      ((events.foldl (fun db event => Database.ingest settings db (.single event))
        (Database.registered batteries)).alerts.history battery.batteryId alertType) := by
  induction events using List.reverseRecOn with
  | nil =>
      rw [Database.acceptedReadings, taken, List.filter_nil, List.map_nil, episodes_nil]
      exact .nil
  | append_singleton events event ih =>
      have sameBatteries := batteries_foldl_ingest settings (Database.registered batteries) events
      generalize reached : events.foldl
        (fun db event => Database.ingest settings db (.single event))
        (Database.registered batteries) = db at ih sameBatteries
      have found : db.batteries.lookup battery.batteryId = some battery := by
        rw [sameBatteries]
        exact batteries.lookup_of_mem known
      rw [List.foldl_append, reached, List.foldl_cons, List.foldl_nil]
      simp only [Database.acceptedReadings, taken_concat, List.filter_append, List.map_append,
        reached] at ih ⊢
      by_cases accepted : db.Fresh event ∧ event.batteryId = battery.batteryId
      · obtain ⟨fresh, same⟩ := accepted
        have registered : db.Registers (.single event) :=
          Database.registers_single_iff.mpr (by rw [same, found]; simp)
        obtain ⟨measuredValue, message, grade, settles⟩ :=
          ruleCall_pointwise settings pointwise positive event
        have verdict : raisedBy settings battery alertType event =
            (settle event.batteryId alertType event.timestamp measuredValue message
              grade).opens := by
          rw [raisedBy, settles, Option.bind_some]
        have decides : db.decidingCall settings (.single event) battery.batteryId alertType =
            some (settle event.batteryId alertType event.timestamp measuredValue message
              grade) := by
          rw [Database.decidingCall, Database.newestEvent_single, if_pos ⟨fresh, same⟩,
            Option.bind_some, found, Option.bind_some, settles]
        obtain ⟨before, sameHistory, after⟩ := Database.history_ingest_of_some registered decides
        rw [after, List.filter_cons_of_pos (by simp [fresh, same]), List.filter_nil,
          List.map_singleton, episodes_concat]
        rw [← sameHistory, ← same] at ih
        rw [← same]
        exact records_settle ih verdict
      · -- Nothing is stored for the battery, so neither side moves.
        rw [List.filter_cons_of_neg (by simpa using accepted), List.filter_nil, List.map_nil,
          List.append_nil]
        by_cases registered : db.Registers (.single event)
        · have silent : db.decidingCall settings (.single event) battery.batteryId alertType =
              none := by
            rw [Database.decidingCall, Database.newestEvent_single, if_neg accepted,
              Option.bind_none]
          rw [Database.history_ingest_of_none settings registered silent]
          exact ih
        · rw [Database.ingest_of_not_registers registered]
          exact ih

/-- A low run of two readings that escalates, a recovery, and a second low run. -/
theorem sample_history_records_episodes :
    List.Forall₂
      (Alert.Records Settings.default (sampleBatteries.rows.head (by decide)) .lowSoc)
      (episodes
        (fun reading => (raisedBy Settings.default (sampleBatteries.rows.head (by decide)) .lowSoc
          reading).isSome)
        ((Database.registered sampleBatteries).acceptedReadings Settings.default sampleBatteryId
          [sampleEvent 1 0 15, sampleEvent 2 1000000 8, sampleEvent 3 2000000 40,
            sampleEvent 4 3000000 12]))
      ((([sampleEvent 1 0 15, sampleEvent 2 1000000 8, sampleEvent 3 2000000 40,
          sampleEvent 4 3000000 12].foldl
            (fun db event => Database.ingest Settings.default db (.single event))
            (Database.registered sampleBatteries)).alerts.history sampleBatteryId .lowSoc)) :=
  history_records_episodes Settings.default sampleBatteries (sampleBatteries.rows.head (by decide))
    (List.head_mem _) (by decide +kernel) .lowSoc (by decide) _

end VoltStream.Backend
