/-
Module: VoltStream.Proofs.RequestEffect
Purpose: What one complete ingestion request does to each table, whichever
  endpoint it came through.
Trusted boundary: none
Main exports: Database.Registers, Database.newlyInserted, Database.ingest_of_registers,
  newestEvent, Database.currentState_ingest, ruleCall, Database.decidingCall,
  Database.history_ingest_of_some, Database.openAlert_ingest_of_some
-/
import VoltStream.Backend.Ingestion
import VoltStream.Proofs.AlertCalls

namespace VoltStream.Backend

open Relational

/-- Every event of the request names a registered battery. -/
def Database.Registers (db : Database) (request : Request) : Prop :=
  ∀ event ∈ request.events, db.batteries.lookup event.batteryId ≠ none

instance (db : Database) (request : Request) : Decidable (db.Registers request) :=
  inferInstanceAs (Decidable (∀ event ∈ request.events, _))

/-- The event's id is not stored yet. -/
def Database.Fresh (db : Database) (event : TelemetryEvent) : Prop :=
  db.telemetry.lookup event.eventId = none

instance (db : Database) (event : TelemetryEvent) : Decidable (db.Fresh event) :=
  inferInstanceAs (Decidable (_ = _))

/-- The events of a request whose ids are new to the table: what the batch path
calls `newly_inserted_events`. -/
def Database.newlyInserted (db : Database) (request : Request) : List TelemetryEvent :=
  request.events.filter fun event => db.Fresh event

/-- The events of a request that are accepted: a refused request has none. -/
def Database.accepted (db : Database) (request : Request) : List TelemetryEvent :=
  if db.Registers request then db.newlyInserted request else []

theorem Database.accepted_of_registers {db : Database} {request : Request}
    (registered : db.Registers request) : db.accepted request = db.newlyInserted request :=
  if_pos registered

/-- The telemetry insert of a request. -/
def Database.store (db : Database) (request : Request) : Database :=
  { db with telemetry := db.telemetry.insertAll (request.events.map TelemetryEvent.toTelemetry) }

@[simp] theorem Database.store_currentState (db : Database) (request : Request) :
    (db.store request).currentState = db.currentState := rfl

theorem missingIds_eq_nil_iff (db : Database) (request : Request) :
    missingIds db.batteries request.events = [] ↔ db.Registers request := by
  rw [missingIds, ← List.length_eq_zero_iff, List.length_insertionSort, List.length_eq_zero_iff,
    List.filter_eq_nil_iff]
  simp [Database.Registers]

theorem Database.applyAccepted_nil (settings : Settings) (db : Database) :
    db.applyAccepted settings [] = db := rfl

/-- Both endpoints store the request and then apply the events with new ids. -/
theorem Database.ingest_of_registers {settings : Settings} {db : Database} {request : Request}
    (registered : db.Registers request) :
    db.ingest settings request =
      (db.store request).applyAccepted settings (db.newlyInserted request) := by
  cases request with
  | single event =>
      have known : db.batteries.lookup event.batteryId ≠ none := registered event (by
        simp [Request.events])
      obtain ⟨battery, found⟩ := Option.ne_none_iff_exists'.mp known
      by_cases fresh : db.Fresh event
      · have created : db.telemetry.lookup event.eventId = none := fresh
        simp [ingest, ingestTelemetryEvent, found, Table.returning, created, store, newlyInserted,
          Request.events, fresh]
      · have duplicate : db.telemetry.lookup event.eventId ≠ none := fresh
        simp [ingest, ingestTelemetryEvent, found, Table.returning, duplicate, store,
          newlyInserted, Request.events, fresh, applyAccepted_nil]
  | batch batch =>
      have complete : missingIds db.batteries batch.events = [] :=
        (missingIds_eq_nil_iff db (.batch batch)).mpr registered
      have selected : (batch.events.filter fun event =>
          event.eventId ∈ db.telemetry.returning (batch.events.map TelemetryEvent.toTelemetry)) =
          db.newlyInserted (.batch batch) := by
        refine List.filter_congr fun event member => ?_
        rw [decide_eq_decide, Table.mem_returning_iff]
        refine and_iff_right ?_
        exact List.mem_map.mpr ⟨event.toTelemetry, List.mem_map_of_mem member, rfl⟩
      simp only [ingest, ingestTelemetryBatch, complete, ne_eq, not_true_eq_false, if_false]
      rw [selected]
      split
      · rfl
      · rename_i noneInserted
        have nothing : db.newlyInserted (.batch batch) = [] := by
          rw [← selected, List.filter_eq_nil_iff]
          simp [not_not.mp noneInserted]
        rw [nothing, applyAccepted_nil]
        rfl

theorem Database.ingest_of_not_registers {settings : Settings} {db : Database} {request : Request}
    (refused : ¬ db.Registers request) : db.ingest settings request = db := by
  cases request with
  | single event =>
      have unknown : db.batteries.lookup event.batteryId = none := by
        simpa [Registers, Request.events] using refused
      simp [ingest, ingestTelemetryEvent, unknown]
  | batch batch =>
      have incomplete : missingIds db.batteries batch.events ≠ [] := fun complete =>
        refused ((missingIds_eq_nil_iff db (.batch batch)).mp complete)
      simp [ingest, ingestTelemetryBatch, incomplete]

/-! ### The reduction to one event per battery -/

/-- The newest event of one battery, a later one winning a tie. -/
def newestEvent (events : List TelemetryEvent) (batteryId : BatteryId) : Option TelemetryEvent :=
  newestFrom TelemetryEvent.timestamp none
    (events.filter fun event => event.batteryId = batteryId)

theorem latestPerBattery_lookup (events : List TelemetryEvent) (batteryId : BatteryId) :
    (latestPerBattery events).lookup batteryId = newestEvent events batteryId := by
  rw [latestPerBattery, Table.lookup_putAll_newest, Table.empty_lookup, newestEvent]

/-- The sorted reduction holds, for each battery, its newest event and no
other. -/
theorem sortedLatest_filter (events : List TelemetryEvent) (batteryId : BatteryId) :
    ((sortedLatest events).filter fun event => event.batteryId = batteryId) =
      (newestEvent events batteryId).toList := by
  rw [← latestPerBattery_lookup]
  exact (latestPerBattery events).filter_key_of_perm (List.perm_insertionSort _ _) batteryId

theorem newestEvent_batteryId {events : List TelemetryEvent} {batteryId : BatteryId}
    {winner : TelemetryEvent} (newest : newestEvent events batteryId = some winner) :
    winner ∈ events ∧ winner.batteryId = batteryId := by
  rcases (newestFrom_isNewest _ newest).mem_or with impossible | member
  · cases impossible
  · simpa using member

theorem newestEvent_none_iff {events : List TelemetryEvent} {batteryId : BatteryId} :
    newestEvent events batteryId = none ↔ ∀ event ∈ events, event.batteryId ≠ batteryId := by
  rw [newestEvent, newestFrom_eq_none]
  simp [List.filter_eq_nil_iff]

/-- No event of the battery is newer than the one the reduction keeps. -/
theorem newestEvent_le {events : List TelemetryEvent} {batteryId : BatteryId}
    {winner event : TelemetryEvent} (newest : newestEvent events batteryId = some winner)
    (member : event ∈ events) (battery : event.batteryId = batteryId) :
    event.timestamp ≤ winner.timestamp :=
  (newestFrom_isNewest _ newest).dominates event
    (List.mem_filter.mpr ⟨member, by simpa using battery⟩)

/-- The sorted reduction holds exactly the newest event of each battery. -/
theorem mem_sortedLatest_iff {events : List TelemetryEvent} {event : TelemetryEvent} :
    event ∈ sortedLatest events ↔ newestEvent events event.batteryId = some event := by
  rw [← Option.mem_toList, ← sortedLatest_filter, List.mem_filter]
  simp

/-- What the guarded upsert of one event leaves of a battery's row. -/
def refreshed (row : Option BatteryCurrentState) : Option TelemetryEvent →
    Option BatteryCurrentState
  | none => row
  | some event => some (absorb (notNewer BatteryCurrentState.lastSeen) row event.toCurrentState)

theorem refreshed_of_le {row : BatteryCurrentState} {event : TelemetryEvent}
    (admitted : row.lastSeen ≤ event.timestamp) :
    refreshed (some row) (some event) = some event.toCurrentState :=
  congrArg some (absorb_of_le BatteryCurrentState.lastSeen admitted)

theorem refreshed_of_lt {row : BatteryCurrentState} {event : TelemetryEvent}
    (late : event.timestamp < row.lastSeen) : refreshed (some row) (some event) = some row :=
  congrArg some (absorb_of_lt BatteryCurrentState.lastSeen late)

theorem Database.currentState_applyAccepted (settings : Settings) (db : Database)
    (events : List TelemetryEvent) (batteryId : BatteryId) :
    (db.applyAccepted settings events).currentState batteryId =
      refreshed (db.currentState batteryId) (newestEvent events batteryId) := by
  have upserted : (db.applyAccepted settings events).currentState batteryId =
      (db.batteryCurrentState.putAll (notNewer BatteryCurrentState.lastSeen)
        ((sortedLatest events).map TelemetryEvent.toCurrentState)).lookup batteryId := rfl
  rw [upserted, Table.lookup_putAll_newest, List.filter_map]
  have sameKey : ((fun row : BatteryCurrentState => decide (row.batteryId = batteryId)) ∘
      TelemetryEvent.toCurrentState) = fun event => decide (event.batteryId = batteryId) := rfl
  rw [sameKey, sortedLatest_filter]
  cases newestEvent events batteryId <;> rfl

theorem Database.currentState_ingest {settings : Settings} {db : Database} {request : Request}
    (registered : db.Registers request) (batteryId : BatteryId) :
    (db.ingest settings request).currentState batteryId =
      refreshed (db.currentState batteryId)
        (newestEvent (db.newlyInserted request) batteryId) := by
  rw [ingest_of_registers registered, currentState_applyAccepted, store_currentState]

@[simp] theorem Database.telemetry_ingest {settings : Settings} {db : Database} {request : Request}
    (registered : db.Registers request) :
    (db.ingest settings request).telemetry = (db.store request).telemetry := by
  rw [ingest_of_registers registered]
  rfl

@[simp] theorem Database.batteries_ingest (settings : Settings) (db : Database)
    (request : Request) : (db.ingest settings request).batteries = db.batteries := by
  by_cases registered : db.Registers request
  · rw [ingest_of_registers registered]
    rfl
  · rw [ingest_of_not_registers registered]

/-! ### The rule pass -/

/-- The call the rule of one alert type makes for an event, or `none` when the
rule abstains. -/
def ruleCall (settings : Settings) (telemetry : List Telemetry) (battery : Battery)
    (event : TelemetryEvent) : AlertType → Option AlertCall
  | .lowSoc => some (evaluateLowSoc settings event.batteryId event.stateOfCharge event.timestamp)
  | .highTemperature =>
      some (evaluateHighTemperature settings event.batteryId event.temperatureC event.timestamp)
  | .voltageAnomaly =>
      evaluateVoltageAnomaly settings event.batteryId event.voltage event.stateOfCharge
        battery.nominalVoltage event.timestamp
  | .rapidDischarge =>
      evaluateRapidDischarge settings telemetry event.batteryId event.stateOfCharge
        event.timestamp
  | .deviceOffline => some (.resolveAlertIfActive event.batteryId .deviceOffline event.timestamp)

/-- A rule that speaks settles its own battery and alert type at the timestamp
of the reading it judges. -/
theorem ruleCall_settles {settings : Settings} {telemetry : List Telemetry} {battery : Battery}
    {event : TelemetryEvent} {alertType : AlertType} {call : AlertCall}
    (made : ruleCall settings telemetry battery event alertType = some call) :
    ∃ measuredValue message grade,
      call = settle event.batteryId alertType event.timestamp measuredValue message grade := by
  cases alertType with
  | lowSoc =>
      obtain rfl := Option.some.inj made
      exact ⟨_, _, _, rfl⟩
  | highTemperature =>
      obtain rfl := Option.some.inj made
      exact ⟨_, _, _, rfl⟩
  | voltageAnomaly =>
      simp only [ruleCall, evaluateVoltageAnomaly] at made
      split at made
      · cases made
      · obtain rfl := Option.some.inj made
        exact ⟨_, _, _, rfl⟩
  | rapidDischarge =>
      simp only [ruleCall, evaluateRapidDischarge] at made
      split at made
      · cases made
      · obtain rfl := Option.some.inj made
        exact ⟨_, _, _, rfl⟩
  | deviceOffline =>
      obtain rfl := Option.some.inj made
      exact ⟨0, fun _ _ => "", none, rfl⟩

theorem ruleCall_key {settings : Settings} {telemetry : List Telemetry} {battery : Battery}
    {event : TelemetryEvent} {alertType : AlertType} {call : AlertCall}
    (made : ruleCall settings telemetry battery event alertType = some call) :
    call.key = (event.batteryId, alertType) := by
  obtain ⟨measuredValue, message, grade, rfl⟩ := ruleCall_settles made
  exact settle_key ..

theorem ruleCall_timestamp {settings : Settings} {telemetry : List Telemetry} {battery : Battery}
    {event : TelemetryEvent} {alertType : AlertType} {call : AlertCall}
    (made : ruleCall settings telemetry battery event alertType = some call) :
    call.timestamp = event.timestamp := by
  obtain ⟨measuredValue, message, grade, rfl⟩ := ruleCall_settles made
  exact settle_timestamp ..

theorem evaluateRules_eq (settings : Settings) (telemetry : List Telemetry) (battery : Battery)
    (event : TelemetryEvent) :
    evaluateRules settings telemetry battery event =
      [AlertType.lowSoc, .highTemperature, .voltageAnomaly, .rapidDischarge].flatMap
        fun alertType => (ruleCall settings telemetry battery event alertType).toList := by
  simp [evaluateRules, ruleCall]

theorem toList_filter_key {found : Option AlertCall} {key : BatteryId × AlertType}
    (keyed : ∀ call, found = some call → call.key = key) (wanted : BatteryId × AlertType) :
    (found.toList.filter fun call => call.key = wanted) =
      if key = wanted then found.toList else [] := by
  cases found with
  | none => simp
  | some call => by_cases hit : key = wanted <;> simp [keyed call rfl, hit]

theorem evaluateRules_filter (settings : Settings) (telemetry : List Telemetry)
    (battery : Battery) (event : TelemetryEvent) (batteryId : BatteryId) {alertType : AlertType}
    (ruled : alertType ≠ .deviceOffline) :
    ((evaluateRules settings telemetry battery event).filter fun call =>
        call.key = (batteryId, alertType)) =
      if event.batteryId = batteryId then
        (ruleCall settings telemetry battery event alertType).toList
      else [] := by
  have each : ∀ other, ((ruleCall settings telemetry battery event other).toList.filter fun call =>
      call.key = (batteryId, alertType)) =
        if (event.batteryId, other) = (batteryId, alertType) then
          (ruleCall settings telemetry battery event other).toList
        else [] := fun other => toList_filter_key (fun _ made => ruleCall_key made) _
  rw [evaluateRules_eq]
  simp only [List.flatMap_cons, List.flatMap_nil, List.append_nil, List.filter_append, each,
    Prod.mk.injEq]
  by_cases same : event.batteryId = batteryId <;> cases alertType <;> simp_all

theorem evaluateRulesForEvent_key {settings : Settings} {telemetry : List Telemetry}
    {batteries : Table Battery Battery.batteryId} {event : TelemetryEvent} {call : AlertCall}
    (made : call ∈ evaluateRulesForEvent settings telemetry batteries event) :
    call.key.1 = event.batteryId ∧ call.key.2 ≠ .deviceOffline := by
  unfold evaluateRulesForEvent at made
  split at made
  · cases made
  · rw [evaluateRules_eq] at made
    obtain ⟨ruled, isRule, ruling⟩ := List.mem_flatMap.mp made
    rw [ruleCall_key (Option.mem_toList.mp ruling)]
    refine ⟨rfl, ?_⟩
    rintro rfl
    simp at isRule

theorem evaluateRulesForEvent_filter (settings : Settings) (telemetry : List Telemetry)
    {batteries : Table Battery Battery.batteryId} {batteryId : BatteryId} {battery : Battery}
    (known : batteries.lookup batteryId = some battery) {alertType : AlertType}
    (ruled : alertType ≠ .deviceOffline) (event : TelemetryEvent) :
    ((evaluateRulesForEvent settings telemetry batteries event).filter fun call =>
        call.key = (batteryId, alertType)) =
      if event.batteryId = batteryId then
        (ruleCall settings telemetry battery event alertType).toList
      else [] := by
  by_cases same : event.batteryId = batteryId
  · rw [evaluateRulesForEvent, same, known, if_pos rfl]
    rw [evaluateRules_filter settings telemetry battery event batteryId ruled, if_pos same]
  · rw [if_neg same, List.filter_eq_nil_iff]
    intro call made
    simp only [decide_eq_true_eq]
    intro hit
    exact same ((evaluateRulesForEvent_key made).1.symm.trans (congrArg Prod.fst hit))

theorem resolveOffline_filter (latest : List TelemetryEvent) (batteryId : BatteryId)
    (alertType : AlertType) :
    ((latest.map fun event =>
        AlertCall.resolveAlertIfActive event.batteryId .deviceOffline event.timestamp).filter
          fun call => call.key = (batteryId, alertType)) =
      if alertType = .deviceOffline then
        (latest.filter fun event => event.batteryId = batteryId).map fun event =>
          .resolveAlertIfActive event.batteryId .deviceOffline event.timestamp
      else [] := by
  by_cases offline : alertType = .deviceOffline
  · subst offline
    rw [if_pos rfl, List.filter_map]
    congr 1
    refine List.filter_congr fun event _ => ?_
    simp [AlertCall.key]
  · rw [if_neg offline, List.filter_eq_nil_iff]
    intro call inResolves
    obtain ⟨other, -, rfl⟩ := List.mem_map.mp inResolves
    simp only [AlertCall.key, decide_eq_true_eq, Prod.mk.injEq, not_and]
    exact fun _ same => offline same.symm

/-- The events of one battery decide the calls about that battery. -/
theorem evaluateRulesForEvents_filter {settings : Settings} {telemetry : List Telemetry}
    {batteries : Table Battery Battery.batteryId} {batteryId : BatteryId} {battery : Battery}
    (known : batteries.lookup batteryId = some battery) {alertType : AlertType}
    (ruled : alertType ≠ .deviceOffline) (latest : List TelemetryEvent) :
    ((evaluateRulesForEvents settings telemetry batteries latest).filter fun call =>
        call.key = (batteryId, alertType)) =
      (latest.filter fun event => event.batteryId = batteryId).flatMap fun event =>
        (ruleCall settings telemetry battery event alertType).toList := by
  induction latest with
  | nil => rfl
  | cons event rest ih =>
      have first := evaluateRulesForEvent_filter settings telemetry known ruled event
      rw [evaluateRulesForEvents] at ih ⊢
      rw [List.flatMap_cons, List.filter_append, ih, first]
      by_cases same : event.batteryId = batteryId <;> simp [same]

/-- In a rule pass over events of distinct batteries, the calls about one key
are the call of that key's rule for that battery's event. -/
theorem rulePassCalls_filter {settings : Settings} {telemetry : List Telemetry}
    {batteries : Table Battery Battery.batteryId} {latest : List TelemetryEvent}
    {batteryId : BatteryId} {alertType : AlertType} {event : TelemetryEvent} {battery : Battery}
    (only : (latest.filter fun event => event.batteryId = batteryId) = [event])
    (known : batteries.lookup batteryId = some battery) :
    ((rulePassCalls settings telemetry batteries latest).filter fun call =>
        call.key = (batteryId, alertType)) =
      (ruleCall settings telemetry battery event alertType).toList := by
  rw [rulePassCalls, List.filter_append, resolveOffline_filter, only]
  by_cases offline : alertType = .deviceOffline
  · subst offline
    have noRule : ((evaluateRulesForEvents settings telemetry batteries latest).filter fun call =>
        call.key = (batteryId, .deviceOffline)) = [] := by
      rw [List.filter_eq_nil_iff]
      intro call inRules
      obtain ⟨other, -, inOther⟩ := List.mem_flatMap.mp inRules
      have ruled := (evaluateRulesForEvent_key inOther).2
      simp only [decide_eq_true_eq]
      exact fun hit => ruled (congrArg Prod.snd hit)
    rw [noRule, if_pos rfl]
    rfl
  · rw [if_neg offline, List.append_nil, evaluateRulesForEvents_filter known offline, only]
    simp

/-- A battery without an event in the pass is not spoken about. -/
theorem rulePassCalls_filter_nil {settings : Settings} {telemetry : List Telemetry}
    {batteries : Table Battery Battery.batteryId} {latest : List TelemetryEvent}
    {batteryId : BatteryId} (absent : ∀ event ∈ latest, event.batteryId ≠ batteryId)
    (alertType : AlertType) :
    ((rulePassCalls settings telemetry batteries latest).filter fun call =>
      call.key = (batteryId, alertType)) = [] := by
  rw [List.filter_eq_nil_iff]
  intro call inCalls
  simp only [decide_eq_true_eq]
  intro hit
  rcases List.mem_append.mp inCalls with inRules | inResolves
  · obtain ⟨other, inLatest, inOther⟩ := List.mem_flatMap.mp inRules
    have battery := (evaluateRulesForEvent_key inOther).1
    exact absent other inLatest (battery.symm.trans (congrArg Prod.fst hit))
  · obtain ⟨other, inLatest, rfl⟩ := List.mem_map.mp inResolves
    exact absent other inLatest (congrArg Prod.fst hit)

/-- The one call a request makes about a battery and alert type, if any: the
rule's verdict on the battery's newest new event. -/
def Database.decidingCall (settings : Settings) (db : Database) (request : Request)
    (batteryId : BatteryId) (alertType : AlertType) : Option AlertCall :=
  (newestEvent (db.newlyInserted request) batteryId).bind fun event =>
    (db.batteries.lookup batteryId).bind fun battery =>
      ruleCall settings (db.store request).telemetry.rows battery event alertType

section Alerts

variable (settings : Settings) {db : Database} {request : Request}

variable {settings} in
theorem Database.decidingCall_key {batteryId : BatteryId} {alertType : AlertType}
    {call : AlertCall}
    (decides : db.decidingCall settings request batteryId alertType = some call) :
    call.key = (batteryId, alertType) := by
  obtain ⟨event, newest, deciding⟩ := Option.bind_eq_some_iff.mp decides
  obtain ⟨battery, -, made⟩ := Option.bind_eq_some_iff.mp deciding
  rw [ruleCall_key made, (newestEvent_batteryId newest).2]

/-- A battery with a new event has its offline alert resolved. -/
theorem Database.decidingCall_deviceOffline (registered : db.Registers request)
    {batteryId : BatteryId} {event : TelemetryEvent}
    (newest : newestEvent (db.newlyInserted request) batteryId = some event) :
    db.decidingCall settings request batteryId .deviceOffline =
      some (.resolveAlertIfActive event.batteryId .deviceOffline event.timestamp) := by
  obtain ⟨inNew, sameBattery⟩ := newestEvent_batteryId newest
  obtain ⟨battery, known⟩ := Option.ne_none_iff_exists'.mp
    (registered event (List.mem_filter.mp inNew).1)
  rw [sameBattery] at known
  rw [decidingCall, newest, Option.bind_some, known, Option.bind_some, ruleCall]

theorem Database.alerts_ingest (registered : db.Registers request) :
    (db.ingest settings request).alerts =
      AlertCall.runAll (rulePassCalls settings (db.store request).telemetry.rows db.batteries
        (sortedLatest (db.newlyInserted request))) db.alerts := by
  rw [ingest_of_registers registered]
  rfl

/-- The calls of the request's rule pass about one key. -/
theorem Database.rulePass_filter (registered : db.Registers request) (batteryId : BatteryId)
    (alertType : AlertType) :
    ((rulePassCalls settings (db.store request).telemetry.rows db.batteries
        (sortedLatest (db.newlyInserted request))).filter fun call =>
          call.key = (batteryId, alertType)) =
      (db.decidingCall settings request batteryId alertType).toList := by
  have only := sortedLatest_filter (db.newlyInserted request) batteryId
  cases newest : newestEvent (db.newlyInserted request) batteryId with
  | none =>
      rw [newest, Option.toList_none, List.filter_eq_nil_iff] at only
      rw [decidingCall, newest, Option.bind_none, Option.toList_none]
      exact rulePassCalls_filter_nil (fun event member => by simpa using only event member)
        alertType
  | some event =>
      rw [newest, Option.toList_some] at only
      obtain ⟨inNew, battery⟩ := newestEvent_batteryId newest
      obtain ⟨found, known⟩ :=
        Option.ne_none_iff_exists'.mp (registered event (List.mem_filter.mp inNew).1)
      rw [battery] at known
      rw [decidingCall, newest, Option.bind_some, known, Option.bind_some]
      exact rulePassCalls_filter only known

/-- The alerts of a key the request makes no call about are untouched. -/
theorem Database.history_ingest_of_none {batteryId : BatteryId} {alertType : AlertType}
    (registered : db.Registers request)
    (silent : db.decidingCall settings request batteryId alertType = none) :
    (db.ingest settings request).alerts.history batteryId alertType =
      db.alerts.history batteryId alertType := by
  have calls := rulePass_filter settings registered batteryId alertType
  rw [silent, Option.toList_none] at calls
  rw [alerts_ingest settings registered]
  exact AlertCall.history_runAll_of_filter_nil calls _

variable {settings} in
/-- The one call the request makes about a key decides its alerts. -/
theorem Database.history_ingest_of_some {batteryId : BatteryId} {alertType : AlertType}
    {call : AlertCall} (registered : db.Registers request)
    (decides : db.decidingCall settings request batteryId alertType = some call) :
    ∃ reached : Alerts,
      reached.history batteryId alertType = db.alerts.history batteryId alertType ∧
      (db.ingest settings request).alerts.history batteryId alertType =
        (call.run reached).history batteryId alertType := by
  have calls := rulePass_filter settings registered batteryId alertType
  rw [decides, Option.toList_some] at calls
  rw [alerts_ingest settings registered]
  exact AlertCall.history_runAll_of_filter_single calls _

theorem Database.openAlert_ingest_of_none {batteryId : BatteryId} {alertType : AlertType}
    (registered : db.Registers request)
    (silent : db.decidingCall settings request batteryId alertType = none) :
    (db.ingest settings request).openAlert batteryId alertType =
      db.openAlert batteryId alertType :=
  Alerts.getUnresolvedAlert_congr (history_ingest_of_none settings registered silent)

variable {settings} in
/-- After the request the open alert of a key says what the deciding call says. -/
theorem Database.openAlert_ingest_of_some {batteryId : BatteryId} {alertType : AlertType}
    {call : AlertCall} (registered : db.Registers request)
    (decides : db.decidingCall settings request batteryId alertType = some call) :
    ((db.ingest settings request).openAlert batteryId alertType).map Alert.reading =
      call.opens := by
  obtain ⟨reached, -, after⟩ := history_ingest_of_some registered decides
  rw [openAlert, Alerts.getUnresolvedAlert_congr after]
  have said := call.openAlert_run reached
  rwa [decidingCall_key decides] at said

end Alerts

/-! ### Requests with one event -/

section Single

variable {db : Database} {event : TelemetryEvent}

theorem Database.newlyInserted_single (db : Database) (event : TelemetryEvent) :
    db.newlyInserted (.single event) = if db.Fresh event then [event] else [] := by
  by_cases fresh : db.Fresh event <;> simp [newlyInserted, Request.events, fresh]

theorem newestEvent_singleton (event : TelemetryEvent) (batteryId : BatteryId) :
    newestEvent [event] batteryId = if event.batteryId = batteryId then some event else none := by
  by_cases same : event.batteryId = batteryId
  · simp [newestEvent, same, absorb]
  · simp [newestEvent, same]

/-- The newest new event a one-event request has for a battery. -/
theorem Database.newestEvent_single (db : Database) (event : TelemetryEvent)
    (batteryId : BatteryId) :
    newestEvent (db.newlyInserted (.single event)) batteryId =
      if db.Fresh event ∧ event.batteryId = batteryId then some event else none := by
  rw [newlyInserted_single]
  by_cases fresh : db.Fresh event
  · simp [fresh, newestEvent_singleton]
  · simp [fresh, newestEvent]

theorem Database.registers_single_iff :
    db.Registers (.single event) ↔ db.batteries.lookup event.batteryId ≠ none := by
  simp [Registers, Request.events]

/-- Delivering a stored event again changes nothing. -/
theorem Database.ingest_of_not_fresh (settings : Settings) (stored : ¬ db.Fresh event) :
    db.ingest settings (.single event) = db := by
  by_cases registered : db.Registers (.single event)
  · have same : db.telemetry.insertAll [event.toTelemetry] = db.telemetry := by
      rw [Table.insertAll, List.foldl_cons, List.foldl_nil]
      exact Table.insertIgnore_of_ne_none stored
    rw [ingest_of_registers registered, newlyInserted_single, if_neg stored, applyAccepted_nil,
      store]
    simp only [Request.events, List.map_cons, List.map_nil, same]
  · exact ingest_of_not_registers registered

end Single

end VoltStream.Backend
