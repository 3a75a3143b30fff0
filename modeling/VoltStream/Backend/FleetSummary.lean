/-
Module: VoltStream.Backend.FleetSummary
Purpose: The fleet-wide summary, of which each of three statements reads a database of its
  own, and the transactions that may commit between them.
Trusted boundary: human-reviewed spec of `fleet_service.py` at READ COMMITTED
Main exports: FleetSummaryResponse, FleetStateRow, fleetStateRow, getFleetSummary, Write,
  Database.write, Database.commit, Database.commitAll
-/
import VoltStream.Relational.Run
import VoltStream.Relational.Window
import VoltStream.Backend.OfflineDetection

namespace VoltStream.Backend

open Relational Numeric

/-! ### The summary -/

/-- `FleetSummaryResponse`, with its floats in `φ`.  The counts are integers: the schema sets
no bounds. -/
structure FleetSummaryResponse (φ : Type) where
  totalDevices : Int
  onlineDevices : Int
  offlineDevices : Int
  averageSoc : φ
  totalAvailableEnergyKwh : φ
  chargingDevices : Int
  dischargingDevices : Int
  idleDevices : Int
  activeAlerts : Int
  criticalAlerts : Int
deriving Repr, DecidableEq

/-- The one row of `state_query`; an aggregate over no rows is `NULL`. -/
structure FleetStateRow where
  knownStateDevices : Nat
  averageSoc : Option ℚ
  totalAvailableEnergyKwh : Option ℚ
  chargingDevices : Nat
  dischargingDevices : Nat
  idleDevices : Nat
  offlineStatusDevices : Nat
deriving Repr, DecidableEq

/-- `battery_current_state` joined with `batteries`. -/
def joinedState (db : Database) : List (BatteryCurrentState × Battery) :=
  db.batteryCurrentState.rows.filterMap fun state =>
    (db.batteries.lookup state.batteryId).map fun battery => (state, battery)

/-- `state_query`. -/
def fleetStateRow (db : Database) : FleetStateRow :=
  let joined := joinedState db
  let statuses := joined.map fun row => row.1.status
  { knownStateDevices := joined.length
    averageSoc :=
      if joined = [] then none else some (mean (joined.map fun row => row.1.stateOfCharge))
    totalAvailableEnergyKwh :=
      if joined = [] then none
      else some (joined.map fun row => row.2.capacityKwh * row.1.stateOfCharge / 100).sum
    chargingDevices := statuses.count (.reported .charging)
    dischargingDevices := statuses.count (.reported .discharging)
    idleDevices := statuses.count (.reported .idle)
    offlineStatusDevices := statuses.count .offline }

/-- `round(value, digits)`. -/
def roundTo (digits : Nat) (value : ℚ) : ℚ := roundHalfEven (value * 10 ^ digits) / 10 ^ digits

/-- `get_fleet_summary`, whose statements see the data committed when each of them starts. -/
def getFleetSummary (first second third : Database) : FleetSummaryResponse ℚ :=
  let totalDevices : Int := first.batteries.rows.length
  let row := fleetStateRow second
  let onlineDevices : Int := row.knownStateDevices - row.offlineStatusDevices
  let offlineDevices := totalDevices - onlineDevices
  let unresolved := third.alerts.rows.filter fun alert => !alert.resolved
  { totalDevices := totalDevices
    onlineDevices := onlineDevices
    offlineDevices := offlineDevices
    averageSoc := (row.averageSoc.map (roundTo 2)).getD 0
    totalAvailableEnergyKwh := (row.totalAvailableEnergyKwh.map (roundTo 4)).getD 0
    chargingDevices := row.chargingDevices
    dischargingDevices := row.dischargingDevices
    idleDevices := row.idleDevices
    activeAlerts := unresolved.length
    criticalAlerts := unresolved.countP fun alert => alert.severity = .critical }

/-! ### What commits meanwhile -/

/-- A write of a registration, of an ingestion, of the offline detector, of a rule or of a
person. -/
inductive Write where
  | register (battery : Battery)
  | storeTelemetry (events : List TelemetryEvent)
  | markOffline (ids : List BatteryId)
  | callAlert (call : AlertCall)
  | resolveAlert (now : Timestamp) (alertId : Uuid)

/-- A write.  A battery id that is taken and an event of an unknown battery change
nothing; the detector marks some of the rows, those that nobody has locked. -/
def Database.write (db : Database) : Write → Database
  | .register battery => { db with batteries := db.batteries.insertIgnore battery }
  | .storeTelemetry events =>
      if missingIds db.batteries events ≠ [] then db
      else
        let readings := events.map TelemetryEvent.toTelemetry
        let insertedIds := db.telemetry.returning readings
        let newlyInsertedEvents := events.filter fun event => event.eventId ∈ insertedIds
        { db with
          telemetry := db.telemetry.insertAll readings
          batteryCurrentState :=
            (upsertCurrentState db.batteryCurrentState newlyInsertedEvents).2 }
  | .markOffline ids =>
      { db with batteryCurrentState := markOfflineAll ids db.batteryCurrentState }
  | .callAlert call => { db with alerts := call.run db.alerts }
  | .resolveAlert now alertId => db.step .default (.resolve now alertId)

/-- A transaction commits: its writes become visible at once. -/
def Database.commit (db : Database) (writes : List Write) : Database :=
  writes.foldl Database.write db

/-- One transaction after the other. -/
def Database.commitAll (db : Database) (transactions : List (List Write)) : Database :=
  transactions.foldl Database.commit db

/-! ### Who is registered, and who is online -/

/-- The ids of the registered batteries. -/
def Database.registeredIds (db : Database) : List BatteryId :=
  db.batteries.rows.map Battery.batteryId

/-- The battery has a current-state row, and one that is not `OFFLINE`. -/
def Database.isOnline (db : Database) (batteryId : BatteryId) : Bool :=
  (db.currentState batteryId).any fun row => row.status ≠ .offline

/-- A write unregisters nobody. -/
theorem Database.registeredIds_write (db : Database) (write : Write) :
    db.registeredIds ⊆ (db.write write).registeredIds := by
  cases write with
  | register battery =>
      by_cases fresh : db.batteries.lookup battery.batteryId = none
      · rw [registeredIds, registeredIds, Database.write, Table.insertIgnore_of_none fresh,
          List.map_append]
        exact List.subset_append_left ..
      · rw [registeredIds, registeredIds, Database.write, Table.insertIgnore_of_ne_none fresh]
        exact List.Subset.refl _
  | storeTelemetry events =>
      simp only [Database.write]
      split
      · exact List.Subset.refl _
      · exact List.Subset.refl _
  | markOffline ids => exact List.Subset.refl _
  | callAlert call => exact List.Subset.refl _
  | resolveAlert now alertId =>
      simp only [Database.write, Database.step]
      split
      · exact List.Subset.refl _
      · exact List.Subset.refl _

/-- Nor do transactions. -/
theorem Database.registeredIds_commitAll (db : Database) (transactions : List (List Write)) :
    db.registeredIds ⊆ (db.commitAll transactions).registeredIds := by
  refine @foldl_invariant Database (List Write) Database.commit
    (fun reached => db.registeredIds ⊆ reached.registeredIds) ?_ db (List.Subset.refl _)
    transactions
  intro start writes sofar
  exact @foldl_invariant Database Write Database.write
    (fun reached => db.registeredIds ⊆ reached.registeredIds)
    (fun reached write stays => List.Subset.trans stays (reached.registeredIds_write write))
    start sofar writes

end VoltStream.Backend
