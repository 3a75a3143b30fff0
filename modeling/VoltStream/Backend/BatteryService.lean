/-
Module: VoltStream.Backend.BatteryService
Purpose: The batteries as the API registers, lists and shows them, one complete request at a
  time.
Trusted boundary: human-reviewed spec of `register_battery`, `list_batteries` and
  `get_battery_detail` in `app/services/battery_service.py` and of `create_battery` in
  `app/api/batteries.py`; ids compare character by character
Main exports: registerBattery, RegistrationPayload.validate, RegistrationAnswer,
  createBattery, BatteryFilters, BatteryFilters.selects, Database.selectedBatteries,
  listBatteries, getBatteryDetail
-/
import VoltStream.Backend.Registration
import VoltStream.Backend.Validation

namespace VoltStream.Backend

open Relational

/-! ### Registration -/

/-- `register_battery` at server clock `now`, from its lookup to its commit. -/
def registerBattery (request : BatteryRegistrationRequest) (now : Timestamp)
    (batteries : Table Battery Battery.batteryId) :
    RegistrationOutcome × Table Battery Battery.batteryId :=
  match batteries.lookup request.batteryId with
  | some existing => (answerExisting existing request, batteries)
  | none =>
      (.registered (request.toBattery now) true, batteries.insertIgnore (request.toBattery now))

theorem positiveFaults_eq_nil_iff {field : String} {value : ℚ} :
    positiveFaults field value = [] ↔ 0 < value := by
  unfold positiveFaults
  split_ifs with faulty
  · exact iff_of_false (by simp) faulty.not_gt
  · exact iff_of_true rfl (not_le.mp faulty)

theorem coordinateFaults_eq_nil_iff {field : String} {low high : ℚ} {value : Option ℚ} :
    value.elim [] (boundFaults field low high) = [] ↔
      ∀ degrees ∈ value, low ≤ degrees ∧ degrees ≤ high := by
  cases value with
  | none => simp
  | some degrees => simp [boundFaults_eq_nil_iff]

/-- What a registration without faults meets. -/
structure RegistrationPayload.InBounds (payload : RegistrationPayload) : Prop where
  batteryId : batteryIdFaults payload.batteryId = []
  capacityKwh : 0 < payload.capacityKwh
  maxPowerKw : 0 < payload.maxPowerKw
  nominalVoltage : 0 < payload.nominalVoltage
  latitude : ∀ degrees ∈ payload.latitude, -90 ≤ degrees ∧ degrees ≤ 90
  longitude : ∀ degrees ∈ payload.longitude, -180 ≤ degrees ∧ degrees ≤ 180

theorem RegistrationPayload.faults_eq_nil_iff (payload : RegistrationPayload) :
    payload.faults = [] ↔ payload.InBounds := by
  simp only [faults, List.append_eq_nil_iff, positiveFaults_eq_nil_iff,
    coordinateFaults_eq_nil_iff]
  constructor
  · rintro ⟨⟨⟨⟨⟨batteryId, capacityKwh⟩, maxPowerKw⟩, nominalVoltage⟩, latitude⟩, longitude⟩
    exact ⟨batteryId, capacityKwh, maxPowerKw, nominalVoltage, latitude, longitude⟩
  · rintro ⟨batteryId, capacityKwh, maxPowerKw, nominalVoltage, latitude, longitude⟩
    exact ⟨⟨⟨⟨⟨batteryId, capacityKwh⟩, maxPowerKw⟩, nominalVoltage⟩, latitude⟩, longitude⟩

/-- `BatteryRegistrationRequest`: the request, or the faults of the `422`.  A body that does
not name an installation date has none. -/
def RegistrationPayload.validate (payload : RegistrationPayload) :
    Except (List FieldFault) BatteryRegistrationRequest :=
  if clean : payload.faults = [] then
    let inBounds := payload.faults_eq_nil_iff.mp clean
    .ok
      { batteryId := payload.batteryId
        capacityKwh := payload.capacityKwh
        maxPowerKw := payload.maxPowerKw
        nominalVoltage := payload.nominalVoltage
        latitude := payload.latitude
        longitude := payload.longitude
        installationDate := none
        profileType := payload.profileType
        capacityKwhBound := inBounds.capacityKwh
        maxPowerKwBound := inBounds.maxPowerKw
        nominalVoltageBound := inBounds.nominalVoltage
        latitudeBounds := inBounds.latitude
        longitudeBounds := inBounds.longitude }
  else .error payload.faults

/-- The response of `POST /api/v1/batteries`: a battery, the faults of a `422`, the envelope
of an `APIError`, or the `500` of an unhandled exception. -/
inductive RegistrationAnswer where
  | success (statusCode : Nat) (battery : Battery)
  | unprocessable (faults : List FieldFault)
  | apiError (error : APIError)
  | serverError
deriving Repr, DecidableEq

def RegistrationAnswer.statusCode : RegistrationAnswer → Nat
  | .success statusCode _ => statusCode
  | .unprocessable _ => 422
  | .apiError error => error.statusCode
  | .serverError => 500

/-- `create_battery` makes a response of how the registration has ended. -/
def RegistrationOutcome.answer : RegistrationOutcome → RegistrationAnswer
  | .registered battery created => .success (if created then 201 else 200) battery
  | .rejected error => .apiError error
  | .integrityError => .serverError

/-- `POST /api/v1/batteries`. -/
def createBattery (payload : RegistrationPayload) (now : Timestamp)
    (batteries : Table Battery Battery.batteryId) :
    RegistrationAnswer × Table Battery Battery.batteryId :=
  match payload.validate with
  | .error faults => (.unprocessable faults, batteries)
  | .ok request =>
      let (outcome, after) := registerBattery request now batteries
      (outcome.answer, after)

/-! ### Reading -/

/-- The optional query parameters, which one may combine. -/
structure BatteryFilters where
  status : Option BatteryStatus := none
  minSoc : Option ℚ := none
  maxSoc : Option ℚ := none
deriving Repr, DecidableEq

/-- The `WHERE` clause over the outer join: a comparison with the columns of a missing row is
not true, and a filter that is not given compares nothing. -/
def BatteryFilters.selects (filters : BatteryFilters)
    (row : Battery × Option BatteryCurrentState) : Bool :=
  filters.status.all (fun status => row.2.any fun state => state.status = status) &&
    filters.minSoc.all (fun low => row.2.any fun state => low ≤ state.stateOfCharge) &&
    filters.maxSoc.all (fun high => row.2.any fun state => state.stateOfCharge ≤ high)

/-- `base_query`: every battery with its current state, as far as the filters select it. -/
def Database.selectedBatteries (db : Database) (filters : BatteryFilters) :
    List (Battery × Option BatteryCurrentState) :=
  (db.batteries.rows.map fun battery => (battery, db.currentState battery.batteryId)).filter
    filters.selects

/-- `list_batteries`: this page, and how many batteries the filters select in total.  The
statement for the page sees the database as it is when that statement starts. -/
def listBatteries (counted read : Database) (filters : BatteryFilters) (limit offset : Nat) :
    List (Battery × Option BatteryCurrentState) × Nat :=
  let ordered := (read.selectedBatteries filters).insertionSort fun first second =>
    first.1.batteryId ≤ second.1.batteryId
  ((ordered.drop offset).take limit, (counted.selectedBatteries filters).length)

/-- `get_battery_detail`. -/
def getBatteryDetail (db : Database) (batteryId : BatteryId) :
    Except APIError (Battery × Option BatteryCurrentState) :=
  match db.batteries.lookup batteryId with
  | none =>
      .error
        { statusCode := 404
          code := "BATTERY_NOT_FOUND"
          message := s!"Battery {batteryId} was not found" }
  | some battery => .ok (battery, db.currentState batteryId)

end VoltStream.Backend
