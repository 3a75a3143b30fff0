/-
Module: VoltStream.Backend.Registration
Purpose: Battery registration under concurrency: the lookup, the insert and the
  commit of each `register_battery` request as steps of its own over the rows of
  the `batteries` table.
Trusted boundary: human-reviewed spec of `battery_service.py`
  (`register_battery`) at READ COMMITTED
Main exports: BatteryRegistrationRequest, matchesExisting, answerExisting,
  RegistrationOutcome, Registration, Registry, Registry.perform, Registry.step,
  Registry.start
-/
import VoltStream.Relational.ReadCommitted
import VoltStream.Backend.Schema

namespace VoltStream.Backend

open Relational

/-- `BatteryRegistrationRequest`: the numeric bounds of the schema are fields. -/
structure BatteryRegistrationRequest where
  batteryId : BatteryId
  capacityKwh : ℚ
  maxPowerKw : ℚ
  nominalVoltage : ℚ
  latitude : Option ℚ
  longitude : Option ℚ
  installationDate : Option Int
  profileType : ProfileType
  capacityKwhBound : 0 < capacityKwh
  maxPowerKwBound : 0 < maxPowerKw
  nominalVoltageBound : 0 < nominalVoltage
  latitudeBounds : ∀ degrees ∈ latitude, -90 ≤ degrees ∧ degrees ≤ 90
  longitudeBounds : ∀ degrees ∈ longitude, -180 ≤ degrees ∧ degrees ≤ 180

/-- The row a new registration inserts, with the server clock it reads. -/
def BatteryRegistrationRequest.toBattery (request : BatteryRegistrationRequest)
    (now : Timestamp) : Battery where
  batteryId := request.batteryId
  capacityKwh := request.capacityKwh
  maxPowerKw := request.maxPowerKw
  nominalVoltage := request.nominalVoltage
  latitude := request.latitude
  longitude := request.longitude
  installationDate := request.installationDate
  profileType := request.profileType
  createdAt := now

/-- `_matches_existing`, over `_IMMUTABLE_FIELDS`. -/
def matchesExisting (existing : Battery) (request : BatteryRegistrationRequest) : Bool :=
  existing.capacityKwh = request.capacityKwh ∧ existing.maxPowerKw = request.maxPowerKw ∧
    existing.nominalVoltage = request.nominalVoltage ∧ existing.latitude = request.latitude ∧
    existing.longitude = request.longitude ∧
    existing.installationDate = request.installationDate ∧
    existing.profileType = request.profileType

/-- How `register_battery` ends: it returns the battery and whether it was
created, raises an `APIError`, or the insert violates the primary key. -/
inductive RegistrationOutcome where
  | registered (battery : Battery) (created : Bool)
  | rejected (error : APIError)
  | integrityError
deriving Repr, DecidableEq

/-- The answer to a request whose lookup has found a battery. -/
def answerExisting (existing : Battery) (request : BatteryRegistrationRequest) :
    RegistrationOutcome :=
  if matchesExisting existing request then .registered existing false
  else
    .rejected
      { statusCode := 409
        code := "BATTERY_CONFIG_CONFLICT"
        message := s!"Battery {request.batteryId} is already registered with " ++
          "different configuration" }

/-- How far a request is: before its lookup, after a lookup that has found
nothing, between its insert and its commit, or done. -/
inductive Registration where
  | waiting
  | unregistered
  | written (battery : Battery)
  | ended (outcome : RegistrationOutcome)
deriving Repr, DecidableEq

/-- The `batteries` table, and the registration each session is serving. -/
structure Registry where
  batteries : BatteryId → Cell Battery
  requests : SessionId → Registration

namespace Registry

def resume (session : SessionId) (state : Registration) (registry : Registry) : Registry :=
  { registry with requests := Function.update registry.requests session state }

/-- The next statement of a session, at server clock `now`.  `none` means that
it waits for the transaction that is inserting the same key, or has ended. -/
def perform (incoming : SessionId → BatteryRegistrationRequest) (registry : Registry)
    (session : SessionId) (now : Timestamp) : Option Registry :=
  let request := incoming session
  let cell := registry.batteries request.batteryId
  match registry.requests session with
  | .waiting =>
      match cell.view session with
      | some existing => some (registry.resume session (.ended (answerExisting existing request)))
      | none => some (registry.resume session .unregistered)
  | .unregistered =>
      if cell.lockedAgainst session then none
      else
        match cell.view session with
        | some _ => some (registry.resume session (.ended .integrityError))
        | none =>
            let battery := request.toBattery now
            some ({ registry with
              batteries := Function.update registry.batteries request.batteryId
                (cell.write session battery) }.resume session (.written battery))
  | .written battery =>
      some ({ registry with
        batteries := fun batteryId => (registry.batteries batteryId).commit session }.resume
          session (.ended (.registered battery true)))
  | .ended _ => none

/-- One turn of a schedule: the session's next statement, if it can be executed. -/
def step (incoming : SessionId → BatteryRegistrationRequest) (registry : Registry)
    (turn : SessionId × Timestamp) : Registry :=
  (registry.perform incoming turn.1 turn.2).getD registry

/-- Before the first lookup, over the batteries registered already. -/
def start (batteries : Table Battery Battery.batteryId) : Registry where
  batteries batteryId := Cell.settled (batteries.lookup batteryId)
  requests _ := .waiting

end Registry

end VoltStream.Backend
