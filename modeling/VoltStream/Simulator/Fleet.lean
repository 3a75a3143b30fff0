/-
Module: VoltStream.Simulator.Fleet
Purpose: A fleet of simulated batteries, and what it sends to the backend: the
  registration of a battery and the event of a tick.
Trusted boundary: human-reviewed spec of `FleetConfig`, `build_fleet` and `_make_event`
  in `simulator/fleet.py` and of `register_battery` in `simulator/client.py`
Main exports: FleetConfig, profileForIndex, deviceBatteryId, buildFleet, makeEvent,
  registrationPayload
-/
import VoltStream.Numeric.Decimal
import VoltStream.Backend.Validation
import VoltStream.Simulator.Battery

namespace VoltStream.Simulator

open Numeric (roundHalfEven)
open Backend (ProfileType Timestamp Uuid TelemetryPayload RegistrationPayload)

/-- `FleetConfig`; what `__post_init__` checks is a field.  The seed, which only feeds
the random generators, is left out; `round` is how the float arithmetic rounds. -/
structure FleetConfig where
  deviceCount : Nat
  telemetryIntervalSeconds : ℚ
  faultRate : ℚ
  capacityKwh : ℚ := 10
  maxPowerKw : ℚ := 5
  nominalVoltage : ℚ := 48
  round : ℚ → ℚ := id
  deviceCountBound : 1 ≤ deviceCount
  telemetryIntervalBound : 0 < telemetryIntervalSeconds
  faultRateBounds : 0 ≤ faultRate ∧ faultRate ≤ 1

/-- The hardware is the one that `FleetConfig` has by default. -/
structure FleetConfig.HasDefaultHardware (config : FleetConfig) : Prop where
  capacityKwh : config.capacityKwh = 10
  maxPowerKw : config.maxPowerKw = 5
  nominalVoltage : config.nominalVoltage = 48

/-- `_NORMAL_PROFILES`, taken in turns. -/
def normalProfile (index : Nat) : ProfileType :=
  match index % 3 with
  | 0 => .residential
  | 1 => .solar
  | _ => .commercial

/-- `_profile_for_index`: the product is rounded to a float before `round` makes it a whole
number. -/
def profileForIndex (round : ℚ → ℚ) (index deviceCount : Nat) (faultRate : ℚ) : ProfileType :=
  let faultCount := (roundHalfEven (round (deviceCount * faultRate))).toNat
  if index < faultCount then .faulty else normalProfile (index - faultCount)

/-- The `battery_id` of the device with this index: `f"BAT-{index + 1:06d}"`. -/
def deviceBatteryId (index : Nat) : String :=
  String.ofList ('B' :: 'A' :: 'T' :: '-' :: Numeric.zeroPadded 6 (index + 1))

/-- The battery that `build_fleet` creates for this index. -/
def buildBattery (config : FleetConfig) (index : Nat) : Physics.Battery :=
  Physics.Battery.postInit
    { batteryId := deviceBatteryId index
      capacityKwh := config.capacityKwh
      maxPowerKw := config.maxPowerKw
      nominalVoltage := config.nominalVoltage
      profileType :=
        profileForIndex config.round index config.deviceCount config.faultRate }

/-- `build_fleet`. -/
def buildFleet (config : FleetConfig) : List Physics.Battery :=
  (List.range config.deviceCount).map (buildBattery config)

/-- `_make_event`, with what `uuid4()` and `now(timezone.utc)` give. -/
def makeEvent (battery : Physics.Battery) (eventId : Uuid) (timestamp : Timestamp) :
    TelemetryPayload where
  eventId := eventId
  eventIdVersion := 4
  batteryId := battery.batteryId
  timestamp := timestamp
  timezoneAware := true
  stateOfCharge := battery.stateOfCharge
  voltage := battery.voltage
  current := battery.current
  powerKw := battery.powerKw
  temperatureC := battery.temperatureC
  healthPercent := battery.healthPercent
  status := battery.status.value

/-- The body that `register_battery` sends. -/
def registrationPayload (battery : Physics.Battery) : RegistrationPayload where
  batteryId := battery.batteryId
  capacityKwh := battery.capacityKwh
  maxPowerKw := battery.maxPowerKw
  nominalVoltage := battery.nominalVoltage
  latitude := battery.latitude
  longitude := battery.longitude
  profileType := battery.profileType

example : deviceBatteryId 420 = "BAT-000421" := by decide

end VoltStream.Simulator
