/-
Module: VoltStream.Simulator.Profiles
Purpose: The power that a usage profile asks for at an hour of the day, and a device that
  follows its profile, reading after reading.
Trusted boundary: human-reviewed spec of `simulator/profiles.py` and of `_run_battery` in
  `simulator/fleet.py`
Main exports: hourlyPowerFraction, ProfileError, basePowerFraction, requestedPowerKw, Turn,
  runTurn, runBattery
-/
import VoltStream.Simulator.Fleet

namespace VoltStream.Simulator

open Backend (ProfileType Timestamp Uuid TelemetryPayload hourOfDay)

/-- A row of the table: `range(start, stop)` and the fraction of `max_power_kw`. -/
structure HourRange where
  start : Int
  stop : Int
  fraction : ℚ
deriving Repr, DecidableEq

/-- `_HOURLY_POWER_FRACTION`, which has no entry for `FAULTY`. -/
def hourlyPowerFraction : ProfileType → List HourRange
  | .residential =>
      [⟨0, 6, -15 / 100⟩, ⟨6, 9, -35 / 100⟩, ⟨9, 16, -15 / 100⟩, ⟨16, 19, -55 / 100⟩,
        ⟨19, 23, -55 / 100⟩, ⟨23, 24, -25 / 100⟩]
  | .solar =>
      [⟨0, 6, -10 / 100⟩, ⟨6, 9, -5 / 100⟩, ⟨9, 16, 45 / 100⟩, ⟨16, 19, 10 / 100⟩,
        ⟨19, 23, -25 / 100⟩, ⟨23, 24, -15 / 100⟩]
  | .commercial =>
      [⟨0, 6, -5 / 100⟩, ⟨6, 9, -20 / 100⟩, ⟨9, 16, -50 / 100⟩, ⟨16, 19, -50 / 100⟩,
        ⟨19, 23, -20 / 100⟩, ⟨23, 24, -5 / 100⟩]
  | .faulty => []

/-- What `base_power_fraction` can raise. -/
inductive ProfileError where
  | valueError (message : String)
  | assertionError (message : String)
deriving Repr, DecidableEq

/-- `base_power_fraction`: a faulty device behaves like a residential one. -/
def basePowerFraction (profileType : ProfileType) (hourOfDay : Int) : Except ProfileError ℚ :=
  if ¬(0 ≤ hourOfDay ∧ hourOfDay ≤ 23) then
    .error (.valueError s!"hour_of_day must be 0-23, got {hourOfDay}")
  else
    let lookupProfile := if profileType = .faulty then .residential else profileType
    match (hourlyPowerFraction lookupProfile).find? fun range =>
        range.start ≤ hourOfDay ∧ hourOfDay < range.stop with
    | some range => .ok range.fraction
    | none => .error (.assertionError s!"no fraction defined for hour {hourOfDay}")

def variationFraction : ℚ := 5 / 100

/-- `requested_power_kw`, with what `random()` gives in it. -/
def requestedPowerKw (profileType : ProfileType) (maxPowerKw : ℚ) (hourOfDay : Int) (draw : ℚ) :
    Except ProfileError ℚ :=
  (basePowerFraction profileType hourOfDay).map fun fraction =>
    (fraction + Physics.boundedNoise variationFraction draw) * maxPowerKw

/-- What one turn of the loop in `_run_battery` finds: the clock when it asks for the hour
and when it makes the event, the id of the event, and what the generators give. -/
structure Turn where
  now : Timestamp
  timestamp : Timestamp
  eventId : Uuid
  profileDraw : ℚ
  voltageDraw : ℚ
  temperatureDraw : ℚ
  profileDrawBounds : 0 ≤ profileDraw ∧ profileDraw ≤ 1
  voltageDrawBounds : 0 ≤ voltageDraw ∧ voltageDraw ≤ 1
  temperatureDrawBounds : 0 ≤ temperatureDraw ∧ temperatureDraw ≤ 1

/-- The tick of a turn that asks for this power. -/
def Turn.tick (turn : Turn) (config : FleetConfig) (powerKw : ℚ) : Physics.Tick where
  dtSeconds := config.telemetryIntervalSeconds
  requestedPowerKw := powerKw
  voltageDraw := turn.voltageDraw
  temperatureDraw := turn.temperatureDraw
  voltageDrawBounds := turn.voltageDrawBounds
  temperatureDrawBounds := turn.temperatureDrawBounds

/-- One turn, up to the event. -/
def runTurn (config : FleetConfig) (battery : Physics.Battery) (turn : Turn) :
    Except ProfileError Physics.Battery :=
  (requestedPowerKw battery.profileType battery.maxPowerKw (hourOfDay turn.now)
    turn.profileDraw).map fun powerKw => battery.tick (turn.tick config powerKw)

/-- `_run_battery` over these turns: the events that it hands to `on_event`. -/
def runBattery (config : FleetConfig) :
    Physics.Battery → List Turn → Except ProfileError (List TelemetryPayload)
  | _, [] => .ok []
  | battery, turn :: rest =>
      (runTurn config battery turn).bind fun after =>
        (runBattery config after rest).map fun later =>
          makeEvent after turn.eventId turn.timestamp :: later

end VoltStream.Simulator
