/-
Module: VoltStream.Simulator.Battery
Purpose: One simulated battery: its electrical state, and how a tick moves it.
Trusted boundary: human-reviewed spec of `simulator/battery.py`
Main exports: BatteryStatus, Battery, Battery.postInit, Tick, Battery.tick,
  Battery.run
-/
import VoltStream.Backend.Schema
import VoltStream.Numeric.Clamp

namespace VoltStream.Physics

open Numeric
open Backend (ProfileType TelemetryStatus)

/-- `BatteryStatus`: what a simulator is allowed to report. -/
inductive BatteryStatus where
  | charging
  | discharging
  | idle
  | fault
deriving Repr, Inhabited, DecidableEq

/-- The wire value of a status. -/
def BatteryStatus.value : BatteryStatus → TelemetryStatus
  | .charging => .charging
  | .discharging => .discharging
  | .idle => .idle
  | .fault => .fault

def ambientTemperatureCDefault : ℚ := 25
def temperatureResponsiveness : ℚ := 10 / 100
def temperatureNoiseC : ℚ := 5 / 10
def voltageNoiseFraction : ℚ := 1 / 100
def healthDegradationPerEfc : ℚ := 2 / 100
def idlePowerThresholdKw : ℚ := 1 / 10

/-- `Battery`, less its random generator: what that draws is part of a `Tick`. -/
structure Battery where
  batteryId : String
  capacityKwh : ℚ
  maxPowerKw : ℚ
  nominalVoltage : ℚ
  profileType : ProfileType
  latitude : Option ℚ := none
  longitude : Option ℚ := none
  stateOfCharge : ℚ := 50
  voltage : ℚ := 0
  current : ℚ := 0
  powerKw : ℚ := 0
  temperatureC : ℚ := ambientTemperatureCDefault
  healthPercent : ℚ := 100
  status : BatteryStatus := .idle
  ambientTemperatureC : ℚ := ambientTemperatureCDefault
deriving Repr, DecidableEq

/-- The arguments of one `tick`, with the two numbers that `random()` gives in it. -/
structure Tick where
  dtSeconds : ℚ
  requestedPowerKw : ℚ
  voltageDraw : ℚ
  temperatureDraw : ℚ
  voltageDrawBounds : 0 ≤ voltageDraw ∧ voltageDraw ≤ 1
  temperatureDrawBounds : 0 ≤ temperatureDraw ∧ temperatureDraw ≤ 1

/-- `_bounded_noise`: `uniform(-magnitude, magnitude)`. -/
def boundedNoise (magnitude draw : ℚ) : ℚ := -magnitude + (magnitude - -magnitude) * draw

/-- `_current_from_power`. -/
def currentFromPower (powerKw voltage : ℚ) : ℚ :=
  if voltage ≤ 0 then 0 else powerKw * 1000 / voltage

/-- `_derive_status`. -/
def deriveStatus (powerKw : ℚ) : BatteryStatus :=
  if |powerKw| < idlePowerThresholdKw then .idle
  else if 0 < powerKw then .charging
  else .discharging

namespace Battery

variable (self : Battery)

/-- `_apply_power_limits`. -/
def applyPowerLimits (requestedPowerKw : ℚ) : ℚ :=
  let powerKw := clamp (-self.maxPowerKw) self.maxPowerKw requestedPowerKw
  let powerKw := if 100 ≤ self.stateOfCharge ∧ 0 < powerKw then 0 else powerKw
  if self.stateOfCharge ≤ 0 ∧ powerKw < 0 then 0 else powerKw

/-- `_update_soc`: the state of charge that it sets, for a capacity other than 0, by
which the source divides. -/
def updateSoc (powerKw dtHours : ℚ) : ℚ :=
  let storedEnergyKwh := self.capacityKwh * self.stateOfCharge / 100
  let energyChangeKwh := powerKw * dtHours
  let newEnergyKwh := storedEnergyKwh + energyChangeKwh
  let newSoc := newEnergyKwh / self.capacityKwh * 100
  clamp 0 100 newSoc

/-- `_expected_voltage`, at this state of charge. -/
def expectedVoltage (stateOfCharge : ℚ) : ℚ :=
  let socFraction := stateOfCharge / 100
  self.nominalVoltage * (9 / 10 + 2 / 10 * socFraction)

/-- `_update_temperature`: the temperature that it sets. -/
def updateTemperature (powerKw draw : ℚ) : ℚ :=
  let loadFraction := if self.maxPowerKw ≠ 0 then |powerKw| / self.maxPowerKw else 0
  let targetTemperature := self.ambientTemperatureC + 15 * loadFraction
  self.temperatureC + temperatureResponsiveness * (targetTemperature - self.temperatureC) +
    boundedNoise temperatureNoiseC draw

/-- `_update_health`: the health that it sets. -/
def updateHealth (powerKw dtHours : ℚ) : ℚ :=
  let energyThisTickKwh := |powerKw| * dtHours
  let efcThisTick := energyThisTickKwh / (2 * self.capacityKwh)
  let degradation := healthDegradationPerEfc * efcThisTick
  clamp 0 100 (self.healthPercent - degradation)

/-- `__post_init__`: the voltage starts out consistent with the state of charge. -/
def postInit : Battery := { self with voltage := self.expectedVoltage self.stateOfCharge }

/-- `tick`.  The power limits look at the state of charge before the tick, the voltage
at the one after it. -/
def tick (tick : Tick) : Battery :=
  let dtHours := tick.dtSeconds / 3600
  let powerKw := self.applyPowerLimits tick.requestedPowerKw
  let stateOfCharge := self.updateSoc powerKw dtHours
  let expected := self.expectedVoltage stateOfCharge
  let voltage := expected + boundedNoise (voltageNoiseFraction * expected) tick.voltageDraw
  { self with
    powerKw := powerKw
    stateOfCharge := stateOfCharge
    voltage := voltage
    current := currentFromPower powerKw voltage
    temperatureC := self.updateTemperature powerKw tick.temperatureDraw
    healthPercent := self.updateHealth powerKw dtHours
    status := deriveStatus powerKw }

/-- Tick after tick. -/
def run (ticks : List Tick) : Battery := ticks.foldl tick self

end Battery

/-! ### What a tick does to each field -/

namespace Battery

variable (self : Battery) (tick : Tick)

@[simp] theorem tick_batteryId : (self.tick tick).batteryId = self.batteryId := by
  rw [Battery.tick]

@[simp] theorem tick_capacityKwh : (self.tick tick).capacityKwh = self.capacityKwh := by
  rw [Battery.tick]

@[simp] theorem tick_maxPowerKw : (self.tick tick).maxPowerKw = self.maxPowerKw := by
  rw [Battery.tick]

@[simp] theorem tick_nominalVoltage :
    (self.tick tick).nominalVoltage = self.nominalVoltage := by
  rw [Battery.tick]

@[simp] theorem tick_ambientTemperatureC :
    (self.tick tick).ambientTemperatureC = self.ambientTemperatureC := by
  rw [Battery.tick]

theorem tick_powerKw :
    (self.tick tick).powerKw = self.applyPowerLimits tick.requestedPowerKw := rfl

theorem tick_status :
    (self.tick tick).status = deriveStatus (self.applyPowerLimits tick.requestedPowerKw) := by
  rw [Battery.tick]

/-- The change of the state of charge that power brings over some seconds. -/
def socChange (powerKw dtSeconds : ℚ) : ℚ :=
  powerKw * dtSeconds / (36 * self.capacityKwh)

theorem tick_stateOfCharge (capacity : self.capacityKwh ≠ 0) :
    (self.tick tick).stateOfCharge =
      clamp 0 100 (self.stateOfCharge +
        self.socChange (self.applyPowerLimits tick.requestedPowerKw) tick.dtSeconds) := by
  have same : ∀ powerKw : ℚ,
      (self.capacityKwh * self.stateOfCharge / 100 + powerKw * (tick.dtSeconds / 3600)) /
          self.capacityKwh * 100 =
        self.stateOfCharge + self.socChange powerKw tick.dtSeconds := by
    intro powerKw
    rw [socChange]
    field_simp
    ring
  exact congrArg (clamp 0 100) (same _)

theorem tick_voltage :
    (self.tick tick).voltage = self.expectedVoltage (self.tick tick).stateOfCharge +
      boundedNoise (voltageNoiseFraction * self.expectedVoltage (self.tick tick).stateOfCharge)
        tick.voltageDraw :=
  rfl

theorem tick_current :
    (self.tick tick).current =
      currentFromPower (self.tick tick).powerKw (self.tick tick).voltage := rfl

end Battery

end VoltStream.Physics
