/-
Module: VoltStream.Proofs.HealthyDevice
Purpose: A simulated battery over runs of any length: its readings stay plausible, and
  neither its temperature nor its voltage raises an alert.
Trusted boundary: none
Main exports: boundedNoise_bounds, Healthy, healthy_tick, healthy_run, tick_voltage_near,
  healthy_device
-/
import VoltStream.Simulator.Fleet
import VoltStream.Proofs.BaselineExactness

namespace VoltStream.Physics

open Numeric Relational

/-! ### One tick -/

/-- Noise stays within its magnitude. -/
theorem boundedNoise_bounds {magnitude draw : ℚ} (positive : 0 ≤ magnitude)
    (bounds : 0 ≤ draw ∧ draw ≤ 1) :
    -magnitude ≤ boundedNoise magnitude draw ∧ boundedNoise magnitude draw ≤ magnitude := by
  have least : 0 ≤ magnitude * draw := mul_nonneg positive bounds.1
  have most : magnitude * draw ≤ magnitude := mul_le_of_le_one_right positive bounds.2
  unfold boundedNoise
  constructor <;> linarith

namespace Battery

variable {self : Battery}

/-- A tick gives or takes no more than the rated power. -/
theorem abs_applyPowerLimits_le (rated : 0 ≤ self.maxPowerKw) (requestedPowerKw : ℚ) :
    |self.applyPowerLimits requestedPowerKw| ≤ self.maxPowerKw := by
  have within := clamp_bounds (neg_le_self rated) requestedPowerKw
  have limited : ∀ powerKw : ℚ, (powerKw = 0 ∨ powerKw =
      clamp (-self.maxPowerKw) self.maxPowerKw requestedPowerKw) →
      |powerKw| ≤ self.maxPowerKw := by
    rintro powerKw (rfl | rfl)
    · rwa [abs_zero]
    · exact abs_le.mpr within
  apply limited
  unfold applyPowerLimits
  dsimp only
  split_ifs <;> simp

/-- The voltage is within one percent of the one expected for the charge after the
tick. -/
theorem tick_voltage_near (tick : Tick)
    (meaningful : 0 ≤ self.expectedVoltage (self.tick tick).stateOfCharge) :
    |(self.tick tick).voltage - self.expectedVoltage (self.tick tick).stateOfCharge| ≤
      1 / 100 * self.expectedVoltage (self.tick tick).stateOfCharge := by
  have small : 0 ≤ voltageNoiseFraction *
      self.expectedVoltage (self.tick tick).stateOfCharge :=
    mul_nonneg (by norm_num [voltageNoiseFraction]) meaningful
  rw [tick_voltage, add_sub_cancel_left, abs_le]
  exact boundedNoise_bounds small tick.voltageDrawBounds

/-- The temperature goes a tenth of the way to a target above the ambient one, with half
a degree of noise: five degrees below it and twenty above it are never passed. -/
theorem tick_temperatureC_bounds (tick : Tick) (rated : 0 < self.maxPowerKw)
    (bounds : self.ambientTemperatureC - 5 ≤ self.temperatureC ∧
      self.temperatureC ≤ self.ambientTemperatureC + 20) :
    self.ambientTemperatureC - 5 ≤ (self.tick tick).temperatureC ∧
      (self.tick tick).temperatureC ≤ self.ambientTemperatureC + 20 := by
  have load : |self.applyPowerLimits tick.requestedPowerKw| / self.maxPowerKw ≤ 1 :=
    (div_le_one rated).mpr (abs_applyPowerLimits_le rated.le _)
  have loadNonneg : 0 ≤ |self.applyPowerLimits tick.requestedPowerKw| / self.maxPowerKw :=
    div_nonneg (abs_nonneg _) rated.le
  have magnitude : 0 ≤ temperatureNoiseC := by norm_num [temperatureNoiseC]
  have noise := boundedNoise_bounds magnitude tick.temperatureDrawBounds
  have after : (self.tick tick).temperatureC = self.temperatureC + temperatureResponsiveness *
      (self.ambientTemperatureC +
        15 * (|self.applyPowerLimits tick.requestedPowerKw| / self.maxPowerKw) -
          self.temperatureC) + boundedNoise temperatureNoiseC tick.temperatureDraw := by
    rw [Battery.tick, updateTemperature, if_pos rated.ne']
  rw [after]
  simp only [temperatureNoiseC, temperatureResponsiveness] at noise ⊢
  constructor <;> linarith [noise.1, noise.2, bounds.1, bounds.2]

end Battery

/-! ### Runs of a device -/

/-- A battery with the default hardware of a fleet whose state is plausible. -/
structure Healthy (battery : Battery) : Prop where
  capacityKwh : battery.capacityKwh = 10
  maxPowerKw : battery.maxPowerKw = 5
  nominalVoltage : battery.nominalVoltage = 48
  ambientTemperatureC : battery.ambientTemperatureC = 25
  stateOfCharge : 0 ≤ battery.stateOfCharge ∧ battery.stateOfCharge ≤ 100
  temperatureC : 20 ≤ battery.temperatureC ∧ battery.temperatureC ≤ 45

theorem healthy_tick {battery : Battery} (healthy : Healthy battery) (tick : Tick) :
    Healthy (battery.tick tick) where
  capacityKwh := by rw [Battery.tick_capacityKwh, healthy.capacityKwh]
  maxPowerKw := by rw [Battery.tick_maxPowerKw, healthy.maxPowerKw]
  nominalVoltage := by rw [Battery.tick_nominalVoltage, healthy.nominalVoltage]
  ambientTemperatureC := by rw [Battery.tick_ambientTemperatureC, healthy.ambientTemperatureC]
  stateOfCharge := Battery.tick_stateOfCharge_bounds battery tick
  temperatureC := by
    have rated : 0 < battery.maxPowerKw := by
      rw [healthy.maxPowerKw]
      norm_num
    have kept := battery.tick_temperatureC_bounds tick rated
    rw [healthy.ambientTemperatureC] at kept
    norm_num at kept
    exact kept healthy.temperatureC.1 healthy.temperatureC.2

theorem healthy_run {battery : Battery} (healthy : Healthy battery) (ticks : List Tick) :
    Healthy (battery.run ticks) :=
  @foldl_invariant Battery Tick Battery.tick Healthy
    (fun _ tick healthy => healthy_tick healthy tick) battery healthy ticks

section Event

variable {battery : Battery} (healthy : Healthy battery) (tick : Tick)
include healthy

theorem Healthy.expectedVoltage_bounds :
    216 / 5 ≤ battery.expectedVoltage (battery.tick tick).stateOfCharge ∧
      battery.expectedVoltage (battery.tick tick).stateOfCharge ≤ 264 / 5 := by
  have charge := (healthy_tick healthy tick).stateOfCharge
  rw [Battery.expectedVoltage, healthy.nominalVoltage]
  constructor <;> linarith [charge.1, charge.2]

theorem Healthy.voltage_near :
    |(battery.tick tick).voltage - battery.expectedVoltage (battery.tick tick).stateOfCharge| ≤
      1 / 100 * battery.expectedVoltage (battery.tick tick).stateOfCharge :=
  battery.tick_voltage_near tick
    (by linarith [(healthy.expectedVoltage_bounds tick).1])

theorem Healthy.voltage_bounds :
    42 ≤ (battery.tick tick).voltage ∧ (battery.tick tick).voltage ≤ 54 := by
  have expected := healthy.expectedVoltage_bounds tick
  have near := abs_le.mp (healthy.voltage_near tick)
  constructor <;> linarith [expected.1, expected.2, near.1, near.2]

theorem Healthy.powerKw_bounds :
    -5 ≤ (battery.tick tick).powerKw ∧ (battery.tick tick).powerKw ≤ 5 := by
  have rated : 0 ≤ battery.maxPowerKw := by
    rw [healthy.maxPowerKw]
    norm_num
  rw [Battery.tick_powerKw]
  exact abs_le.mp (healthy.maxPowerKw ▸ battery.abs_applyPowerLimits_le rated _)

theorem Healthy.current_bounds :
    -120 ≤ (battery.tick tick).current ∧ (battery.tick tick).current ≤ 120 := by
  have voltage := (healthy.voltage_bounds tick).1
  have power := healthy.powerKw_bounds tick
  have positive : 0 < (battery.tick tick).voltage := by linarith
  rw [Battery.tick_current, currentFromPower, if_neg (not_le.mpr positive)]
  constructor
  · rw [le_div_iff₀ positive]
    linarith [power.1]
  · rw [div_le_iff₀ positive]
    linarith [power.2]

end Event

end VoltStream.Physics

namespace VoltStream.Simulator

open Physics
open Backend (BatteryId Timestamp Uuid Settings TelemetryPayload minPlausibleVoltage
  maxPlausibleVoltage minPlausibleCurrentA maxPlausibleCurrentA minPlausiblePowerKw
  maxPlausiblePowerKw minPlausibleTemperatureC maxPlausibleTemperatureC expectedVoltage
  deviationPercent graded settle highTemperatureGrade evaluateHighTemperature
  voltageAnomalyGrade evaluateVoltageAnomaly)

/-! ### A device of a fleet -/

theorem healthy_of_mem_buildFleet {config : FleetConfig} (hardware : config.HasDefaultHardware)
    {battery : Physics.Battery} (built : battery ∈ buildFleet config) : Healthy battery := by
  obtain ⟨index, -, rfl⟩ := List.mem_map.mp built
  exact
    { capacityKwh := hardware.capacityKwh
      maxPowerKw := hardware.maxPowerKw
      nominalVoltage := hardware.nominalVoltage
      ambientTemperatureC := rfl
      stateOfCharge := by norm_num [buildBattery, Battery.postInit]
      temperatureC := by
        norm_num [buildBattery, Battery.postInit, ambientTemperatureCDefault] }

/-- The event after a tick passes the bounds of the schema. -/
theorem numbersInBounds_of_healthy {battery : Physics.Battery} (healthy : Healthy battery)
    (tick : Tick) (eventId : Uuid) (timestamp : Timestamp) :
    (makeEvent (battery.tick tick) eventId timestamp).NumbersInBounds where
  stateOfCharge := (healthy_tick healthy tick).stateOfCharge
  voltage :=
    ⟨le_trans (by norm_num [minPlausibleVoltage]) (healthy.voltage_bounds tick).1,
      (healthy.voltage_bounds tick).2.trans (by norm_num [maxPlausibleVoltage])⟩
  current :=
    ⟨le_trans (by norm_num [minPlausibleCurrentA]) (healthy.current_bounds tick).1,
      (healthy.current_bounds tick).2.trans (by norm_num [maxPlausibleCurrentA])⟩
  powerKw :=
    ⟨le_trans (by norm_num [minPlausiblePowerKw]) (healthy.powerKw_bounds tick).1,
      (healthy.powerKw_bounds tick).2.trans (by norm_num [maxPlausiblePowerKw])⟩
  temperatureC :=
    ⟨le_trans (by norm_num [minPlausibleTemperatureC])
        (healthy_tick healthy tick).temperatureC.1,
      (healthy_tick healthy tick).temperatureC.2.trans (by norm_num [maxPlausibleTemperatureC])⟩
  healthPercent := Battery.tick_healthPercent_bounds battery tick

theorem numericFaults_of_healthy {battery : Physics.Battery} (healthy : Healthy battery)
    (ticks : List Tick) (last : Tick) (eventId : Uuid) (timestamp : Timestamp) :
    (makeEvent (battery.run (ticks ++ [last])) eventId timestamp).numericFaults = [] := by
  rw [Battery.run_concat, TelemetryPayload.numericFaults_eq_nil_iff]
  exact numbersInBounds_of_healthy (healthy_run healthy ticks) last eventId timestamp

/-- A temperature of the range is far from the warning threshold. -/
theorem evaluateHighTemperature_of_le (batteryId : BatteryId) {temperatureC : ℚ}
    (most : temperatureC ≤ 45) (timestamp : Timestamp) :
    evaluateHighTemperature Settings.default batteryId temperatureC timestamp =
      .resolveAlertIfActive batteryId .highTemperature timestamp := by
  have notCritical : ¬ Settings.default.highTemperatureCriticalC ≤ temperatureC := by
    norm_num [Settings.default]
    linarith
  have noWarning : ¬ Settings.default.highTemperatureWarningC ≤ temperatureC := by
    norm_num [Settings.default]
    linarith
  rw [evaluateHighTemperature, highTemperatureGrade, graded, if_neg notCritical,
    if_neg noWarning, settle]

/-- A voltage within one percent of the expected one is no anomaly. -/
theorem evaluateVoltageAnomaly_of_near (batteryId : BatteryId)
    {voltage stateOfCharge nominalVoltage : ℚ}
    (meaningful : 0 < expectedVoltage nominalVoltage stateOfCharge)
    (near : |voltage - expectedVoltage nominalVoltage stateOfCharge| ≤
      1 / 100 * expectedVoltage nominalVoltage stateOfCharge) (timestamp : Timestamp) :
    evaluateVoltageAnomaly Settings.default batteryId voltage stateOfCharge nominalVoltage
        timestamp = some (.resolveAlertIfActive batteryId .voltageAnomaly timestamp) := by
  have deviation : deviationPercent voltage (expectedVoltage nominalVoltage stateOfCharge) ≤ 1 := by
    have fraction := (div_le_iff₀ meaningful).mpr near
    rw [deviationPercent]
    linarith
  have notCritical : ¬ Settings.default.voltageAnomalyCriticalPercent ≤
      deviationPercent voltage (expectedVoltage nominalVoltage stateOfCharge) := by
    norm_num [Settings.default]
    linarith
  have noWarning : ¬ Settings.default.voltageAnomalyWarningPercent ≤
      deviationPercent voltage (expectedVoltage nominalVoltage stateOfCharge) := by
    norm_num [Settings.default]
    linarith
  simp only [evaluateVoltageAnomaly, if_neg (not_le.mpr meaningful), voltageAnomalyGrade, graded,
    if_neg notCritical, if_neg noWarning, settle]

/-- For every fleet with the default hardware, each of its batteries and every run of
ticks: the event of the last tick is within all bounds of the schema, and the rules for
high temperature and for voltage find nothing in it. -/
theorem healthy_device (config : FleetConfig) (hardware : config.HasDefaultHardware)
    (battery : Physics.Battery) (built : battery ∈ buildFleet config) (ticks : List Tick)
    (last : Tick) (eventId : Uuid) (timestamp : Timestamp) :
    let event := makeEvent (battery.run (ticks ++ [last])) eventId timestamp
    event.numericFaults = [] ∧
      evaluateHighTemperature Settings.default event.batteryId event.temperatureC
          event.timestamp =
        .resolveAlertIfActive event.batteryId .highTemperature event.timestamp ∧
      evaluateVoltageAnomaly Settings.default event.batteryId event.voltage event.stateOfCharge
          config.nominalVoltage event.timestamp =
        some (.resolveAlertIfActive event.batteryId .voltageAnomaly event.timestamp) := by
  intro event
  have healthy : Healthy (battery.run ticks) :=
    healthy_run (healthy_of_mem_buildFleet hardware built) ticks
  have isEvent : event = makeEvent ((battery.run ticks).tick last) eventId timestamp := by
    rw [← Battery.run_concat]
  have sameModel : ∀ stateOfCharge : ℚ,
      expectedVoltage config.nominalVoltage stateOfCharge =
        (battery.run ticks).expectedVoltage stateOfCharge := by
    intro stateOfCharge
    rw [expectedVoltage, Battery.expectedVoltage, hardware.nominalVoltage,
      healthy.nominalVoltage]
  refine ⟨numericFaults_of_healthy (healthy_of_mem_buildFleet hardware built) ticks last _ _,
    evaluateHighTemperature_of_le _ ?_ _, evaluateVoltageAnomaly_of_near _ ?_ ?_ _⟩
  · rw [isEvent]
    exact (healthy_tick healthy last).temperatureC.2
  · rw [isEvent, sameModel]
    exact lt_of_lt_of_le (by norm_num) (healthy.expectedVoltage_bounds last).1
  · rw [isEvent, sameModel]
    exact healthy.voltage_near last

theorem sampleFleet_positive : 1 ≤ 3 := by decide

theorem fiveMinutes_pos : (0 : ℚ) < 300 := by norm_num

theorem aThird_bounds : (0 : ℚ) ≤ 1 / 3 ∧ (1 : ℚ) / 3 ≤ 1 := by norm_num

/-- Three devices that report every five minutes. -/
def sampleFleet : FleetConfig where
  deviceCount := 3
  telemetryIntervalSeconds := 300
  faultRate := 1 / 3
  deviceCountBound := sampleFleet_positive
  telemetryIntervalBound := fiveMinutes_pos
  faultRateBounds := aThird_bounds

theorem lowest_draw : (0 : ℚ) ≤ 0 ∧ (0 : ℚ) ≤ 1 := by norm_num

theorem highest_draw : (0 : ℚ) ≤ 1 ∧ (1 : ℚ) ≤ 1 := by norm_num

/-- Five minutes that ask for this power, with all the noise there can be. -/
def fiveMinutes (requestedPowerKw : ℚ) : Tick where
  dtSeconds := 300
  requestedPowerKw := requestedPowerKw
  voltageDraw := 0
  temperatureDraw := 1
  voltageDrawBounds := lowest_draw
  temperatureDrawBounds := highest_draw

/-- Two hours and a half of charging and two of discharging, at more than the rated power. -/
def chargeAndDischarge : List Tick :=
  List.replicate 30 (fiveMinutes 20) ++ List.replicate 24 (fiveMinutes (-20))

/-- The last device of the fleet after these hours and five minutes more. -/
theorem sample_healthy_device :
    let battery := buildBattery sampleFleet 2
    let event := makeEvent (battery.run (chargeAndDischarge ++ [fiveMinutes (-20)])) 1 0
    event.batteryId = "BAT-000003" ∧ event.stateOfCharge = 0 ∧ event.numericFaults = [] ∧
      evaluateHighTemperature Settings.default event.batteryId event.temperatureC
          event.timestamp =
        .resolveAlertIfActive event.batteryId .highTemperature event.timestamp ∧
      evaluateVoltageAnomaly Settings.default event.batteryId event.voltage event.stateOfCharge
          sampleFleet.nominalVoltage event.timestamp =
        some (.resolveAlertIfActive event.batteryId .voltageAnomaly event.timestamp) := by
  intro battery event
  have isDevice : event.batteryId = "BAT-000003" ∧ event.stateOfCharge = 0 := by decide +kernel
  exact ⟨isDevice.1, isDevice.2, healthy_device sampleFleet ⟨rfl, rfl, rfl⟩ battery
    (List.mem_map.mpr ⟨2, List.mem_range.mpr (by decide), rfl⟩) chargeAndDischarge
    (fiveMinutes (-20)) 1 0⟩

end VoltStream.Simulator
