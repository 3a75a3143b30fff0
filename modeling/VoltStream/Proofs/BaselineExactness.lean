/-
Module: VoltStream.Proofs.BaselineExactness
Purpose: The physics baseline against the simulator's physics: a battery that goes on
  discharging as it does reaches the critical charge when the baseline says so.
Trusted boundary: none
Main exports: ratedPower_again, baseline_exact
-/
import VoltStream.Proofs.TickGranularity
import VoltStream.Backend.PredictionService

namespace VoltStream.Physics

open Numeric
open Backend (computeBaselinePrediction computeBaselinePrediction_available
  BaselinePredictionResult minutesRemaining)

namespace Battery

variable {self : Battery}

/-! ### Power -/

/-- The status of a tick is `DISCHARGING` exactly with this much power. -/
theorem deriveStatus_eq_discharging_iff (powerKw : ℚ) :
    deriveStatus powerKw = .discharging ↔ powerKw ≤ -idlePowerThresholdKw := by
  have positive : 0 < idlePowerThresholdKw := by norm_num [idlePowerThresholdKw]
  unfold deriveStatus
  by_cases little : |powerKw| < idlePowerThresholdKw
  · rw [if_pos little]
    exact iff_of_false (by simp) (not_le.mpr (abs_lt.mp little).1)
  · rw [if_neg little]
    by_cases charges : 0 < powerKw
    · rw [if_pos charges]
      exact iff_of_false (by simp) (by linarith)
    · rw [if_neg charges]
      rw [abs_of_nonpos (not_lt.mp charges)] at little
      exact iff_of_true rfl (by linarith)

/-- The rating allows all of the power that a battery of this rating has given once. -/
theorem ratedPower_again {earlier : Battery} {requestedPowerKw powerKw : ℚ}
    (sameHardware : self.maxPowerKw = earlier.maxPowerKw)
    (given : earlier.applyPowerLimits requestedPowerKw = powerKw) (discharges : powerKw < 0) :
    self.ratedPower powerKw = powerKw := by
  -- What was given is the requested power within the rating: no limit made it 0.
  have clamped : earlier.ratedPower requestedPowerKw = powerKw := by
    rw [← given]
    refine (applyPowerLimits_of_not_isCutOff fun cutOff => ?_).symm
    exact discharges.ne (given.symm.trans (applyPowerLimits_of_isCutOff cutOff))
  have atLeast : -earlier.maxPowerKw ≤ powerKw := clamped ▸ le_max_left ..
  rw [ratedPower, sameHardware]
  exact clamp_of_bounds atLeast (by linarith)

/-! ### The charge under steady power -/

/-- Over the time that the baseline gives, steady power takes the charge down to the
critical one. -/
theorem socChange_minutesRemaining {stateOfCharge powerKw criticalSocPercent : ℚ}
    (capacity : 0 < self.capacityKwh) (discharges : powerKw < 0) :
    self.socChange powerKw
        (60 * minutesRemaining id self.capacityKwh stateOfCharge powerKw criticalSocPercent) =
      criticalSocPercent - stateOfCharge := by
  have moves : powerKw ≠ 0 := discharges.ne
  have holds : self.capacityKwh ≠ 0 := capacity.ne'
  rw [socChange, minutesRemaining, abs_of_neg discharges]
  dsimp only [id]
  field_simp
  ring

/-- Less time leaves more charge. -/
theorem socChange_lt {powerKw seconds longer : ℚ} (capacity : 0 < self.capacityKwh)
    (discharges : powerKw < 0) (shorter : seconds < longer) :
    self.socChange powerKw longer < self.socChange powerKw seconds :=
  div_lt_div_of_pos_right (mul_lt_mul_of_neg_left shorter discharges) (by positivity)

end Battery

/-! ### The baseline -/

/-- For every run of a simulated battery that ends in a `DISCHARGING` tick above the
critical charge: the baseline gives a positive time, and however one divides the time
of further ticks that ask for the same power, the charge is critical exactly when that
time is over, and above it before. -/
theorem baseline_exact (battery : Battery) (capacity : 0 < battery.capacityKwh)
    (ticks : List Tick) (last : Tick) (criticalSocPercent : ℚ)
    (critical : 0 ≤ criticalSocPercent) :
    let reached := battery.run (ticks ++ [last])
    reached.status = .discharging → criticalSocPercent < reached.stateOfCharge →
    ∃ minutes, 0 < minutes ∧
      computeBaselinePrediction id (some reached.capacityKwh) (some reached.stateOfCharge)
          (some reached.powerKw) (some (.reported reached.status.value)) criticalSocPercent
          idlePowerThresholdKw = .ok (.minutes minutes) ∧
      ∀ future : List Tick,
        (∀ tick ∈ future,
          0 < tick.dtSeconds ∧ tick.requestedPowerKw = reached.powerKw) →
        ((future.map Tick.dtSeconds).sum = 60 * minutes →
          (reached.run future).stateOfCharge = criticalSocPercent) ∧
        ((future.map Tick.dtSeconds).sum < 60 * minutes →
          criticalSocPercent < (reached.run future).stateOfCharge) := by
  intro reached discharging above
  have isTick : reached = (battery.run ticks).tick last := Battery.run_concat battery ticks last
  have holds : 0 < reached.capacityKwh := by
    rw [Battery.run_capacityKwh]
    exact capacity
  have bounds : 0 ≤ reached.stateOfCharge ∧ reached.stateOfCharge ≤ 100 :=
    isTick ▸ Battery.tick_stateOfCharge_bounds ..
  have given : (battery.run ticks).applyPowerLimits last.requestedPowerKw = reached.powerKw := by
    rw [isTick, Battery.tick_powerKw]
  have power : reached.powerKw ≤ -idlePowerThresholdKw := by
    rw [isTick, Battery.tick_status, given] at discharging
    exact (Battery.deriveStatus_eq_discharging_iff _).mp discharging
  have threshold : 0 < idlePowerThresholdKw := by norm_num [idlePowerThresholdKw]
  have discharges : reached.powerKw < 0 := by linarith
  have enough : idlePowerThresholdKw ≤ |reached.powerKw| := by
    rw [abs_of_neg discharges]
    linarith
  have usable : 0 < reached.stateOfCharge - criticalSocPercent := sub_pos.mpr above
  obtain ⟨minutes, isMinutes⟩ : ∃ minutes, minutes = minutesRemaining id reached.capacityKwh
    reached.stateOfCharge reached.powerKw criticalSocPercent := ⟨_, rfl⟩
  have charge : ∀ future : List Tick,
      (∀ tick ∈ future, 0 < tick.dtSeconds ∧ tick.requestedPowerKw = reached.powerKw) →
      (reached.run future).stateOfCharge =
        clamp 0 100 (reached.stateOfCharge +
          reached.socChange reached.powerKw (future.map Tick.dtSeconds).sum) := by
    intro future steady
    have rated : reached.ratedPower reached.powerKw = reached.powerKw :=
      Battery.ratedPower_again (by rw [isTick, Battery.tick_maxPowerKw]) given discharges
    have charge := Battery.run_stateOfCharge holds bounds future fun tick inFuture =>
      ⟨(steady tick inFuture).1.le, (steady tick inFuture).2⟩
    rw [charge, rated]
  have atCritical : reached.socChange reached.powerKw (60 * minutes) =
      criticalSocPercent - reached.stateOfCharge := by
    rw [isMinutes]
    exact Battery.socChange_minutesRemaining holds discharges
  refine ⟨minutes, ?_, ?_, fun future steady => ⟨fun isOver => ?_, fun notOver => ?_⟩⟩
  · rw [isMinutes]
    have magnitude : 0 < |reached.powerKw| := abs_pos.mpr discharges.ne
    unfold minutesRemaining
    dsimp only [id]
    positivity
  · rw [isMinutes, discharging]
    exact computeBaselinePrediction_available id above enough discharges.ne
  · rw [charge future steady, isOver, atCritical, add_sub_cancel]
    exact clamp_of_bounds critical (above.le.trans bounds.2)
  · rw [charge future steady]
    have more := Battery.socChange_lt holds discharges notOver
    exact lt_max_of_lt_right (lt_min (above.trans_le bounds.2) (by linarith))

/-- An hour at 2 kW leaves it at 80 percent.  From there to 20 percent the baseline gives
three hours, which may be taken in parts of any length. -/
theorem sample_baseline_exact :
    let reached := sampleBattery.run ([] ++ [sampleTick 3600 (-2)])
    reached.stateOfCharge = 80 ∧ reached.status = .discharging ∧
      computeBaselinePrediction id (some reached.capacityKwh) (some reached.stateOfCharge)
        (some reached.powerKw) (some (.reported reached.status.value)) 20
        idlePowerThresholdKw = .ok (.minutes 180) ∧
      (reached.run [sampleTick 7200 (-2), sampleTick 3600 (-2)]).stateOfCharge = 20 := by
  intro reached
  have discharging : reached.status = .discharging := by decide +kernel
  have baseline : computeBaselinePrediction id (some reached.capacityKwh)
      (some reached.stateOfCharge) (some reached.powerKw)
      (some (.reported reached.status.value)) 20 idlePowerThresholdKw = .ok (.minutes 180) := by
    decide +kernel
  obtain ⟨minutes, -, given, exactly⟩ := baseline_exact sampleBattery (by decide +kernel) []
    (sampleTick 3600 (-2)) 20 (by norm_num) discharging (by decide +kernel)
  have isMinutes : minutes = 180 := by
    rw [baseline] at given
    simpa [BaselinePredictionResult.minutes, eq_comm] using given
  refine ⟨by decide +kernel, discharging, baseline, ?_⟩
  refine (exactly [sampleTick 7200 (-2), sampleTick 3600 (-2)] (by decide +kernel)).1 ?_
  rw [isMinutes]
  norm_num [sampleTick]

end VoltStream.Physics
