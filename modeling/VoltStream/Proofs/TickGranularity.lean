/-
Module: VoltStream.Proofs.TickGranularity
Purpose: However one divides the time for which one asks a battery for the same power,
  its charge ends up the same; its health ends up no worse than in one tick.
Trusted boundary: none
Main exports: ratedPower, tick_stateOfCharge_rated, run_stateOfCharge, run_healthPercent_ge,
  run_healthPercent, tick_granularity
-/
import VoltStream.Relational.Run
import VoltStream.Simulator.Battery
import VoltStream.Backend.Ingestion

namespace VoltStream.Physics

open Numeric Relational

namespace Battery

variable {self : Battery}

/-! ### Runs -/

theorem run_cons (self : Battery) (tick : Tick) (rest : List Tick) :
    self.run (tick :: rest) = (self.tick tick).run rest := rfl

theorem run_concat (self : Battery) (ticks : List Tick) (last : Tick) :
    self.run (ticks ++ [last]) = (self.run ticks).tick last := by
  simp only [run, List.foldl_append, List.foldl_cons, List.foldl_nil]

theorem run_capacityKwh (self : Battery) (ticks : List Tick) :
    (self.run ticks).capacityKwh = self.capacityKwh :=
  @foldl_invariant Battery Tick tick (fun reached => reached.capacityKwh = self.capacityKwh)
    (fun reached tick same => by rw [tick_capacityKwh, same]) self rfl ticks

/-- A tick leaves the charge between empty and full. -/
theorem tick_stateOfCharge_bounds (self : Battery) (tick : Tick) :
    0 ≤ (self.tick tick).stateOfCharge ∧ (self.tick tick).stateOfCharge ≤ 100 :=
  clamp_bounds (by norm_num) _

/-- A tick leaves the health between none and all of it. -/
theorem tick_healthPercent_bounds (self : Battery) (tick : Tick) :
    0 ≤ (self.tick tick).healthPercent ∧ (self.tick tick).healthPercent ≤ 100 :=
  clamp_bounds (by norm_num) _

/-! ### Power -/

/-- The requested power as far as the rating allows it, whatever the charge. -/
def ratedPower (self : Battery) (requestedPowerKw : ℚ) : ℚ :=
  clamp (-self.maxPowerKw) self.maxPowerKw requestedPowerKw

/-- The battery is full and asked to charge, or empty and asked to discharge. -/
def IsCutOff (self : Battery) (requestedPowerKw : ℚ) : Prop :=
  100 ≤ self.stateOfCharge ∧ 0 < self.ratedPower requestedPowerKw ∨
    self.stateOfCharge ≤ 0 ∧ self.ratedPower requestedPowerKw < 0

theorem ratedPower_tick (self : Battery) (tick : Tick) (requestedPowerKw : ℚ) :
    (self.tick tick).ratedPower requestedPowerKw = self.ratedPower requestedPowerKw := by
  rw [ratedPower, tick_maxPowerKw, ratedPower]

theorem applyPowerLimits_of_isCutOff {requestedPowerKw : ℚ}
    (cutOff : self.IsCutOff requestedPowerKw) : self.applyPowerLimits requestedPowerKw = 0 := by
  unfold applyPowerLimits
  rcases cutOff with full | empty
  · rw [ratedPower] at full
    simp [full]
  · rw [ratedPower] at empty
    simp [empty, empty.2.not_gt]

theorem applyPowerLimits_of_not_isCutOff {requestedPowerKw : ℚ}
    (notCutOff : ¬self.IsCutOff requestedPowerKw) :
    self.applyPowerLimits requestedPowerKw = self.ratedPower requestedPowerKw := by
  rw [IsCutOff, not_or, ratedPower] at notCutOff
  obtain ⟨notFull, notEmpty⟩ := notCutOff
  unfold applyPowerLimits
  simp only [if_neg notFull, if_neg notEmpty]
  rfl

/-! ### The charge -/

/-- Power moves the charge in its own direction. -/
theorem socChange_sign (capacity : 0 < self.capacityKwh) (powerKw : ℚ) :
    (∀ seconds, 0 ≤ seconds → 0 ≤ self.socChange powerKw seconds) ∨
      ∀ seconds, 0 ≤ seconds → self.socChange powerKw seconds ≤ 0 := by
  have divisor : 0 ≤ 36 * self.capacityKwh := by linarith
  rcases le_total 0 powerKw with charges | discharges
  · exact .inl fun seconds lasts => div_nonneg (mul_nonneg charges lasts) divisor
  · exact .inr fun seconds lasts =>
      div_nonpos_of_nonpos_of_nonneg (mul_nonpos_of_nonpos_of_nonneg discharges lasts) divisor

theorem socChange_add (self : Battery) (powerKw seconds more : ℚ) :
    self.socChange powerKw (seconds + more) =
      self.socChange powerKw seconds + self.socChange powerKw more := by
  rw [socChange, socChange, socChange, mul_add, add_div]

/-- A tick moves the charge by the rated power, cut off at the ends: also where the power
is cut off, since that would move it beyond the end at which it is. -/
theorem tick_stateOfCharge_rated (capacity : 0 < self.capacityKwh)
    (bounds : 0 ≤ self.stateOfCharge ∧ self.stateOfCharge ≤ 100) {tick : Tick}
    (lasts : 0 ≤ tick.dtSeconds) :
    (self.tick tick).stateOfCharge =
      clamp 0 100 (self.stateOfCharge +
        self.socChange (self.ratedPower tick.requestedPowerKw) tick.dtSeconds) := by
  rw [tick_stateOfCharge self tick capacity.ne']
  by_cases cutOff : self.IsCutOff tick.requestedPowerKw
  · have still : self.socChange 0 tick.dtSeconds = 0 := by
      rw [socChange, zero_mul, zero_div]
    have divisor : 0 ≤ 36 * self.capacityKwh := by linarith
    rw [applyPowerLimits_of_isCutOff cutOff, still, add_zero,
      clamp_of_bounds bounds.1 bounds.2]
    rcases cutOff with ⟨full, charges⟩ | ⟨empty, discharges⟩
    · have rises : 0 ≤ self.socChange (self.ratedPower tick.requestedPowerKw) tick.dtSeconds :=
        div_nonneg (mul_nonneg charges.le lasts) divisor
      rw [clamp, min_eq_left (by linarith), le_antisymm bounds.2 full, max_eq_right (by norm_num)]
    · have falls : self.socChange (self.ratedPower tick.requestedPowerKw) tick.dtSeconds ≤ 0 :=
        div_nonpos_of_nonpos_of_nonneg (mul_nonpos_of_nonpos_of_nonneg discharges.le lasts)
          divisor
      rw [clamp_of_le (by linarith), max_eq_left (by linarith), le_antisymm empty bounds.1]
  · rw [applyPowerLimits_of_not_isCutOff cutOff]

/-- Ticks that all ask for one power move the charge by what the rating allows of it over
their whole time, cut off once. -/
theorem run_stateOfCharge (capacity : 0 < self.capacityKwh)
    (bounds : 0 ≤ self.stateOfCharge ∧ self.stateOfCharge ≤ 100) {requestedPowerKw : ℚ}
    (ticks : List Tick)
    (steady : ∀ tick ∈ ticks, 0 ≤ tick.dtSeconds ∧ tick.requestedPowerKw = requestedPowerKw) :
    (self.run ticks).stateOfCharge =
      clamp 0 100 (self.stateOfCharge +
        self.socChange (self.ratedPower requestedPowerKw) (ticks.map Tick.dtSeconds).sum) := by
  induction ticks generalizing self with
  | nil =>
      rw [List.map_nil, List.sum_nil, socChange, mul_zero, zero_div, add_zero,
        clamp_of_bounds bounds.1 bounds.2]
      rfl
  | cons tick rest ih =>
      obtain ⟨⟨lasts, asked⟩, restSteady⟩ := List.forall_mem_cons.mp steady
      have restLasts : 0 ≤ (rest.map Tick.dtSeconds).sum :=
        List.sum_nonneg (List.forall_mem_map.mpr fun tick inRest => (restSteady tick inRest).1)
      have later := @ih (self.tick tick) capacity (tick_stateOfCharge_bounds ..) restSteady
      have sameChange : (self.tick tick).socChange = self.socChange := rfl
      rw [run_cons, later, ratedPower_tick, sameChange,
        tick_stateOfCharge_rated capacity bounds lasts, asked, List.map_cons, List.sum_cons,
        socChange_add]
      apply clamp_clamp_add bounds.1 bounds.2
      rcases socChange_sign capacity (self.ratedPower requestedPowerKw) with rises | falls
      · exact .inl ⟨rises _ lasts, rises _ restLasts⟩
      · exact .inr ⟨falls _ lasts, falls _ restLasts⟩

/-! ### The health -/

/-- The health that power costs over some seconds. -/
def wear (self : Battery) (powerKw seconds : ℚ) : ℚ :=
  healthDegradationPerEfc * (|powerKw| * (seconds / 3600) / (2 * self.capacityKwh))

theorem tick_healthPercent (self : Battery) (tick : Tick) :
    (self.tick tick).healthPercent = clamp 0 100 (self.healthPercent -
      self.wear (self.applyPowerLimits tick.requestedPowerKw) tick.dtSeconds) := by
  rw [Battery.tick, wear]
  rfl

theorem wear_zero (self : Battery) (powerKw : ℚ) : self.wear powerKw 0 = 0 := by
  rw [wear, zero_div, mul_zero, zero_div, mul_zero]

theorem wear_add (self : Battery) (powerKw seconds more : ℚ) :
    self.wear powerKw (seconds + more) = self.wear powerKw seconds + self.wear powerKw more := by
  unfold wear
  ring

theorem wear_nonneg (capacity : 0 < self.capacityKwh) (powerKw : ℚ) {seconds : ℚ}
    (lasts : 0 ≤ seconds) : 0 ≤ self.wear powerKw seconds := by
  unfold wear healthDegradationPerEfc
  positivity

/-- Less power costs less. -/
theorem wear_mono (capacity : 0 < self.capacityKwh) {powerKw less seconds : ℚ}
    (lasts : 0 ≤ seconds) (smaller : |less| ≤ |powerKw|) :
    self.wear less seconds ≤ self.wear powerKw seconds := by
  unfold wear healthDegradationPerEfc
  gcongr

/-- Wear is taken off in one go as it is bit by bit. -/
theorem clamp_clamp_sub_wear (capacity : 0 < self.capacityKwh)
    (health : 0 ≤ self.healthPercent ∧ self.healthPercent ≤ 100) (powerKw : ℚ)
    {seconds more : ℚ} (lasts : 0 ≤ seconds) (lastsMore : 0 ≤ more) :
    clamp 0 100 (clamp 0 100 (self.healthPercent - self.wear powerKw seconds) -
        self.wear powerKw more) =
      clamp 0 100 (self.healthPercent - self.wear powerKw (seconds + more)) := by
  rw [wear_add, sub_eq_add_neg _ (self.wear powerKw seconds), sub_eq_add_neg _ (_ + _),
    sub_eq_add_neg (clamp ..), neg_add]
  apply clamp_clamp_add health.1 health.2
  have spent := wear_nonneg capacity powerKw lasts
  have spentMore := wear_nonneg capacity powerKw lastsMore
  exact .inr ⟨by linarith, by linarith⟩

/-- Once the power is cut off, it stays so as long as one asks for the same. -/
theorem isCutOff_tick (capacity : 0 < self.capacityKwh)
    (bounds : 0 ≤ self.stateOfCharge ∧ self.stateOfCharge ≤ 100) {tick : Tick}
    (cutOff : self.IsCutOff tick.requestedPowerKw) :
    (self.tick tick).IsCutOff tick.requestedPowerKw := by
  have still : (self.tick tick).stateOfCharge = self.stateOfCharge := by
    rw [tick_stateOfCharge self tick capacity.ne', applyPowerLimits_of_isCutOff cutOff, socChange,
      zero_mul, zero_div, add_zero, clamp_of_bounds bounds.1 bounds.2]
  rw [IsCutOff, still, ratedPower_tick]
  exact cutOff

/-- The power that the same request brings never grows from one tick to the next. -/
theorem applyPowerLimits_tick_le (capacity : 0 < self.capacityKwh)
    (bounds : 0 ≤ self.stateOfCharge ∧ self.stateOfCharge ≤ 100) (tick : Tick) :
    |(self.tick tick).applyPowerLimits tick.requestedPowerKw| ≤
      |self.applyPowerLimits tick.requestedPowerKw| := by
  by_cases laterCutOff : (self.tick tick).IsCutOff tick.requestedPowerKw
  · rw [applyPowerLimits_of_isCutOff laterCutOff, abs_zero]
    exact abs_nonneg _
  · have notCutOff : ¬self.IsCutOff tick.requestedPowerKw :=
      fun cutOff => laterCutOff (isCutOff_tick capacity bounds cutOff)
    rw [applyPowerLimits_of_not_isCutOff laterCutOff, ratedPower_tick,
      applyPowerLimits_of_not_isCutOff notCutOff]

/-- Ticks that all ask for one power cost no more health than one tick would. -/
theorem run_healthPercent_ge (capacity : 0 < self.capacityKwh)
    (bounds : 0 ≤ self.stateOfCharge ∧ self.stateOfCharge ≤ 100)
    (health : 0 ≤ self.healthPercent ∧ self.healthPercent ≤ 100) {requestedPowerKw : ℚ}
    (ticks : List Tick)
    (steady : ∀ tick ∈ ticks, 0 ≤ tick.dtSeconds ∧ tick.requestedPowerKw = requestedPowerKw) :
    clamp 0 100 (self.healthPercent -
        self.wear (self.applyPowerLimits requestedPowerKw) (ticks.map Tick.dtSeconds).sum) ≤
      (self.run ticks).healthPercent := by
  induction ticks generalizing self with
  | nil =>
      apply le_of_eq
      rw [List.map_nil, List.sum_nil, wear_zero, sub_zero,
        clamp_of_bounds health.1 health.2]
      rfl
  | cons tick rest ih =>
      obtain ⟨⟨lasts, rfl⟩, restSteady⟩ := List.forall_mem_cons.mp steady
      have restLasts : 0 ≤ (rest.map Tick.dtSeconds).sum :=
        List.sum_nonneg (List.forall_mem_map.mpr fun tick inRest => (restSteady tick inRest).1)
      have later := @ih (self.tick tick) capacity (tick_stateOfCharge_bounds ..)
        (tick_healthPercent_bounds ..) restSteady
      have less := wear_mono capacity restLasts (applyPowerLimits_tick_le capacity bounds tick)
      rw [run_cons, List.map_cons, List.sum_cons,
        ← clamp_clamp_sub_wear capacity health _ lasts restLasts, ← tick_healthPercent]
      refine (clamp_mono ?_).trans later
      exact sub_le_sub_left less _

/-- They cost the same where the charge reaches no end between them. -/
theorem run_healthPercent (capacity : 0 < self.capacityKwh)
    (bounds : 0 ≤ self.stateOfCharge ∧ self.stateOfCharge ≤ 100)
    (health : 0 ≤ self.healthPercent ∧ self.healthPercent ≤ 100) {requestedPowerKw : ℚ}
    (ticks : List Tick)
    (steady : ∀ tick ∈ ticks, 0 ≤ tick.dtSeconds ∧ tick.requestedPowerKw = requestedPowerKw)
    (inside : ∀ passed later, passed ≠ [] → later ≠ [] → ticks = passed ++ later →
      0 < (self.run passed).stateOfCharge ∧ (self.run passed).stateOfCharge < 100) :
    (self.run ticks).healthPercent = clamp 0 100 (self.healthPercent -
      self.wear (self.applyPowerLimits requestedPowerKw) (ticks.map Tick.dtSeconds).sum) := by
  induction ticks generalizing self with
  | nil =>
      rw [List.map_nil, List.sum_nil, wear_zero, sub_zero,
        clamp_of_bounds health.1 health.2]
      rfl
  | cons tick rest ih =>
      obtain ⟨⟨lasts, rfl⟩, restSteady⟩ := List.forall_mem_cons.mp steady
      by_cases isLast : rest = []
      · rw [isLast, run_cons, List.map_singleton, List.sum_singleton, ← tick_healthPercent]
        rfl
      · have restLasts : 0 ≤ (rest.map Tick.dtSeconds).sum :=
          List.sum_nonneg
            (List.forall_mem_map.mpr fun tick inRest => (restSteady tick inRest).1)
        obtain ⟨above, below⟩ := inside [tick] rest (by simp) isLast rfl
        have laterNotCutOff : ¬(self.tick tick).IsCutOff tick.requestedPowerKw := by
          rintro (⟨full, -⟩ | ⟨empty, -⟩)
          · exact below.not_ge full
          · exact above.not_ge empty
        have notCutOff : ¬self.IsCutOff tick.requestedPowerKw :=
          fun cutOff => laterNotCutOff (isCutOff_tick capacity bounds cutOff)
        have samePower : (self.tick tick).applyPowerLimits tick.requestedPowerKw =
            self.applyPowerLimits tick.requestedPowerKw := by
          rw [applyPowerLimits_of_not_isCutOff laterNotCutOff, ratedPower_tick,
            applyPowerLimits_of_not_isCutOff notCutOff]
        have later := @ih (self.tick tick) capacity (tick_stateOfCharge_bounds ..)
          (tick_healthPercent_bounds ..) restSteady fun passed later _ more divided =>
            inside (tick :: passed) later (by simp) more (by rw [divided, List.cons_append])
        have sameWear : (self.tick tick).wear = self.wear := rfl
        rw [run_cons, later, samePower, sameWear, tick_healthPercent,
          clamp_clamp_sub_wear capacity health _ lasts restLasts, List.map_cons, List.sum_cons]

end Battery

/-! ### One tick against many -/

/-- For every battery, every requested power and all ticks that ask for it: the charge
after them is that after one tick of their whole time, the health is no worse than after
it, and the same where the charge reaches neither end between the ticks. -/
theorem tick_granularity (battery : Battery) (capacity : 0 < battery.capacityKwh)
    (bounds : 0 ≤ battery.stateOfCharge ∧ battery.stateOfCharge ≤ 100)
    (health : 0 ≤ battery.healthPercent ∧ battery.healthPercent ≤ 100)
    (requestedPowerKw : ℚ) (ticks : List Tick)
    (steady : ∀ tick ∈ ticks, 0 ≤ tick.dtSeconds ∧ tick.requestedPowerKw = requestedPowerKw)
    (whole : Tick) (asksTheSame : whole.requestedPowerKw = requestedPowerKw)
    (wholeTime : whole.dtSeconds = (ticks.map Tick.dtSeconds).sum) :
    (battery.run ticks).stateOfCharge = (battery.tick whole).stateOfCharge ∧
    (battery.tick whole).healthPercent ≤ (battery.run ticks).healthPercent ∧
    ((∀ passed later, passed ≠ [] → later ≠ [] → ticks = passed ++ later →
        0 < (battery.run passed).stateOfCharge ∧ (battery.run passed).stateOfCharge < 100) →
      (battery.run ticks).healthPercent = (battery.tick whole).healthPercent) := by
  have lasts : 0 ≤ whole.dtSeconds :=
    wholeTime ▸ List.sum_nonneg (List.forall_mem_map.mpr fun tick isTick => (steady tick isTick).1)
  have wholeHealth : (battery.tick whole).healthPercent =
      clamp 0 100 (battery.healthPercent -
        battery.wear (battery.applyPowerLimits requestedPowerKw)
          (ticks.map Tick.dtSeconds).sum) := by
    rw [Battery.tick_healthPercent, asksTheSame, wholeTime]
  refine ⟨?_, ?_, fun inside => ?_⟩
  · rw [Battery.run_stateOfCharge capacity bounds ticks steady,
      Battery.tick_stateOfCharge_rated capacity bounds lasts, asksTheSame, wholeTime]
  · rw [wholeHealth]
    exact Battery.run_healthPercent_ge capacity bounds health ticks steady
  · rw [wholeHealth]
    exact Battery.run_healthPercent capacity bounds health ticks steady inside

/-- A full battery. -/
def sampleBattery : Battery :=
  { batteryId := Backend.sampleBatteryId
    capacityKwh := 10
    maxPowerKw := 5
    nominalVoltage := 48
    profileType := .residential
    stateOfCharge := 100 }

/-- A tick of this many seconds that asks for this power. -/
def sampleTick (dtSeconds requestedPowerKw : ℚ) : Tick where
  dtSeconds := dtSeconds
  requestedPowerKw := requestedPowerKw
  voltageDraw := 1 / 2
  temperatureDraw := 1 / 2
  voltageDrawBounds := by norm_num
  temperatureDrawBounds := by norm_num

/-- A full battery of 10 kWh that is asked for 2 kW is empty after six hours, in one tick as
in three.  The tick after the two that emptied it costs no health, so three cost less. -/
theorem sample_tick_granularity :
    let ticks := [sampleTick 10800 (-2), sampleTick 7200 (-2), sampleTick 3600 (-2)]
    (sampleBattery.run ticks).stateOfCharge = 0 ∧
    (sampleBattery.run ticks).stateOfCharge =
      (sampleBattery.tick (sampleTick 21600 (-2))).stateOfCharge ∧
    (sampleBattery.tick (sampleTick 21600 (-2))).healthPercent <
      (sampleBattery.run ticks).healthPercent := by
  intro ticks
  obtain ⟨sameCharge, -, -⟩ := tick_granularity sampleBattery (by decide +kernel)
    (by decide +kernel) (by decide +kernel) (-2) ticks (by decide +kernel)
    (sampleTick 21600 (-2)) rfl (by decide +kernel)
  exact ⟨by decide +kernel, sameCharge, by decide +kernel⟩

end VoltStream.Physics
