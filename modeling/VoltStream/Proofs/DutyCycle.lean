/-
Module: VoltStream.Proofs.DutyCycle
Purpose: What a device does that follows its profile for any number of readings: its loop
  never fails, and unless it is a solar one it is never charged, so that its charge only
  falls and stays at nothing once it is there.
Trusted boundary: none
Main exports: leastFraction, mostFraction, requestedPowerKw_bounds, TurnEffect,
  turnEffect_of_runTurn, runBattery_induction, OnlyDischarges, charges, FallsBetween,
  runBattery_reports, duty_cycle
-/
import VoltStream.Relational.Spacing
import VoltStream.Simulator.Profiles
import VoltStream.Proofs.HealthyDevice

namespace VoltStream.Simulator

open Physics Numeric Relational
open Backend (ProfileType Timestamp TelemetryPayload hourOfDay timedeltaMinutes)

/-! ### What a profile asks for -/

/-- The least that a profile asks for, with the variation: charging counts positive. -/
def leastFraction : ProfileType → ℚ
  | .residential | .faulty => -60 / 100
  | .solar => -30 / 100
  | .commercial => -55 / 100

/-- The most that it asks for. -/
def mostFraction : ProfileType → ℚ
  | .residential | .faulty => -10 / 100
  | .solar => 50 / 100
  | .commercial => 0

/-- The fraction is in the table, and within these bounds with any variation. -/
def InTable (profileType : ProfileType) (hourOfDay : Int) : Bool :=
  (basePowerFraction profileType hourOfDay).toOption.any fun fraction =>
    leastFraction profileType ≤ fraction - variationFraction ∧
      fraction + variationFraction ≤ mostFraction profileType

theorem inTable_of_hour (profileType : ProfileType) :
    ∀ hour ∈ List.range 24, InTable profileType (hour : Nat) = true := by
  cases profileType <;> decide +kernel

theorem hourOfDay_bounds (instant : Timestamp) : 0 ≤ hourOfDay instant ∧ hourOfDay instant < 24 :=
  ⟨Int.emod_nonneg _ (by norm_num), Int.emod_lt_of_pos _ (by norm_num)⟩

/-- At every hour of every day a profile asks for a power, within its bounds. -/
theorem requestedPowerKw_bounds (profileType : ProfileType) {maxPowerKw : ℚ}
    (rated : 0 ≤ maxPowerKw) (instant : Timestamp) {draw : ℚ} (bounds : 0 ≤ draw ∧ draw ≤ 1) :
    ∃ powerKw, requestedPowerKw profileType maxPowerKw (hourOfDay instant) draw = .ok powerKw ∧
      leastFraction profileType * maxPowerKw ≤ powerKw ∧
      powerKw ≤ mostFraction profileType * maxPowerKw := by
  obtain ⟨hour, isHour⟩ := Int.eq_ofNat_of_zero_le (hourOfDay_bounds instant).1
  have inDay : hour ∈ List.range 24 := by
    have below := (hourOfDay_bounds instant).2
    rw [isHour] at below
    exact List.mem_range.mpr (by omega)
  have inTable := inTable_of_hour profileType hour inDay
  rw [isHour, requestedPowerKw]
  unfold InTable at inTable
  cases found : basePowerFraction profileType hour with
  | error raised =>
      rw [found] at inTable
      exact absurd inTable nofun
  | ok fraction =>
      rw [found] at inTable
      obtain ⟨least, most⟩ := of_decide_eq_true inTable
      have variation : 0 ≤ variationFraction := by norm_num [variationFraction]
      have noise := boundedNoise_bounds variation bounds
      refine ⟨_, rfl, mul_le_mul_of_nonneg_right ?_ rated, mul_le_mul_of_nonneg_right ?_ rated⟩
      · linarith [noise.1]
      · linarith [noise.2]

/-! ### One turn -/

/-- The percentage points that full power takes from the charge in a second. -/
def fullRate (battery : Physics.Battery) : ℚ := battery.maxPowerKw / (36 * battery.capacityKwh)

/-- What a turn of the loop does to a battery. -/
structure TurnEffect (config : FleetConfig) (battery after : Physics.Battery) : Prop where
  batteryId : after.batteryId = battery.batteryId
  capacityKwh : after.capacityKwh = battery.capacityKwh
  maxPowerKw : after.maxPowerKw = battery.maxPowerKw
  profileType : after.profileType = battery.profileType
  stateOfCharge : 0 ≤ after.stateOfCharge ∧ after.stateOfCharge ≤ 100
  fall : battery.stateOfCharge - after.stateOfCharge ≤
    6 / 10 * fullRate battery * config.telemetryIntervalSeconds
  discharges : battery.profileType ≠ .solar →
    after.powerKw ≤ 0 ∧ after.stateOfCharge ≤ battery.stateOfCharge ∧
      (battery.stateOfCharge ≤ 0 → after.powerKw = 0)
  drains : battery.profileType = .residential ∨ battery.profileType = .faulty →
    after.stateOfCharge ≤
      max 0 (battery.stateOfCharge - 1 / 10 * fullRate battery * config.telemetryIntervalSeconds)
  status : after.status = deriveStatus after.powerKw

/-- A battery that a device may have at the start of a turn. -/
structure Ready (battery : Physics.Battery) : Prop where
  capacityKwh : 0 < battery.capacityKwh
  maxPowerKw : 0 < battery.maxPowerKw
  stateOfCharge : 0 ≤ battery.stateOfCharge ∧ battery.stateOfCharge ≤ 100

theorem TurnEffect.ready {config : FleetConfig} {battery after : Physics.Battery}
    (effect : TurnEffect config battery after) (ready : Ready battery) : Ready after where
  capacityKwh := effect.capacityKwh ▸ ready.capacityKwh
  maxPowerKw := effect.maxPowerKw ▸ ready.maxPowerKw
  stateOfCharge := effect.stateOfCharge

theorem TurnEffect.fullRate_eq {config : FleetConfig} {battery after : Physics.Battery}
    (effect : TurnEffect config battery after) : fullRate after = fullRate battery := by
  rw [fullRate, effect.capacityKwh, effect.maxPowerKw, fullRate]

theorem fullRate_nonneg {battery : Physics.Battery} (ready : Ready battery) :
    0 ≤ fullRate battery :=
  div_nonneg ready.maxPowerKw.le (mul_nonneg (by norm_num) ready.capacityKwh.le)

theorem leastFraction_ge (profileType : ProfileType) : -6 / 10 ≤ leastFraction profileType := by
  cases profileType <;> norm_num [leastFraction]

theorem mostFraction_le (profileType : ProfileType) : mostFraction profileType ≤ 1 := by
  cases profileType <;> norm_num [mostFraction]

/-- What a profile asks for is within the rating. -/
theorem ratedPower_of_bounds {battery : Physics.Battery} (ready : Ready battery) {powerKw : ℚ}
    (least : leastFraction battery.profileType * battery.maxPowerKw ≤ powerKw)
    (most : powerKw ≤ mostFraction battery.profileType * battery.maxPowerKw) :
    battery.ratedPower powerKw = powerKw := by
  have rated := ready.maxPowerKw
  refine clamp_of_bounds ?_ ?_
  · nlinarith [leastFraction_ge battery.profileType]
  · nlinarith [mostFraction_le battery.profileType]

/-- The charge that a tick leaves, where the power asked for is within the rating. -/
theorem tick_stateOfCharge_of_rated {battery : Physics.Battery} (ready : Ready battery)
    {tick : Tick} (rated : battery.ratedPower tick.requestedPowerKw = tick.requestedPowerKw)
    (lasts : 0 ≤ tick.dtSeconds) :
    (battery.tick tick).stateOfCharge = clamp 0 100 (battery.stateOfCharge +
      tick.requestedPowerKw * (tick.dtSeconds / (36 * battery.capacityKwh))) := by
  rw [Battery.tick_stateOfCharge_rated ready.capacityKwh ready.stateOfCharge lasts, rated,
    Battery.socChange, mul_div_assoc]

/-- A tick with a power that the profile can ask for. -/
theorem turnEffect_tick (config : FleetConfig) {battery : Physics.Battery} (ready : Ready battery)
    {tick : Tick} (isInterval : tick.dtSeconds = config.telemetryIntervalSeconds)
    (least : leastFraction battery.profileType * battery.maxPowerKw ≤ tick.requestedPowerKw)
    (most : tick.requestedPowerKw ≤ mostFraction battery.profileType * battery.maxPowerKw) :
    TurnEffect config battery (battery.tick tick) := by
  have lasts : 0 ≤ tick.dtSeconds := isInterval ▸ config.telemetryIntervalBound.le
  have within := ratedPower_of_bounds ready least most
  have charge := tick_stateOfCharge_of_rated ready within lasts
  have perKw : 0 ≤ tick.dtSeconds / (36 * battery.capacityKwh) :=
    div_nonneg lasts (mul_nonneg (by norm_num) ready.capacityKwh.le)
  have full : fullRate battery * config.telemetryIntervalSeconds =
      battery.maxPowerKw * (tick.dtSeconds / (36 * battery.capacityKwh)) := by
    rw [fullRate, isInterval, div_mul_eq_mul_div, mul_div_assoc]
  have rated := ready.maxPowerKw
  obtain ⟨notEmpty, notFull⟩ := ready.stateOfCharge
  have atLeast : -6 / 10 * battery.maxPowerKw ≤ tick.requestedPowerKw :=
    (mul_le_mul_of_nonneg_right (leastFraction_ge _) rated.le).trans least
  have loses := mul_le_mul_of_nonneg_right atLeast perKw
  have notCharging : battery.profileType ≠ .solar → tick.requestedPowerKw ≤ 0 := by
    intro notSolar
    have nothing : mostFraction battery.profileType ≤ 0 := by
      cases isProfile : battery.profileType with
      | solar => exact absurd isProfile notSolar
      | _ => norm_num [mostFraction]
    exact most.trans (mul_nonpos_of_nonpos_of_nonneg nothing rated.le)
  have falling : battery.profileType ≠ .solar →
      (battery.tick tick).stateOfCharge = max 0 (battery.stateOfCharge +
        tick.requestedPowerKw * (tick.dtSeconds / (36 * battery.capacityKwh))) := by
    intro notSolar
    have change := mul_nonpos_of_nonpos_of_nonneg (notCharging notSolar) perKw
    rw [charge, clamp_of_le (by linarith)]
  refine ⟨Battery.tick_batteryId .., Battery.tick_capacityKwh .., Battery.tick_maxPowerKw ..,
    by rw [Battery.tick], Battery.tick_stateOfCharge_bounds battery tick, ?_,
    fun notSolar => ⟨?_, ?_, fun empty => ?_⟩, fun residential => ?_, Battery.tick_status ..⟩
  · rw [mul_assoc, full, charge]
    have reached : battery.stateOfCharge -
        6 / 10 * (battery.maxPowerKw * (tick.dtSeconds / (36 * battery.capacityKwh))) ≤
          clamp 0 100 (battery.stateOfCharge +
            tick.requestedPowerKw * (tick.dtSeconds / (36 * battery.capacityKwh))) := by
      refine le_trans (le_min ?_ ?_) (le_max_right ..)
      · nlinarith [mul_nonneg rated.le perKw]
      · linarith
    linarith
  · rw [Battery.tick_powerKw]
    by_cases cutOff : battery.IsCutOff tick.requestedPowerKw
    · rw [Battery.applyPowerLimits_of_isCutOff cutOff]
    · rw [Battery.applyPowerLimits_of_not_isCutOff cutOff, within]
      exact notCharging notSolar
  · rw [falling notSolar]
    exact max_le notEmpty
      (by linarith [mul_nonpos_of_nonpos_of_nonneg (notCharging notSolar) perKw])
  · rw [Battery.tick_powerKw]
    by_cases cutOff : battery.IsCutOff tick.requestedPowerKw
    · exact Battery.applyPowerLimits_of_isCutOff cutOff
    · rw [Battery.applyPowerLimits_of_not_isCutOff cutOff, within]
      refine le_antisymm (notCharging notSolar) (not_lt.mp fun discharges => cutOff (Or.inr ?_))
      exact ⟨empty, within.symm ▸ discharges⟩
  · have notSolar : battery.profileType ≠ .solar := by
      rcases residential with isProfile | isProfile <;> rw [isProfile] <;> decide
    have most' : mostFraction battery.profileType = -1 / 10 := by
      rcases residential with isProfile | isProfile <;> rw [isProfile] <;> norm_num [mostFraction]
    rw [most'] at most
    have drained := mul_le_mul_of_nonneg_right most perKw
    rw [falling notSolar, mul_assoc, full]
    exact max_le_max_left 0 (by linarith)

/-- A turn succeeds, and does this. -/
theorem turnEffect_of_runTurn (config : FleetConfig) {battery : Physics.Battery}
    (ready : Ready battery) (turn : Turn) :
    ∃ after, runTurn config battery turn = .ok after ∧ TurnEffect config battery after := by
  obtain ⟨powerKw, asks, least, most⟩ := requestedPowerKw_bounds battery.profileType
    ready.maxPowerKw.le turn.now turn.profileDrawBounds
  refine ⟨battery.tick (turn.tick config powerKw), ?_, turnEffect_tick config ready rfl least most⟩
  rw [runTurn, asks]
  rfl

/-! ### Runs -/

/-- Induction over the turns of a device: its loop never fails, and what each turn carries on
holds of all its events. -/
theorem runBattery_induction (config : FleetConfig)
    (Good : Physics.Battery → List Turn → List TelemetryPayload → Prop)
    (nil : ∀ battery, Good battery [] [])
    (cons : ∀ battery turn rest after later, Ready battery → TurnEffect config battery after →
      runTurn config battery turn = .ok after → Good after rest later →
        Good battery (turn :: rest) (makeEvent after turn.eventId turn.timestamp :: later))
    {battery : Physics.Battery} (ready : Ready battery) (turns : List Turn) :
    ∃ events, runBattery config battery turns = .ok events ∧ Good battery turns events := by
  induction turns generalizing battery with
  | nil => exact ⟨[], rfl, nil battery⟩
  | cons turn rest ih =>
      obtain ⟨after, ran, effect⟩ := turnEffect_of_runTurn config ready turn
      obtain ⟨later, ranLater, good⟩ := ih (effect.ready ready)
      refine ⟨makeEvent after turn.eventId turn.timestamp :: later, ?_,
        cons battery turn rest after later ready effect ran good⟩
      rw [runBattery, ran]
      exact (congrArg (Except.map _) ranLater).trans rfl

/-- The readings of a device that is never charged: its charge only falls, and once there is
none left, the device gives nothing more. -/
structure OnlyDischarges (events : List TelemetryPayload) : Prop where
  falls : events.Pairwise fun earlier later => later.stateOfCharge ≤ earlier.stateOfCharge
  gives : ∀ event ∈ events, event.powerKw ≤ 0 ∧ event.status ≠ .charging
  staysEmpty : events.Pairwise fun earlier later =>
    earlier.stateOfCharge ≤ 0 → later.powerKw = 0 ∧ later.status = .idle

/-- The same, seen from the battery before the first of its turns. -/
structure DischargesFrom (battery : Physics.Battery) (events : List TelemetryPayload) : Prop where
  falls : ∀ event ∈ events, event.stateOfCharge ≤ battery.stateOfCharge
  staysEmpty : battery.stateOfCharge ≤ 0 → ∀ event ∈ events,
    event.powerKw = 0 ∧ event.status = .idle
  only : OnlyDischarges events

theorem deriveStatus_ne_charging {powerKw : ℚ} (gives : powerKw ≤ 0) :
    deriveStatus powerKw ≠ .charging := by
  unfold deriveStatus
  rw [if_neg (not_lt.mpr gives)]
  split <;> exact nofun

theorem deriveStatus_zero : deriveStatus 0 = .idle := by
  norm_num [deriveStatus, idlePowerThresholdKw]

/-- A turn of a device that its profile never has charged. -/
theorem DischargesFrom.cons {config : FleetConfig} {battery after : Physics.Battery}
    {later : List TelemetryPayload} (effect : TurnEffect config battery after)
    (notSolar : battery.profileType ≠ .solar) (discharges : DischargesFrom after later)
    (turn : Turn) :
    DischargesFrom battery (makeEvent after turn.eventId turn.timestamp :: later) := by
  obtain ⟨gives, falls, empty⟩ := effect.discharges notSolar
  have status : (makeEvent after turn.eventId turn.timestamp).status =
      (deriveStatus after.powerKw).value := congrArg BatteryStatus.value effect.status
  refine ⟨List.forall_mem_cons.mpr ⟨falls, fun event inLater =>
      (discharges.falls event inLater).trans falls⟩,
    fun nothing => List.forall_mem_cons.mpr ⟨?_, ?_⟩,
    List.pairwise_cons.mpr ⟨discharges.falls, discharges.only.falls⟩,
    List.forall_mem_cons.mpr ⟨⟨gives, ?_⟩, discharges.only.gives⟩,
    List.pairwise_cons.mpr ⟨fun event inLater nothing =>
      discharges.staysEmpty nothing event inLater, discharges.only.staysEmpty⟩⟩
  · refine ⟨empty nothing, ?_⟩
    rw [status, empty nothing, deriveStatus_zero]
    rfl
  · exact discharges.staysEmpty (falls.trans nothing)
  · rw [status]
    have notCharging := deriveStatus_ne_charging gives
    cases isStatus : deriveStatus after.powerKw with
    | charging => exact absurd isStatus notCharging
    | _ => exact nofun

/-- The charge of the battery, and then the charge after each turn. -/
def charges (battery : Physics.Battery) (events : List TelemetryPayload) : List ℚ :=
  battery.stateOfCharge :: events.map (·.stateOfCharge)

/-- Every turn takes `most` from the charge at the most, and `least` at the least until there
is none left. -/
def FallsBetween (battery : Physics.Battery) (most least : ℚ) (events : List TelemetryPayload) :
    Prop :=
  (charges battery events).IsChain fun before after =>
    before - after ≤ most ∧ after ≤ max 0 (before - least)

theorem FallsBetween.cons {battery after : Physics.Battery} {most least : ℚ}
    {later : List TelemetryPayload} (fall : battery.stateOfCharge - after.stateOfCharge ≤ most)
    (drains : after.stateOfCharge ≤ max 0 (battery.stateOfCharge - least))
    (between : FallsBetween after most least later) (turn : Turn) :
    FallsBetween battery most least (makeEvent after turn.eventId turn.timestamp :: later) :=
  List.isChain_cons_cons.mpr ⟨⟨fall, drains⟩, between⟩

/-- What the turns of a device carry on, from any battery that it may have. -/
theorem runBattery_reports (config : FleetConfig) {battery : Physics.Battery}
    (ready : Ready battery) (turns : List Turn) :
    ∃ events, runBattery config battery turns = .ok events ∧ events.length = turns.length ∧
      (battery.profileType ≠ .solar → DischargesFrom battery events) ∧
      (battery.profileType = .residential ∨ battery.profileType = .faulty →
        FallsBetween battery (6 / 10 * fullRate battery * config.telemetryIntervalSeconds)
          (1 / 10 * fullRate battery * config.telemetryIntervalSeconds) events) := by
  refine runBattery_induction config
    (fun battery turns events => events.length = turns.length ∧
      (battery.profileType ≠ .solar → DischargesFrom battery events) ∧
      (battery.profileType = .residential ∨ battery.profileType = .faulty →
        FallsBetween battery (6 / 10 * fullRate battery * config.telemetryIntervalSeconds)
          (1 / 10 * fullRate battery * config.telemetryIntervalSeconds) events))
    (fun battery => ⟨rfl, fun _ => ⟨List.forall_mem_nil _, fun _ => List.forall_mem_nil _,
      .nil, List.forall_mem_nil _, .nil⟩, fun _ => List.isChain_singleton _⟩) ?_ ready turns
  rintro battery turn rest after later ready effect - ⟨length, discharges, falls⟩
  rw [effect.profileType] at discharges falls
  rw [effect.fullRate_eq] at falls
  exact ⟨congrArg Nat.succ length, fun notSolar => (discharges notSolar).cons effect notSolar turn,
    fun residential => (falls residential).cons effect.fall (effect.drains residential) turn⟩

theorem ready_buildBattery {config : FleetConfig} (capacity : 0 < config.capacityKwh)
    (rated : 0 < config.maxPowerKw) (index : Nat) : Ready (buildBattery config index) where
  capacityKwh := capacity
  maxPowerKw := rated
  stateOfCharge := by norm_num [buildBattery, Battery.postInit]

/-- Whatever the hours and the draws, a device that follows its profile never fails and
reports once in every turn.  Unless it is a solar one, it only discharges; a residential or
a faulty one loses, in every turn, between a tenth and six tenths of what full power would
take, until it is empty. -/
theorem duty_cycle (config : FleetConfig) (capacity : 0 < config.capacityKwh)
    (rated : 0 < config.maxPowerKw) (index : Nat) (turns : List Turn) :
    ∃ events, runBattery config (buildBattery config index) turns = .ok events ∧
      events.length = turns.length ∧
      ((buildBattery config index).profileType ≠ .solar → OnlyDischarges events) ∧
      ((buildBattery config index).profileType = .residential ∨
          (buildBattery config index).profileType = .faulty →
        FallsBetween (buildBattery config index)
          (6 / 10 * (config.maxPowerKw / (36 * config.capacityKwh)) *
            config.telemetryIntervalSeconds)
          (1 / 10 * (config.maxPowerKw / (36 * config.capacityKwh)) *
            config.telemetryIntervalSeconds) events) := by
  obtain ⟨events, ran, length, discharges, falls⟩ := runBattery_reports config
    (ready_buildBattery capacity rated index) turns
  exact ⟨events, ran, length, fun notSolar => (discharges notSolar).only, falls⟩

theorem middle_bounds : (0 : ℚ) ≤ 1 / 2 ∧ (1 / 2 : ℚ) ≤ 1 := by norm_num

/-- A turn at this time, with every draw in the middle. -/
def sampleTurn (timestamp : Timestamp) (eventId : Backend.Uuid) : Turn where
  now := timestamp
  timestamp := timestamp
  eventId := eventId
  profileDraw := 1 / 2
  voltageDraw := 1 / 2
  temperatureDraw := 1 / 2
  profileDrawBounds := middle_bounds
  voltageDrawBounds := middle_bounds
  temperatureDrawBounds := middle_bounds

theorem oneHour_pos : (0 : ℚ) < 3600 := by norm_num

theorem single_positive : 1 ≤ 1 := le_rfl

theorem noFaults_bounds : (0 : ℚ) ≤ 0 ∧ (0 : ℚ) ≤ 1 := by norm_num

/-- One residential device that reports every hour. -/
def hourlyDevice : FleetConfig where
  deviceCount := 1
  telemetryIntervalSeconds := 3600
  faultRate := 0
  deviceCountBound := single_positive
  telemetryIntervalBound := oneHour_pos
  faultRateBounds := noFaults_bounds

/-- The turns of an afternoon, from twelve to seven o'clock. -/
def sampleAfternoon : List Turn :=
  (List.range 8).map fun (hour : Nat) => sampleTurn ((12 + (hour : Int)) * 3600000000) hour

/-- The device gives 7.5 points an hour up to four o'clock and 27.5 from then on, of which
there are not that many left. -/
theorem sample_duty_cycle : ∃ events,
    runBattery hourlyDevice (buildBattery hourlyDevice 0) sampleAfternoon = .ok events ∧
      charges (buildBattery hourlyDevice 0) events = [50, 85 / 2, 35, 55 / 2, 20, 0, 0, 0, 0] ∧
      OnlyDischarges events ∧ FallsBetween (buildBattery hourlyDevice 0) 30 5 events := by
  obtain ⟨events, ran, -, discharges, falls⟩ := duty_cycle hourlyDevice
    (by norm_num [hourlyDevice]) (by norm_num [hourlyDevice]) 0 sampleAfternoon
  have computed : (runBattery hourlyDevice (buildBattery hourlyDevice 0)
      sampleAfternoon).toOption.map (charges (buildBattery hourlyDevice 0)) =
        some [50, 85 / 2, 35, 55 / 2, 20, 0, 0, 0, 0] := by decide +kernel
  have isResidential : (buildBattery hourlyDevice 0).profileType = .residential := by
    decide +kernel
  rw [ran] at computed
  have between := falls (Or.inl isResidential)
  norm_num [hourlyDevice] at between
  exact ⟨events, ran, Option.some.inj computed, discharges (by rw [isResidential]; decide), between⟩

end VoltStream.Simulator
