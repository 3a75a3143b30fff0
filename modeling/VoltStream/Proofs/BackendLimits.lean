/-
Module: VoltStream.Proofs.BackendLimits
Purpose: The simulator against the backend's limits: for which configurations every
  registration and every batch of every run is accepted.
Trusted boundary: none
Main exports: matches_deviceBatteryId_iff, Startup.KeepsLimits, keepsLimits_iff
-/
import VoltStream.Simulator.Config
import VoltStream.Proofs.HealthyDevice
import VoltStream.Proofs.Backpressure

namespace VoltStream.Simulator

open Relational Numeric
open Backend (Uuid Timestamp TelemetryPayload RegistrationPayload FieldFault Refusal isDecimalDigit
  matchesBatteryIdPattern batteryIdFaults batteryIdFaults_eq_nil_iff refusesTelemetryBatch
  maxBatchSize batchTooLarge)

/-! ### Battery ids -/

theorem isDecimalDigit_digitChar : ∀ digit < 10, isDecimalDigit (Nat.digitChar digit) = true := by
  decide

theorem digitChar_ne_lineFeed : ∀ digit < 10, Nat.digitChar digit ≠ '\n' := by
  decide

theorem isDecimalDigit_of_mem_zeroPadded {width value : Nat} {character : Char}
    (isCharacter : character ∈ zeroPadded width value) : isDecimalDigit character = true := by
  obtain ⟨digit, small, rfl⟩ := mem_zeroPadded isCharacter
  exact isDecimalDigit_digitChar digit small

/-- The ids of a fleet fit the pattern up to the last one with six digits. -/
theorem matches_deviceBatteryId_iff (index : Nat) :
    matchesBatteryIdPattern (deviceBatteryId index) = true ↔ index < 999999 := by
  have shape : matchesBatteryIdPattern (deviceBatteryId index) = true ↔
      6 ≤ (zeroPadded 6 (index + 1)).length ∧
        ((zeroPadded 6 (index + 1)).take 6).all isDecimalDigit = true ∧
        ((zeroPadded 6 (index + 1)).drop 6 = [] ∨ (zeroPadded 6 (index + 1)).drop 6 = ['\n']) := by
    rw [matchesBatteryIdPattern, deviceBatteryId, String.toList_ofList]
    simp
  have long : 6 ≤ (zeroPadded 6 (index + 1)).length := by
    rw [length_zeroPadded]
    exact le_max_left ..
  have digits : ((zeroPadded 6 (index + 1)).take 6).all isDecimalDigit = true :=
    List.all_eq_true.mpr fun character isCharacter =>
      isDecimalDigit_of_mem_zeroPadded (List.mem_of_mem_take isCharacter)
  have noLineFeed : (zeroPadded 6 (index + 1)).drop 6 ≠ ['\n'] := by
    intro rest
    have isLast : '\n' ∈ zeroPadded 6 (index + 1) :=
      List.mem_of_mem_drop (i := 6) (rest ▸ List.mem_singleton.mpr rfl)
    obtain ⟨digit, small, same⟩ := mem_zeroPadded isLast
    exact digitChar_ne_lineFeed digit small same
  rw [shape, List.drop_eq_nil_iff]
  constructor
  · rintro ⟨-, -, short | lineFeed⟩
    · have within := length_zeroPadded_eq_iff.mp (le_antisymm short long)
      omega
    · exact absurd lineFeed noLineFeed
  · intro small
    exact ⟨long, digits, Or.inl (length_zeroPadded_eq_iff.mpr (by omega)).le⟩

theorem deviceBatteryId_injective : Function.Injective deviceBatteryId := by
  intro first second same
  have digits : zeroPadded 6 (first + 1) = zeroPadded 6 (second + 1) := by
    simpa using String.ofList_injective same
  exact Nat.succ_injective (zeroPadded_injective 6 digits)

theorem buildFleet_batteryId (config : FleetConfig) :
    (buildFleet config).map Physics.Battery.batteryId =
      (List.range config.deviceCount).map deviceBatteryId := by
  rw [buildFleet, List.map_map]
  rfl

/-- Ticks keep the id. -/
theorem run_batteryId (battery : Physics.Battery) (ticks : List Physics.Tick) :
    (battery.run ticks).batteryId = battery.batteryId :=
  @foldl_invariant Physics.Battery Physics.Tick Physics.Battery.tick
    (fun reached => reached.batteryId = battery.batteryId)
    (fun reached tick same => by rw [Physics.Battery.tick_batteryId, same]) battery rfl ticks

/-! ### Runs of the simulator -/

open Pipeline

/-- How often this device has ticked. -/
def ticksOf {config : PipelineConfig} {ε : Type*} (device : Fin config.deviceCount)
    (moves : List (Move config ε)) : Nat :=
  moves.countP fun
    | .tick ticking _ => ticking = device
    | _ => false

/-- The events of these moves are those of the fleet: each device makes its `n`-th event
after the first `n` of its ticks. -/
def FleetMoves (fleet : FleetConfig) (ticks : Nat → Nat → Physics.Tick) {config : PipelineConfig}
    (moves : List (Move config TelemetryPayload)) : Prop :=
  ∀ earlier (device : Fin config.deviceCount) event later,
    moves = earlier ++ .tick device event :: later →
    ∃ eventId timestamp, event = makeEvent
      ((buildBattery fleet device).run
        ((List.range (ticksOf device earlier + 1)).map (ticks device))) eventId timestamp

/-- What the backend asks of a simulator: no registration is refused for its id, no batch
in any worker's hands at any moment of any run for an id or for its size, and no two
batteries share an id. -/
structure Startup.KeepsLimits {environ : Environ} (startup : Startup environ) : Prop where
  registrations : ∀ battery ∈ buildFleet startup.fleet,
    batteryIdFaults (registrationPayload battery).batteryId = []
  batches : ∀ maxTicks moves ticks (pipeline : Pipeline (startup.pipelineConfig maxTicks) _),
    Trace Step (start _) moves pipeline → FleetMoves startup.fleet ticks moves →
    ∀ worker batch, pipeline.delivery.workers worker = .sending batch →
      (∀ event ∈ batch, batteryIdFaults event.batteryId = []) ∧
        refusesTelemetryBatch batch ≠ some (.apiError (batchTooLarge batch.length))
  distinct : ((buildFleet startup.fleet).map Physics.Battery.batteryId).Nodup

section Runs

variable {config : PipelineConfig} {ε : Type*} {moves : List (Move config ε)}
  {pipeline : Pipeline config ε} {worker : Fin config.sendWorkers} {batch : List ε}

/-- What a worker is sending has come out of a tick. -/
theorem exists_tick_of_sending (run : Trace Step (start config) moves pipeline)
    (sending : pipeline.delivery.workers worker = .sending batch) {event : ε}
    (isEvent : event ∈ batch) : ∃ device, Move.tick device event ∈ moves := by
  have held : event ∈ ((pipeline.delivery.workers worker).unsent : Multiset ε) := by
    rw [sending]
    exact isEvent
  have inDelivery : event ∈ pipeline.delivery.contents :=
    Multiset.mem_add.mpr (Or.inl (Multiset.mem_add.mpr (Or.inr
      (Multiset.mem_sum.mpr ⟨worker, Finset.mem_univ _, held⟩))))
  have inPipeline : event ∈ pipeline.contents := Multiset.mem_add.mpr (Or.inr inDelivery)
  rw [← conserved run, Multiset.mem_coe, produced, List.mem_filterMap] at inPipeline
  obtain ⟨move, isMove, produces⟩ := inPipeline
  cases move with
  | tick device made =>
      obtain rfl := Option.some.inj produces
      exact ⟨device, isMove⟩
  | unblock device => cases produces
  | take worker => cases produces
  | finish worker outcome => cases produces
  | resume => cases produces

theorem length_le_of_sending (run : Trace Step (start config) moves pipeline)
    (sending : pipeline.delivery.workers worker = .sending batch) :
    batch.length ≤ config.batchSize := by
  have most := (bounded_of_run run).delivery.workers worker
  rwa [sending] at most

end Runs

theorem FleetMoves.nil (fleet : FleetConfig) (ticks : Nat → Nat → Physics.Tick)
    {config : PipelineConfig} : FleetMoves fleet ticks ([] : List (Move config _)) := by
  intro earlier device event later split
  simp at split

/-- One more move, which is no tick or the next one of its device. -/
theorem FleetMoves.concat {fleet : FleetConfig} {ticks : Nat → Nat → Physics.Tick}
    {config : PipelineConfig} {moves : List (Move config TelemetryPayload)}
    {move : Move config TelemetryPayload} (before : FleetMoves fleet ticks moves)
    (next : ∀ device event, move = .tick device event → ∃ eventId timestamp, event = makeEvent
      ((buildBattery fleet device).run
        ((List.range (ticksOf device moves + 1)).map (ticks device))) eventId timestamp) :
    FleetMoves fleet ticks (moves ++ [move]) := by
  intro earlier device event later split
  rcases List.eq_nil_or_concat later with rfl | ⟨rest, last, rfl⟩
  · obtain ⟨rfl, same⟩ := List.append_inj' split rfl
    exact next device event (List.singleton_inj.mp same)
  · rw [List.concat_eq_append, ← List.cons_append, ← List.append_assoc] at split
    obtain ⟨whole, -⟩ := List.append_inj' split rfl
    exact before earlier device event rest whole

/-- An event of a device carries its id. -/
theorem FleetMoves.batteryId {fleet : FleetConfig} {ticks : Nat → Nat → Physics.Tick}
    {config : PipelineConfig} {moves : List (Move config TelemetryPayload)}
    (made : FleetMoves fleet ticks moves) {device : Fin config.deviceCount}
    {event : TelemetryPayload} (isMove : Move.tick device event ∈ moves) :
    event.batteryId = deviceBatteryId device := by
  obtain ⟨earlier, later, split⟩ := List.append_of_mem isMove
  obtain ⟨eventId, timestamp, rfl⟩ := made earlier device event later split
  exact run_batteryId _ _

/-! ### Small fleets and batches -/

section Startup

variable {environ : Environ} {startup : Startup environ}

theorem batteryIdFaults_deviceBatteryId_iff (index : Nat) :
    batteryIdFaults (deviceBatteryId index) = [] ↔ index < 999999 := by
  rw [batteryIdFaults_eq_nil_iff, matches_deviceBatteryId_iff]

/-- A batch that is too large is refused for that only if nothing is wrong with its
events. -/
theorem refusesTelemetryBatch_eq_tooLarge_iff (batch : List TelemetryPayload) :
    refusesTelemetryBatch batch = some (.apiError (batchTooLarge batch.length)) ↔
      (∀ event ∈ batch, event.faults = []) ∧ maxBatchSize < batch.length := by
  unfold refusesTelemetryBatch
  split_ifs with none faulty large
  · refine iff_of_false (by simp) ?_
    rintro ⟨-, large⟩
    rw [none] at large
    exact absurd large (by decide)
  · refine iff_of_false (by simp) ?_
    rintro ⟨clean, -⟩
    obtain ⟨event, isEvent, faults⟩ := List.any_eq_true.mp faulty
    rw [clean event isEvent] at faults
    simp at faults
  · refine iff_of_true rfl ⟨fun event isEvent => ?_, large⟩
    by_contra faults
    exact faulty (List.any_eq_true.mpr ⟨event, isEvent, by simpa using faults⟩)
  · exact iff_of_false (by simp) fun both => large both.2

/-- Within the bounds nothing is refused. -/
theorem Startup.keepsLimits_of_small (fewDevices : startup.config.deviceCount ≤ 999999)
    (smallBatches : startup.config.batchSize ≤ maxBatchSize) : startup.KeepsLimits where
  registrations := by
    intro battery built
    obtain ⟨index, inRange, rfl⟩ := List.mem_map.mp built
    have count := (SimulatorConfig.fleetConfig_eq_ok startup.fleetAccepted).1
    have below := List.mem_range.mp inRange
    exact (batteryIdFaults_deviceBatteryId_iff index).mpr (by omega)
  batches := by
    intro maxTicks moves ticks pipeline run made worker batch sending
    refine ⟨fun event isEvent => ?_, fun refused => ?_⟩
    · obtain ⟨device, isMove⟩ := exists_tick_of_sending run sending isEvent
      rw [made.batteryId isMove, batteryIdFaults_deviceBatteryId_iff]
      have count := (SimulatorConfig.fleetConfig_eq_ok startup.fleetAccepted).1
      have below : (device : Nat) < startup.fleet.deviceCount := device.isLt
      omega
    · have large := ((refusesTelemetryBatch_eq_tooLarge_iff batch).mp refused).2
      have most : batch.length ≤ startup.config.batchSize.toNat := length_le_of_sending run sending
      omega
  distinct := by
    rw [buildFleet_batteryId]
    exact List.nodup_range.map deviceBatteryId_injective

end Startup

/-! ### A full batch

A device that ticks alone fills the buffer, and a worker takes the batch. -/

section FullBatch

variable (fleet : FleetConfig) (config : PipelineConfig)

theorem half_bounds : (0 : ℚ) ≤ 1 / 2 ∧ (1 : ℚ) / 2 ≤ 1 := by norm_num

/-- A tick without a request. -/
def idleTick : Physics.Tick where
  dtSeconds := fleet.telemetryIntervalSeconds
  requestedPowerKw := 0
  voltageDraw := 1 / 2
  temperatureDraw := 1 / 2
  voltageDrawBounds := half_bounds
  temperatureDrawBounds := half_bounds

/-- An event of the first device. -/
def firstDeviceEvent (index : Nat) : TelemetryPayload :=
  makeEvent ((buildBattery fleet 0).run ((List.range (index + 1)).map fun _ => idleTick fleet))
    index 0

def firstDevice : Fin config.deviceCount := ⟨0, config.deviceCountBound⟩

/-- The first device ticks this often. -/
def firstDeviceMoves (count : Nat) : List (Move config TelemetryPayload) :=
  (List.range count).map fun index => .tick (firstDevice config) (firstDeviceEvent fleet index)

variable {fleet config}

theorem faults_firstDeviceEvent (hardware : fleet.HasDefaultHardware) (index : Nat) :
    (firstDeviceEvent fleet index).faults = [] := by
  have built : buildBattery fleet 0 ∈ buildFleet fleet :=
    List.mem_map_of_mem (List.mem_range.mpr fleet.deviceCountBound)
  have lastTick : ((List.range (index + 1)).map fun _ => idleTick fleet) =
      ((List.range index).map fun _ => idleTick fleet) ++ [idleTick fleet] := by
    rw [List.range_succ, List.map_append, List.map_singleton]
  have numbers : (firstDeviceEvent fleet index).numericFaults = [] := by
    rw [firstDeviceEvent, lastTick]
    exact numericFaults_of_healthy (healthy_of_mem_buildFleet hardware built) _ _ _ _
  have batteryId : batteryIdFaults (firstDeviceEvent fleet index).batteryId = [] := by
    have same : (firstDeviceEvent fleet index).batteryId = deviceBatteryId 0 :=
      run_batteryId _ _
    rw [same, batteryIdFaults_deviceBatteryId_iff]
    norm_num
  have version : (firstDeviceEvent fleet index).eventIdVersion = 4 := rfl
  have aware : (firstDeviceEvent fleet index).timezoneAware = true := rfl
  rw [TelemetryPayload.faults, numbers, batteryId, if_pos version, if_pos aware]
  rfl

/-- A device's tick that leaves the buffer short of a batch. -/
theorem tick_of_short {ε : Type*} {pipeline : Pipeline config ε}
    {device : Fin config.deviceCount} {ticks : Nat} (endless : config.maxTicks = none)
    (asleep : pipeline.devices device = .sleeping ticks)
    (short : pipeline.buffer.length + 1 < config.batchSize) (event : ε) :
    ∃ after, Step pipeline (.tick device event) after ∧
      after.devices device = .sleeping (ticks + 1) ∧
      after.buffer = pipeline.buffer ++ [event] ∧ after.delivery = pipeline.delivery := by
  refine ⟨{ pipeline.setDevice device (Device.next config.maxTicks (ticks + 1)) with
    buffer := pipeline.buffer ++ [event] }, ?_, ?_, rfl, rfl⟩
  · simp only [Step, perform, tick, asleep, add_eq, if_neg (not_le.mpr short)]
  · exact (Function.update_self ..).trans (by rw [endless]; rfl)

/-- A device's tick that completes the first batch. -/
theorem tick_of_complete {ε : Type*} {pipeline : Pipeline config ε}
    {device : Fin config.deviceCount} {ticks : Nat}
    (asleep : pipeline.devices device = .sleeping ticks)
    (complete : config.batchSize ≤ pipeline.buffer.length + 1)
    (delivery : pipeline.delivery = .start) (event : ε) :
    ∃ after, Step pipeline (.tick device event) after ∧
      after.delivery.queue = [pipeline.buffer ++ [event]] ∧
      ∀ worker, after.delivery.workers worker = .waiting := by
  have room : (DeliveryQueue.start : DeliveryQueue ε config.sendWorkers).put
      config.queueMaxBatches (pipeline.buffer ++ [event]) =
        some { DeliveryQueue.start with queue := [pipeline.buffer ++ [event]] } := by
    have notFull : (DeliveryQueue.start : DeliveryQueue ε config.sendWorkers).full
        config.queueMaxBatches = false := by
      exact decide_eq_false (Nat.not_le.mpr config.queueMaxBatchesBound)
    rw [DeliveryQueue.put, notFull]
    rfl
  refine ⟨{ pipeline.setDevice device (Device.next config.maxTicks (ticks + 1)) with
    buffer := []
    delivery := { DeliveryQueue.start with queue := [pipeline.buffer ++ [event]] } }, ?_, rfl,
      fun _ => rfl⟩
  simp only [Step, perform, tick, asleep, add_eq, if_pos complete, delivery,
    DeliveryQueue.submit, room]

theorem take_of_waiting {ε : Type*} {pipeline : Pipeline config ε}
    {worker : Fin config.sendWorkers} {batch : List ε} {rest : List (List ε)}
    (waiting : pipeline.delivery.workers worker = .waiting)
    (queue : pipeline.delivery.queue = batch :: rest) :
    ∃ after, Step pipeline (.take worker) after ∧
      after.delivery.workers worker = .sending batch := by
  refine ⟨{ pipeline with
    delivery := { pipeline.delivery.setWorker worker (.sending batch) with
      queue := rest
      fullLogged := pipeline.delivery.fullLogged && !rest.isEmpty } }, ?_, ?_⟩
  · simp only [Step, perform, DeliveryQueue.take, waiting, queue, Option.map_some]
  · exact Function.update_self ..

/-- Below the batch size, every event of an endless run of one device stays in the
buffer. -/
theorem buffers (endless : config.maxTicks = none) (count : Nat)
    (short : count < config.batchSize) :
    ∃ pipeline : Pipeline config TelemetryPayload,
      Trace Step (start config) (firstDeviceMoves fleet config count) pipeline ∧
        pipeline.devices (firstDevice config) = .sleeping count ∧
        pipeline.buffer = (List.range count).map (firstDeviceEvent fleet) ∧
        pipeline.delivery = .start := by
  induction count with
  | zero =>
      refine ⟨start config, .nil _, ?_, rfl, rfl⟩
      change Device.next config.maxTicks 0 = _
      rw [endless]
      rfl
  | succ count ih =>
      obtain ⟨pipeline, run, asleep, buffer, delivery⟩ := ih (Nat.lt_of_succ_lt short)
      have room : pipeline.buffer.length + 1 < config.batchSize := by
        rw [buffer, List.length_map, List.length_range]
        exact short
      obtain ⟨after, step, stillAsleep, appended, sameDelivery⟩ :=
        tick_of_short endless asleep room (firstDeviceEvent fleet count)
      refine ⟨after, ?_, stillAsleep, ?_, sameDelivery.trans delivery⟩
      · rw [firstDeviceMoves, List.range_succ, List.map_append, List.map_singleton]
        exact .snoc run step
      · rw [appended, buffer, List.range_succ, List.map_append, List.map_singleton]

theorem ticksOf_firstDeviceMoves (count : Nat) :
    ticksOf (firstDevice config) (firstDeviceMoves fleet config count) = count := by
  rw [ticksOf, firstDeviceMoves, List.countP_map, List.countP_eq_length.mpr, List.length_range]
  simp

theorem fleetMoves_firstDeviceMoves (count : Nat) :
    FleetMoves fleet (fun _ _ => idleTick fleet) (firstDeviceMoves fleet config count) := by
  induction count with
  | zero => exact .nil fleet _
  | succ count ih =>
      rw [firstDeviceMoves, List.range_succ, List.map_append, List.map_singleton]
      apply FleetMoves.concat ih
      rintro device event same
      obtain ⟨rfl, rfl⟩ := Move.tick.inj same
      rw [ticksOf_firstDeviceMoves]
      exact ⟨count, 0, rfl⟩

/-- In some run a worker sends a batch of the configured size. -/
theorem exists_full_batch (endless : config.maxTicks = none) :
    ∃ moves ticks, ∃ pipeline : Pipeline config TelemetryPayload,
      Trace Step (start config) moves pipeline ∧ FleetMoves fleet ticks moves ∧
        ∃ worker, pipeline.delivery.workers worker =
          .sending ((List.range config.batchSize).map (firstDeviceEvent fleet)) := by
  have least := config.batchSizeBound
  obtain ⟨count, isCount⟩ : ∃ count, config.batchSize = count + 1 :=
    Nat.exists_eq_add_of_le' least
  obtain ⟨pipeline, run, asleep, buffer, delivery⟩ :=
    @buffers fleet config endless count (by omega)
  have complete : config.batchSize ≤ pipeline.buffer.length + 1 := by
    rw [buffer, List.length_map, List.length_range, isCount]
  obtain ⟨after, step, queue, waiting⟩ :=
    tick_of_complete asleep complete delivery (firstDeviceEvent fleet count)
  let worker : Fin config.sendWorkers := ⟨0, config.sendWorkersBound⟩
  have batch : pipeline.buffer ++ [firstDeviceEvent fleet count] =
      (List.range config.batchSize).map (firstDeviceEvent fleet) := by
    rw [buffer, isCount, List.range_succ, List.map_append, List.map_singleton]
  rw [batch] at queue
  have filled : Trace Step (start config) (firstDeviceMoves fleet config (count + 1)) after := by
    rw [firstDeviceMoves, List.range_succ, List.map_append, List.map_singleton]
    exact .snoc run step
  obtain ⟨last, taken, sending⟩ := take_of_waiting (waiting worker) queue
  have made : FleetMoves fleet (fun _ _ => idleTick fleet)
      (firstDeviceMoves fleet config (count + 1) ++ [.take worker]) :=
    FleetMoves.concat (fleetMoves_firstDeviceMoves (count + 1)) (by simp)
  exact ⟨_, _, last, .snoc filled taken, made, worker, sending⟩

end FullBatch

/-! ### The bounds -/

/-- For every start that gets past the checks of the simulator: the backend accepts its
ids and batch sizes in every run exactly if the fleet has at most 999999 devices and the
batches at most 1000 events. -/
theorem keepsLimits_iff (environ : Environ) (startup : Startup environ) :
    startup.KeepsLimits ↔
      startup.config.deviceCount ≤ 999999 ∧ startup.config.batchSize ≤ maxBatchSize := by
  refine ⟨fun keeps => ?_, fun small => startup.keepsLimits_of_small small.1 small.2⟩
  obtain ⟨count, hardware⟩ := SimulatorConfig.fleetConfig_eq_ok startup.fleetAccepted
  constructor
  · by_contra many
    have built : buildBattery startup.fleet 999999 ∈ buildFleet startup.fleet :=
      List.mem_map_of_mem (List.mem_range.mpr (by omega))
    have refused := (batteryIdFaults_deviceBatteryId_iff 999999).mp
      (keeps.registrations _ built)
    exact absurd refused (by decide)
  · by_contra large
    obtain ⟨moves, ticks, pipeline, run, made, worker, sending⟩ :=
      @exists_full_batch startup.fleet (startup.pipelineConfig none) rfl
    refine (keeps.batches none moves ticks pipeline run made worker _ sending).2 ?_
    rw [refusesTelemetryBatch_eq_tooLarge_iff, List.length_map, List.length_range]
    refine ⟨fun event isEvent => ?_, ?_⟩
    · obtain ⟨index, -, rfl⟩ := List.mem_map.mp isEvent
      exact faults_firstDeviceEvent hardware index
    · change maxBatchSize < startup.config.batchSize.toNat
      omega

/-- An environment that only asks for a million devices. -/
def millionDevices : Environ where
  get name := if name = "DEVICE_COUNT" then some "1000000" else none
  int raw := if raw = "1000000" then some 1000000 else none
  float _ := none

/-- The simulator starts with a million devices, all else being the default. -/
def millionDevicesStartup : Startup millionDevices where
  config :=
    { deviceCount := 1000000
      telemetryIntervalSeconds := 1
      faultRate := 0
      randomSeed := 42
      batchSize := 100
      retryMaxAttempts := 10
      retryBaseDelaySeconds := 1 / 2
      retryMaxDelaySeconds := 30
      queueMaxBatches := 20
      sendWorkers := 2 }
  round := id
  fleet :=
    { deviceCount := 1000000
      telemetryIntervalSeconds := 1
      faultRate := 0
      deviceCountBound := by norm_num
      telemetryIntervalBound := by norm_num
      faultRateBounds := by norm_num }
  loaded := by decide +kernel
  fleetAccepted := by
    norm_num [SimulatorConfig.fleetConfig]
    rfl
  batchSizeAccepted := by norm_num

/-- The last of a million devices has an id with seven digits, which registration
refuses. -/
theorem million_devices_break_limits : ¬ millionDevicesStartup.KeepsLimits := by
  intro keeps
  have built : buildBattery millionDevicesStartup.fleet 999999 ∈
      buildFleet millionDevicesStartup.fleet :=
    List.mem_map_of_mem (List.mem_range.mpr (by decide))
  have refused : batteryIdFaults (deviceBatteryId 999999) = [] := keeps.registrations _ built
  rw [batteryIdFaults_deviceBatteryId_iff] at refused
  exact absurd refused (by decide)

end VoltStream.Simulator
