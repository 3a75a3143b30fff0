/-
Module: VoltStream.Simulator.Config
Purpose: The simulator's configuration: what it reads from the environment, and the
  checks between that and a running pipeline.
Trusted boundary: human-reviewed spec of `simulator/config.py` and of the checks in
  `FleetConfig.__post_init__` and `BatchAccumulator`
Main exports: ConfigError, Environ, SimulatorConfig, SimulatorConfig.fromEnv,
  SimulatorConfig.fleetConfig, Startup, Startup.pipelineConfig
-/
import VoltStream.Simulator.Fleet
import VoltStream.Simulator.Client
import VoltStream.Simulator.Pipeline

namespace VoltStream.Simulator

/-- The `ValueError`s of a start, by the check that raises them; `invalidLiteral` is the one of
a bare `int`, which names no setting. -/
inductive ConfigError where
  | logFormat (got : String)
  | invalidLiteral (got : String)
  | notAnInteger (name got : String)
  | notANumber (name got : String)
  | maxAttempts (got : Int)
  | baseDelaySeconds (got : ℚ)
  | maxDelaySeconds (got : ℚ)
  | atLeastOne (name : String) (got : Int)
  | deviceCount (got : Int)
  | telemetryIntervalSeconds (got : ℚ)
  | faultRate (got : ℚ)
deriving Repr, DecidableEq

/-- `os.environ`, with what `int` and `float` make of a text. -/
structure Environ where
  get : String → Option String
  int : String → Option Int
  float : String → Option ℚ

section Reading

variable (environ : Environ) (name : String)

/-- `_env_int`. -/
def envInt (default : Int) : Except ConfigError Int :=
  match environ.get name with
  | none => .ok default
  | some raw =>
      match environ.int raw with
      | some value => .ok value
      | none => .error (.notAnInteger name raw)

/-- `_env_float`. -/
def envFloat (default : ℚ) : Except ConfigError ℚ :=
  match environ.get name with
  | none => .ok default
  | some raw =>
      match environ.float raw with
      | some value => .ok value
      | none => .error (.notANumber name raw)

/-- The `RANDOM_SEED` of `from_env`, with a bare `int`. -/
def envRandomSeed (default : Int) : Except ConfigError Int :=
  match environ.get "RANDOM_SEED" with
  | none => .ok default
  | some raw =>
      match environ.int raw with
      | some value => .ok value
      | none => .error (.invalidLiteral raw)

end Reading

def defaultDeviceCount : Int := 100
def defaultTelemetryIntervalSeconds : ℚ := 1
def defaultFaultRate : ℚ := 0
def defaultRandomSeed : Int := 42
def defaultBatchSize : Int := 100
def defaultQueueMaxBatches : Int := 20
def defaultSendWorkers : Int := 2

def validLogFormats : List String := ["json", "text"]

/-- `SimulatorConfig`, less the addresses and log settings, which nothing here reads. -/
structure SimulatorConfig where
  deviceCount : Int
  telemetryIntervalSeconds : ℚ
  faultRate : ℚ
  randomSeed : Int
  batchSize : Int
  retryMaxAttempts : Int
  retryBaseDelaySeconds : ℚ
  retryMaxDelaySeconds : ℚ
  queueMaxBatches : Int
  sendWorkers : Int
deriving Repr, DecidableEq

namespace SimulatorConfig

variable (config : SimulatorConfig)

/-- `retry_policy`. -/
def retryPolicy : Except ConfigError RetryPolicy :=
  if maxAttempts : 1 ≤ config.retryMaxAttempts then
    if baseDelay : 0 < config.retryBaseDelaySeconds then
      if maxDelay : config.retryBaseDelaySeconds ≤ config.retryMaxDelaySeconds then
        .ok
          { maxAttempts := config.retryMaxAttempts.toNat
            baseDelaySeconds := config.retryBaseDelaySeconds
            maxDelaySeconds := config.retryMaxDelaySeconds
            maxAttemptsBound := by omega
            baseDelayBound := baseDelay
            maxDelayBound := maxDelay }
      else .error (.maxDelaySeconds config.retryMaxDelaySeconds)
    else .error (.baseDelaySeconds config.retryBaseDelaySeconds)
  else .error (.maxAttempts config.retryMaxAttempts)

/-- The checks at the end of `from_env`. -/
def checked : Except ConfigError SimulatorConfig := do
  let _ ← config.retryPolicy
  if config.queueMaxBatches < 1 then
    throw (.atLeastOne "QUEUE_MAX_BATCHES" config.queueMaxBatches)
  if config.sendWorkers < 1 then throw (.atLeastOne "SEND_WORKERS" config.sendWorkers)
  return config

/-- `from_env` up to those checks. -/
def read (environ : Environ) : Except ConfigError SimulatorConfig := do
  let logFormat := (environ.get "LOG_FORMAT").getD "json"
  if logFormat ∉ validLogFormats then throw (.logFormat logFormat)
  let retryMaxAttempts ← envInt environ "RETRY_MAX_ATTEMPTS" RetryPolicy.default.maxAttempts
  let retryBaseDelaySeconds ←
    envFloat environ "RETRY_BASE_DELAY_SECONDS" RetryPolicy.default.baseDelaySeconds
  let retryMaxDelaySeconds ←
    envFloat environ "RETRY_MAX_DELAY_SECONDS" RetryPolicy.default.maxDelaySeconds
  let randomSeed ← envRandomSeed environ defaultRandomSeed
  let deviceCount ← envInt environ "DEVICE_COUNT" defaultDeviceCount
  let telemetryIntervalSeconds ←
    envFloat environ "TELEMETRY_INTERVAL_SECONDS" defaultTelemetryIntervalSeconds
  let faultRate ← envFloat environ "FAULT_RATE" defaultFaultRate
  let batchSize ← envInt environ "BATCH_SIZE" defaultBatchSize
  let queueMaxBatches ← envInt environ "QUEUE_MAX_BATCHES" defaultQueueMaxBatches
  let sendWorkers ← envInt environ "SEND_WORKERS" defaultSendWorkers
  return {
    deviceCount := deviceCount
    telemetryIntervalSeconds := telemetryIntervalSeconds
    faultRate := faultRate
    randomSeed := randomSeed
    batchSize := batchSize
    retryMaxAttempts := retryMaxAttempts
    retryBaseDelaySeconds := retryBaseDelaySeconds
    retryMaxDelaySeconds := retryMaxDelaySeconds
    queueMaxBatches := queueMaxBatches
    sendWorkers := sendWorkers }

/-- `from_env`. -/
def fromEnv (environ : Environ) : Except ConfigError SimulatorConfig := do
  let config ← read environ
  config.checked

/-- The `FleetConfig` that `run_simulator` builds, with the default hardware. -/
def fleetConfig (round : ℚ → ℚ) : Except ConfigError FleetConfig :=
  if deviceCount : 1 ≤ config.deviceCount then
    if interval : 0 < config.telemetryIntervalSeconds then
      if faultRate : 0 ≤ config.faultRate ∧ config.faultRate ≤ 1 then
        .ok
          { deviceCount := config.deviceCount.toNat
            telemetryIntervalSeconds := config.telemetryIntervalSeconds
            faultRate := config.faultRate
            round := round
            deviceCountBound := by omega
            telemetryIntervalBound := interval
            faultRateBounds := faultRate }
      else .error (.faultRate config.faultRate)
    else .error (.telemetryIntervalSeconds config.telemetryIntervalSeconds)
  else .error (.deviceCount config.deviceCount)

/-- What `from_env` has checked of the queue and its workers. -/
theorem bounds_of_fromEnv {environ : Environ} {config : SimulatorConfig}
    (loaded : fromEnv environ = .ok config) :
    1 ≤ config.queueMaxBatches ∧ 1 ≤ config.sendWorkers := by
  unfold fromEnv at loaded
  cases readIn : read environ with
  | error error =>
      rw [readIn] at loaded
      cases loaded
  | ok found =>
      rw [readIn] at loaded
      change found.checked = .ok config at loaded
      unfold checked at loaded
      cases policy : found.retryPolicy with
      | error error =>
          rw [policy] at loaded
          cases loaded
      | ok retry =>
          rw [policy] at loaded
          by_cases queue : found.queueMaxBatches < 1
          · simp [queue, bind, Except.bind, throw, throwThe, MonadExceptOf.throw] at loaded
          · by_cases workers : found.sendWorkers < 1
            · simp [queue, workers, bind, Except.bind, throw, throwThe,
                MonadExceptOf.throw] at loaded
            · simp [queue, workers, bind, Except.bind, pure, Except.pure] at loaded
              rw [← loaded]
              exact ⟨not_lt.mp queue, not_lt.mp workers⟩

/-- The fleet has as many devices as configured, with the default hardware. -/
theorem fleetConfig_eq_ok {config : SimulatorConfig} {round : ℚ → ℚ} {fleet : FleetConfig}
    (accepted : config.fleetConfig round = .ok fleet) :
    (fleet.deviceCount : Int) = config.deviceCount ∧ fleet.HasDefaultHardware := by
  unfold fleetConfig at accepted
  split_ifs at accepted with positive
  cases accepted
  exact ⟨Int.toNat_of_nonneg (by omega), ⟨rfl, rfl, rfl⟩⟩

end SimulatorConfig

/-- A start of the simulator that gets past all checks: `from_env`, `FleetConfig` and
`BatchAccumulator` accept its configuration. -/
structure Startup (environ : Environ) where
  config : SimulatorConfig
  round : ℚ → ℚ
  fleet : FleetConfig
  loaded : SimulatorConfig.fromEnv environ = .ok config
  fleetAccepted : config.fleetConfig round = .ok fleet
  batchSizeAccepted : 1 ≤ config.batchSize

/-- The pipeline that such a start runs, with the `max_ticks` of the call. -/
def Startup.pipelineConfig {environ : Environ} (startup : Startup environ)
    (maxTicks : Option Nat) : PipelineConfig where
  deviceCount := startup.fleet.deviceCount
  batchSize := startup.config.batchSize.toNat
  queueMaxBatches := startup.config.queueMaxBatches.toNat
  sendWorkers := startup.config.sendWorkers.toNat
  maxTicks := maxTicks
  deviceCountBound := startup.fleet.deviceCountBound
  batchSizeBound := by
    have accepted := startup.batchSizeAccepted
    omega
  queueMaxBatchesBound := by
    have accepted := (SimulatorConfig.bounds_of_fromEnv startup.loaded).1
    omega
  sendWorkersBound := by
    have accepted := (SimulatorConfig.bounds_of_fromEnv startup.loaded).2
    omega

end VoltStream.Simulator
