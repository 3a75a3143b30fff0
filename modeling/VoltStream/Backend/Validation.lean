/-
Module: VoltStream.Backend.Validation
Purpose: What the request schemas check of a telemetry event and of a registration
  before a handler sees them, and the limit on the size of a batch.
Trusted boundary: human-reviewed spec of `app/schemas/telemetry.py`, of
  `BatteryRegistrationRequest` in `app/schemas/battery.py`, of `create_telemetry_batch`
  in `app/api/telemetry.py` and of the `re` pattern that they use
Main exports: isDecimalDigit, matchesBatteryIdPattern, FieldFault, TelemetryPayload,
  TelemetryPayload.faults, TelemetryPayload.validate, RegistrationPayload,
  RegistrationPayload.faults, maxBatchSize, Refusal, refusesTelemetryBatch
-/
import VoltStream.Backend.Ingestion

namespace VoltStream.Backend

/-! ### The format of a battery id -/

/-- The zeros of the scripts that have decimal digits of their own: category `Nd`
comes in runs of ten. -/
def decimalZeros : List Nat :=
  [0x30, 0x660, 0x6F0, 0x7C0, 0x966, 0x9E6, 0xA66, 0xAE6, 0xB66, 0xBE6, 0xC66, 0xCE6, 0xD66,
    0xDE6, 0xE50, 0xED0, 0xF20, 0x1040, 0x1090, 0x17E0, 0x1810, 0x1946, 0x19D0, 0x1A80, 0x1A90,
    0x1B50, 0x1BB0, 0x1C40, 0x1C50, 0xA620, 0xA8D0, 0xA900, 0xA9D0, 0xA9F0, 0xAA50, 0xABF0,
    0xFF10, 0x104A0, 0x10D30, 0x11066, 0x110F0, 0x11136, 0x111D0, 0x112F0, 0x11450, 0x114D0,
    0x11650, 0x116C0, 0x11730, 0x118E0, 0x11950, 0x11C50, 0x11D50, 0x11DA0, 0x11F50, 0x16A60,
    0x16AC0, 0x16B50, 0x1D7CE, 0x1D7D8, 0x1D7E2, 0x1D7EC, 0x1D7F6, 0x1E140, 0x1E2F0, 0x1E4F0,
    0x1E950, 0x1FBF0]

/-- `\d` of a pattern over text: a decimal digit of any script. -/
def isDecimalDigit (character : Char) : Bool :=
  decimalZeros.any fun first => first ≤ character.toNat ∧ character.toNat < first + 10

/-- `BATTERY_ID_PATTERN.match`, for `^BAT-\d{6}$`; `$` also matches in front of a last
line feed. -/
def matchesBatteryIdPattern (value : String) : Bool :=
  match value.toList with
  | 'B' :: 'A' :: 'T' :: '-' :: digits =>
      6 ≤ digits.length ∧ (digits.take 6).all isDecimalDigit ∧
        (digits.drop 6 = [] ∨ digits.drop 6 = ['\n'])
  | _ => false

/-! ### Faults -/

/-- A fault of a field: a bound that the value breaks, or what a validator raises. -/
inductive FaultKind where
  | greaterThan (bound : ℚ)
  | greaterThanEqual (bound : ℚ)
  | lessThanEqual (bound : ℚ)
  | batteryIdFormat (value : String)
  | eventIdVersion (version : Nat)
  | timezoneMissing
deriving Repr, DecidableEq

/-- An entry of the `422` body: the field and what is wrong with it. -/
structure FieldFault where
  field : String
  kind : FaultKind
deriving Repr, DecidableEq

/-- `Field(ge=low, le=high)`. -/
def boundFaults (field : String) (low high value : ℚ) : List FieldFault :=
  if value < low then [{ field := field, kind := .greaterThanEqual low }]
  else if high < value then [{ field := field, kind := .lessThanEqual high }]
  else []

theorem boundFaults_eq_nil_iff {field : String} {low high value : ℚ} :
    boundFaults field low high value = [] ↔ low ≤ value ∧ value ≤ high := by
  unfold boundFaults
  split_ifs with below above
  · exact iff_of_false (by simp) fun within => below.not_ge within.1
  · exact iff_of_false (by simp) fun within => above.not_ge within.2
  · exact iff_of_true rfl ⟨not_lt.mp below, not_lt.mp above⟩

/-- `Field(gt=0)`. -/
def positiveFaults (field : String) (value : ℚ) : List FieldFault :=
  if value ≤ 0 then [{ field := field, kind := .greaterThan 0 }] else []

/-- `battery_id_must_match_format`, which both schemas have. -/
def batteryIdFaults (value : String) : List FieldFault :=
  if matchesBatteryIdPattern value then []
  else [{ field := "battery_id", kind := .batteryIdFormat value }]

theorem batteryIdFaults_eq_nil_iff {value : String} :
    batteryIdFaults value = [] ↔ matchesBatteryIdPattern value = true := by
  unfold batteryIdFaults
  split_ifs with fits
  · exact iff_of_true rfl fits
  · exact iff_of_false (by simp) fits

/-! ### Telemetry -/

/-- The fields of a telemetry event as they are sent. -/
structure TelemetryPayload where
  eventId : Uuid
  eventIdVersion : Nat
  batteryId : String
  timestamp : Timestamp
  timezoneAware : Bool
  stateOfCharge : ℚ
  voltage : ℚ
  current : ℚ
  powerKw : ℚ
  temperatureC : ℚ
  healthPercent : ℚ
  status : TelemetryStatus
deriving Repr, DecidableEq

namespace TelemetryPayload

variable (payload : TelemetryPayload)

/-- The faults of the numbers. -/
def numericFaults : List FieldFault :=
  boundFaults "state_of_charge" 0 100 payload.stateOfCharge ++
    boundFaults "voltage" minPlausibleVoltage maxPlausibleVoltage payload.voltage ++
    boundFaults "current" minPlausibleCurrentA maxPlausibleCurrentA payload.current ++
    boundFaults "power_kw" minPlausiblePowerKw maxPlausiblePowerKw payload.powerKw ++
    boundFaults "temperature_c" minPlausibleTemperatureC maxPlausibleTemperatureC
      payload.temperatureC ++
    boundFaults "health_percent" 0 100 payload.healthPercent

/-- Every number is within its bounds. -/
structure NumbersInBounds : Prop where
  stateOfCharge : 0 ≤ payload.stateOfCharge ∧ payload.stateOfCharge ≤ 100
  voltage : minPlausibleVoltage ≤ payload.voltage ∧ payload.voltage ≤ maxPlausibleVoltage
  current : minPlausibleCurrentA ≤ payload.current ∧ payload.current ≤ maxPlausibleCurrentA
  powerKw : minPlausiblePowerKw ≤ payload.powerKw ∧ payload.powerKw ≤ maxPlausiblePowerKw
  temperatureC :
    minPlausibleTemperatureC ≤ payload.temperatureC ∧
      payload.temperatureC ≤ maxPlausibleTemperatureC
  healthPercent : 0 ≤ payload.healthPercent ∧ payload.healthPercent ≤ 100

theorem numericFaults_eq_nil_iff : payload.numericFaults = [] ↔ payload.NumbersInBounds := by
  simp only [numericFaults, List.append_eq_nil_iff, boundFaults_eq_nil_iff]
  constructor
  · rintro ⟨⟨⟨⟨⟨stateOfCharge, voltage⟩, current⟩, powerKw⟩, temperatureC⟩, healthPercent⟩
    exact ⟨stateOfCharge, voltage, current, powerKw, temperatureC, healthPercent⟩
  · rintro ⟨stateOfCharge, voltage, current, powerKw, temperatureC, healthPercent⟩
    exact ⟨⟨⟨⟨⟨stateOfCharge, voltage⟩, current⟩, powerKw⟩, temperatureC⟩, healthPercent⟩

/-- The faults of a `TelemetryEvent`, field by field. -/
def faults : List FieldFault :=
  (if payload.eventIdVersion = 4 then []
    else [{ field := "event_id", kind := .eventIdVersion payload.eventIdVersion }]) ++
    batteryIdFaults payload.batteryId ++
    (if payload.timezoneAware then [] else [{ field := "timestamp", kind := .timezoneMissing }]) ++
    payload.numericFaults

theorem numbersInBounds_of_faults (clean : payload.faults = []) : payload.NumbersInBounds :=
  payload.numericFaults_eq_nil_iff.mp (List.append_eq_nil_iff.mp clean).2

/-- `TelemetryEvent`: the event, or the faults of the `422`. -/
def validate : Except (List FieldFault) TelemetryEvent :=
  if clean : payload.faults = [] then
    let inBounds := payload.numbersInBounds_of_faults clean
    .ok
      { eventId := payload.eventId
        batteryId := payload.batteryId
        timestamp := payload.timestamp
        stateOfCharge := payload.stateOfCharge
        voltage := payload.voltage
        current := payload.current
        powerKw := payload.powerKw
        temperatureC := payload.temperatureC
        healthPercent := payload.healthPercent
        status := payload.status
        stateOfChargeBounds := inBounds.stateOfCharge
        voltageBounds := inBounds.voltage
        currentBounds := inBounds.current
        powerKwBounds := inBounds.powerKw
        temperatureCBounds := inBounds.temperatureC
        healthPercentBounds := inBounds.healthPercent }
  else .error payload.faults

end TelemetryPayload

/-! ### Registration -/

/-- The fields of a `BatteryRegistrationRequest` as they are sent. -/
structure RegistrationPayload where
  batteryId : String
  capacityKwh : ℚ
  maxPowerKw : ℚ
  nominalVoltage : ℚ
  latitude : Option ℚ
  longitude : Option ℚ
  profileType : ProfileType
deriving Repr, DecidableEq

/-- The faults of a `BatteryRegistrationRequest`, field by field. -/
def RegistrationPayload.faults (payload : RegistrationPayload) : List FieldFault :=
  batteryIdFaults payload.batteryId ++
    positiveFaults "capacity_kwh" payload.capacityKwh ++
    positiveFaults "max_power_kw" payload.maxPowerKw ++
    positiveFaults "nominal_voltage" payload.nominalVoltage ++
    payload.latitude.elim [] (boundFaults "latitude" (-90) 90) ++
    payload.longitude.elim [] (boundFaults "longitude" (-180) 180)

/-! ### Batches -/

/-- The default of `MAX_BATCH_SIZE`. -/
def maxBatchSize : Nat := 1000

/-- Why a request is turned away before its handler runs, or by it: the faults of each
event of a `422`, a `422` for an empty list, or an `APIError`. -/
inductive Refusal where
  | unprocessable (faults : List (List FieldFault))
  | tooShort
  | apiError (error : APIError)
deriving Repr, DecidableEq

/-- The `413` of `create_telemetry_batch`. -/
def batchTooLarge (count : Nat) : APIError where
  statusCode := 413
  code := "BATCH_TOO_LARGE"
  message := s!"Batch of {count} events exceeds the maximum of {maxBatchSize}"

/-- What a batch meets before `ingest_telemetry_batch`: the schema, with the faults of
all its events, then the size limit. -/
def refusesTelemetryBatch (events : List TelemetryPayload) : Option Refusal :=
  if events = [] then some .tooShort
  else if events.any fun event => event.faults ≠ [] then
    some (.unprocessable (events.map TelemetryPayload.faults))
  else if maxBatchSize < events.length then some (.apiError (batchTooLarge events.length))
  else none

end VoltStream.Backend
