/-
Module: VoltStream.Proofs.BatteryIdGrammar
Purpose: Which strings the request schemas take for a battery id, against the format
  `BAT-######` of the contract.
Trusted boundary: none
Main exports: batteryIdPattern, matchesBatteryIdPattern_eq_fits, AcceptsBatteryId,
  InContractFormat, PassesForBatteryId, FollowsContract, followsContract_iff
-/
import VoltStream.Text.Pattern
import VoltStream.Backend.Validation

namespace VoltStream.Backend

open Text (Pattern)

/-! ### The pattern -/

/-- `BATTERY_ID_PATTERN`, that is `^BAT-\d{6}$`. -/
def batteryIdPattern : Pattern :=
  .seq .start (.seq (.literal ['B', 'A', 'T', '-'])
    (.seq (.times 6 (.one isDecimalDigit)) .finish))

theorem matchesBatteryIdPattern_iff (value : String) :
    matchesBatteryIdPattern value = true ↔
      ∃ digits ending, digits.length = 6 ∧ (∀ digit ∈ digits, isDecimalDigit digit = true) ∧
        Pattern.IsEnd ending ∧ value.toList = ['B', 'A', 'T', '-'] ++ digits ++ ending := by
  unfold matchesBatteryIdPattern
  split
  · next rest shape =>
      rw [shape]
      simp only [Bool.decide_and, Bool.and_eq_true, decide_eq_true_eq,
        List.all_eq_true]
      constructor
      · rintro ⟨enough, digits, ending⟩
        exact ⟨rest.take 6, rest.drop 6, List.length_take_of_le enough, digits, ending,
          by rw [List.append_assoc, List.take_append_drop]; rfl⟩
      · rintro ⟨digits, ending, six, areDigits, atEnd, divided⟩
        obtain rfl : rest = digits ++ ending := by
          simpa [List.append_assoc] using divided
        rw [List.take_left' six, List.drop_left' six]
        exact ⟨by rw [List.length_append, six]; omega, areDigits, atEnd⟩
  · next other =>
      refine iff_of_false (by simp) ?_
      rintro ⟨digits, ending, -, -, -, divided⟩
      exact other (digits ++ ending) (by rw [divided, List.append_assoc]; rfl)

/-- The validators' check is that the pattern fits. -/
theorem matchesBatteryIdPattern_eq_fits (value : String) :
    matchesBatteryIdPattern value = batteryIdPattern.fits value.toList := by
  rw [Bool.eq_iff_iff, matchesBatteryIdPattern_iff, batteryIdPattern,
    Pattern.fits_literal_times_iff]

/-! ### The faults of the field -/

/-- No fault of these is about the battery id. -/
def AcceptsBatteryId (faults : List FieldFault) : Prop :=
  ∀ fault ∈ faults, fault.field ≠ "battery_id"

theorem acceptsBatteryId_append {first second : List FieldFault} :
    AcceptsBatteryId (first ++ second) ↔ AcceptsBatteryId first ∧ AcceptsBatteryId second :=
  List.forall_mem_append

theorem acceptsBatteryId_ite {condition : Prop} [Decidable condition] {fault : FieldFault}
    (other : fault.field ≠ "battery_id") :
    AcceptsBatteryId (if condition then [] else [fault]) := by
  split
  · exact List.forall_mem_nil _
  · exact List.forall_mem_singleton.mpr other

theorem acceptsBatteryId_boundFaults {field : String} (other : field ≠ "battery_id")
    (low high value : ℚ) : AcceptsBatteryId (boundFaults field low high value) := by
  unfold boundFaults
  split_ifs
  · exact List.forall_mem_singleton.mpr other
  · exact List.forall_mem_singleton.mpr other
  · exact List.forall_mem_nil _

theorem acceptsBatteryId_positiveFaults {field : String} (other : field ≠ "battery_id")
    (value : ℚ) : AcceptsBatteryId (positiveFaults field value) := by
  unfold positiveFaults
  split_ifs
  · exact List.forall_mem_singleton.mpr other
  · exact List.forall_mem_nil _

theorem acceptsBatteryId_elim {field : String} (other : field ≠ "battery_id") (low high : ℚ)
    (value : Option ℚ) : AcceptsBatteryId (value.elim [] (boundFaults field low high)) := by
  cases value with
  | none => exact List.forall_mem_nil _
  | some value => exact acceptsBatteryId_boundFaults other low high value

theorem acceptsBatteryId_batteryIdFaults (value : String) :
    AcceptsBatteryId (batteryIdFaults value) ↔ matchesBatteryIdPattern value = true := by
  unfold batteryIdFaults
  split_ifs with fits
  · exact iff_of_true (List.forall_mem_nil _) fits
  · exact iff_of_false (fun accepts => accepts _ (List.mem_singleton_self _) rfl) fits

/-- The numbers of a telemetry event are other fields. -/
theorem TelemetryPayload.acceptsBatteryId_numericFaults (payload : TelemetryPayload) :
    AcceptsBatteryId payload.numericFaults := by
  simp only [numericFaults, acceptsBatteryId_append]
  refine ⟨⟨⟨⟨⟨?_, ?_⟩, ?_⟩, ?_⟩, ?_⟩, ?_⟩ <;>
    exact acceptsBatteryId_boundFaults (by decide) _ _ _

/-- A telemetry event has a fault of the battery id unless the pattern fits it. -/
theorem TelemetryPayload.acceptsBatteryId_iff (payload : TelemetryPayload) :
    AcceptsBatteryId payload.faults ↔ matchesBatteryIdPattern payload.batteryId = true := by
  simp only [faults, acceptsBatteryId_append, acceptsBatteryId_batteryIdFaults]
  constructor
  · rintro ⟨⟨⟨-, fits⟩, -⟩, -⟩
    exact fits
  · intro fits
    refine ⟨⟨⟨?_, fits⟩, ?_⟩, payload.acceptsBatteryId_numericFaults⟩
    · apply acceptsBatteryId_ite
      simp
    · apply acceptsBatteryId_ite
      simp

/-- So has a registration. -/
theorem RegistrationPayload.acceptsBatteryId_iff (payload : RegistrationPayload) :
    AcceptsBatteryId payload.faults ↔ matchesBatteryIdPattern payload.batteryId = true := by
  simp only [faults, acceptsBatteryId_append, acceptsBatteryId_batteryIdFaults]
  constructor
  · rintro ⟨⟨⟨⟨⟨fits, -⟩, -⟩, -⟩, -⟩, -⟩
    exact fits
  · intro fits
    refine ⟨⟨⟨⟨⟨fits, ?_⟩, ?_⟩, ?_⟩, ?_⟩, ?_⟩
    · exact acceptsBatteryId_positiveFaults (by decide) _
    · exact acceptsBatteryId_positiveFaults (by decide) _
    · exact acceptsBatteryId_positiveFaults (by decide) _
    · exact acceptsBatteryId_elim (by decide) _ _ _
    · exact acceptsBatteryId_elim (by decide) _ _ _

/-! ### The contract's format -/

/-- `BAT-######`: the prefix, then six of the digits 0 to 9, then nothing. -/
def InContractFormat (value : String) : Prop :=
  ∃ digits : List Char, digits.length = 6 ∧ (∀ digit ∈ digits, digit.isDigit = true) ∧
    value.toList = ['B', 'A', 'T', '-'] ++ digits

/-- Both schemas take the string for a battery id, whatever the other fields, exactly if
it is one. -/
def FollowsContract (value : String) : Prop :=
  (∀ payload : TelemetryPayload, payload.batteryId = value →
    (AcceptsBatteryId payload.faults ↔ InContractFormat value)) ∧
  ∀ payload : RegistrationPayload, payload.batteryId = value →
    (AcceptsBatteryId payload.faults ↔ InContractFormat value)

/-- The prefix, then six decimal digits of whatever script, then nothing or a line feed;
with a digit that is none of 0 to 9, or with the line feed. -/
def PassesForBatteryId (value : String) : Prop :=
  ∃ digits ending : List Char, digits.length = 6 ∧
    (∀ digit ∈ digits, isDecimalDigit digit = true) ∧ Pattern.IsEnd ending ∧
    value.toList = ['B', 'A', 'T', '-'] ++ digits ++ ending ∧
    ((∃ digit ∈ digits, digit.isDigit = false) ∨ ending ≠ [])

theorem isDecimalDigit_of_isDigit {character : Char} (isDigit : character.isDigit = true) :
    isDecimalDigit character = true := by
  simp only [Char.isDigit, ge_iff_le, UInt32.le_iff_toNat_le, Bool.and_eq_true,
    decide_eq_true_eq] at isDigit
  have bounds : 48 ≤ character.toNat ∧ character.toNat ≤ 57 := isDigit
  refine List.any_eq_true.mpr ⟨0x30, by decide, ?_⟩
  rw [decide_eq_true_eq]
  omega

/-- Where the strings divide after the prefix and six characters, they divide alike. -/
theorem digits_unique {prefixed digits others ending rest : List Char}
    (six : digits.length = 6) (sixOthers : others.length = 6)
    (same : prefixed ++ digits ++ ending = prefixed ++ others ++ rest) :
    digits = others ∧ ending = rest := by
  rw [List.append_assoc, List.append_assoc, List.append_cancel_left_eq] at same
  exact List.append_inj same (six.trans sixOthers.symm)

/-- The pattern fits the contract's ids, and strings that pass for one. -/
theorem matchesBatteryIdPattern_iff_or (value : String) :
    matchesBatteryIdPattern value = true ↔
      InContractFormat value ∨ PassesForBatteryId value := by
  rw [matchesBatteryIdPattern_iff]
  constructor
  · rintro ⟨digits, ending, six, areDigits, atEnd, divided⟩
    by_cases ascii : ∃ digit ∈ digits, digit.isDigit = false
    · exact .inr ⟨digits, ending, six, areDigits, atEnd, divided, .inl ascii⟩
    · by_cases nothing : ending = []
      · rw [nothing, List.append_nil] at divided
        exact .inl ⟨digits, six, by simpa using ascii, divided⟩
      · exact .inr ⟨digits, ending, six, areDigits, atEnd, divided, .inr nothing⟩
  · rintro (⟨digits, six, areDigits, divided⟩ |
      ⟨digits, ending, six, areDigits, atEnd, divided, -⟩)
    · exact ⟨digits, [], six, fun digit isDigit =>
        isDecimalDigit_of_isDigit (areDigits digit isDigit), .inl rfl,
        divided.trans (List.append_nil _).symm⟩
    · exact ⟨digits, ending, six, areDigits, atEnd, divided⟩

theorem not_passesForBatteryId {value : String} (inFormat : InContractFormat value) :
    ¬PassesForBatteryId value := by
  rintro ⟨others, ending, sixOthers, -, -, dividedOthers, unlike⟩
  obtain ⟨digits, six, areDigits, divided⟩ := inFormat
  obtain ⟨rfl, rfl⟩ := digits_unique six sixOthers
    ((List.append_nil _).trans (divided.symm.trans dividedOthers))
  rcases unlike with ⟨digit, isDigit, notAscii⟩ | notEmpty
  · rw [areDigits digit isDigit] at notAscii
    exact absurd notAscii (by decide)
  · exact notEmpty rfl

/-- A payload with this id. -/
def TelemetryPayload.withId (batteryId : String) : TelemetryPayload where
  eventId := 0
  eventIdVersion := 4
  batteryId := batteryId
  timestamp := 0
  timezoneAware := true
  stateOfCharge := 50
  voltage := 48
  current := 0
  powerKw := 0
  temperatureC := 25
  healthPercent := 100
  status := .idle

/-- For every string: the schemas take it for a battery id exactly if the contract does,
unless it passes for one. -/
theorem followsContract_iff (value : String) :
    FollowsContract value ↔ ¬PassesForBatteryId value := by
  constructor
  · rintro ⟨telemetry, -⟩ passes
    have taken := (TelemetryPayload.acceptsBatteryId_iff (.withId value)).mpr
      ((matchesBatteryIdPattern_iff_or value).mpr (.inr passes))
    exact not_passesForBatteryId ((telemetry (.withId value) rfl).mp taken) passes
  · intro passesNot
    have exactly : matchesBatteryIdPattern value = true ↔ InContractFormat value :=
      (matchesBatteryIdPattern_iff_or value).trans (or_iff_left passesNot)
    refine ⟨?_, ?_⟩
    · rintro payload rfl
      exact (TelemetryPayload.acceptsBatteryId_iff payload).trans exactly
    · rintro payload rfl
      exact (RegistrationPayload.acceptsBatteryId_iff payload).trans exactly

/-- A line feed after the six digits goes through. -/
theorem line_feed_breaks_contract : ¬FollowsContract "BAT-000421\n" := by
  rintro ⟨telemetry, -⟩
  have taken := (TelemetryPayload.acceptsBatteryId_iff (.withId "BAT-000421\n")).mpr
    (by decide +kernel)
  obtain ⟨digits, six, -, divided⟩ := (telemetry (.withId _) rfl).mp taken
  have eleven : "BAT-000421\n".toList.length = 11 := by decide +kernel
  rw [divided, List.length_append, six] at eleven
  exact absurd eleven (by decide)

end VoltStream.Backend
