/-
Module: VoltStream.Proofs.FleetRestarts
Purpose: What becomes of the registration of a fleet when the simulator is started again and
  again, with the same fleet or another.
Trusted boundary: human-reviewed statements of the results
Main exports: deviceRow, FleetConfig.faultCount, Grown, FleetStart.Answered,
  restart_registers_fleet, other_fleet_iff
-/
import VoltStream.Simulator.FleetRegistration
import VoltStream.Proofs.BackendLimits
import VoltStream.Proofs.DutyCycle

namespace VoltStream.Simulator

open Relational Numeric
open Backend (ProfileType Timestamp RegistrationPayload createBattery registerBattery)

/-! ### One device -/

/-- The profile of the device with this index. -/
def FleetConfig.profile (config : FleetConfig) (index : Nat) : ProfileType :=
  profileForIndex config.round index config.deviceCount config.faultRate

/-- The row of a device that is registered at this moment. -/
def deviceRow (config : FleetConfig) (index : Nat) (now : Timestamp) : Backend.Battery where
  batteryId := deviceBatteryId index
  capacityKwh := config.capacityKwh
  maxPowerKw := config.maxPowerKw
  nominalVoltage := config.nominalVoltage
  latitude := none
  longitude := none
  installationDate := none
  profileType := config.profile index
  createdAt := now

/-- A registered battery is the device, whenever it was registered. -/
def IsDevice (config : FleetConfig) (index : Nat) (existing : Backend.Battery) : Prop :=
  existing = deviceRow config index existing.createdAt

section Device

variable {config : FleetConfig} {index : Nat}
  {batteries : Table Backend.Battery Backend.Battery.batteryId}

/-- The schema minds nothing but an id that has outgrown its six digits. -/
theorem faults_device_iff (hardware : config.HasDefaultHardware) :
    (registrationPayload (buildBattery config index)).faults = [] ↔ index < 999999 := by
  rw [RegistrationPayload.faults_eq_nil_iff, ← batteryIdFaults_deviceBatteryId_iff]
  constructor
  · exact fun inBounds => inBounds.batteryId
  · intro valid
    have capacity : config.capacityKwh = 10 := hardware.capacityKwh
    have power : config.maxPowerKw = 5 := hardware.maxPowerKw
    have voltage : config.nominalVoltage = 48 := hardware.nominalVoltage
    refine ⟨valid, ?_, ?_, ?_, ?_, ?_⟩
    · change 0 < config.capacityKwh
      rw [capacity]
      norm_num
    · change 0 < config.maxPowerKw
      rw [power]
      norm_num
    · change 0 < config.nominalVoltage
      rw [voltage]
      norm_num
    · intro degrees isLatitude
      cases isLatitude
    · intro degrees isLongitude
      cases isLongitude

/-- The request of a device is for its row. -/
theorem validate_device (hardware : config.HasDefaultHardware) (short : index < 999999) :
    ∃ request, (registrationPayload (buildBattery config index)).validate = .ok request ∧
      request.batteryId = deviceBatteryId index ∧
      (∀ now, request.toBattery now = deviceRow config index now) ∧
      ∀ existing : Backend.Battery, existing.batteryId = deviceBatteryId index →
        (Backend.matchesExisting existing request = true ↔ IsDevice config index existing) := by
  have clean := (faults_device_iff hardware).mpr short
  refine ⟨_, dif_pos clean, rfl, fun now => rfl, ?_⟩
  rintro ⟨batteryId, capacity, power, voltage, latitude, longitude, installed, profile, created⟩
    same
  obtain rfl : batteryId = deviceBatteryId index := same
  simp only [Backend.matchesExisting, IsDevice, deviceRow, Backend.Battery.mk.injEq,
    decide_eq_true_eq]
  constructor
  · rintro ⟨sameCapacity, samePower, sameVoltage, noLatitude, noLongitude, notInstalled,
      sameProfile⟩
    exact ⟨trivial, sameCapacity, samePower, sameVoltage, noLatitude, noLongitude, notInstalled,
      sameProfile, trivial⟩
  · rintro ⟨-, sameCapacity, samePower, sameVoltage, noLatitude, noLongitude, notInstalled,
      sameProfile, -⟩
    exact ⟨sameCapacity, samePower, sameVoltage, noLatitude, noLongitude, notInstalled, sameProfile⟩

/-- A device that nobody has registered is. -/
theorem createBattery_fresh (hardware : config.HasDefaultHardware) (short : index < 999999)
    (now : Timestamp) (fresh : batteries.lookup (deviceBatteryId index) = none) :
    createBattery (registrationPayload (buildBattery config index)) now batteries =
      (.success 201 (deviceRow config index now),
        batteries.insertIgnore (deviceRow config index now)) := by
  obtain ⟨request, valid, sameId, sameRow, -⟩ := validate_device hardware short
  rw [createBattery, valid]
  simp only [registerBattery, sameId, fresh, sameRow]
  rfl

/-- A device that is registered stays as it is. -/
theorem createBattery_known (hardware : config.HasDefaultHardware) (short : index < 999999)
    (now : Timestamp) {existing : Backend.Battery}
    (known : batteries.lookup (deviceBatteryId index) = some existing)
    (same : IsDevice config index existing) :
    createBattery (registrationPayload (buildBattery config index)) now batteries =
      (.success 200 existing, batteries) := by
  obtain ⟨request, valid, sameId, -, isDevice⟩ := validate_device hardware short
  have agrees := (isDevice existing (batteries.lookup_some_iff.mp known).2).mpr same
  rw [createBattery, valid]
  simp only [registerBattery, sameId, known, Backend.answerExisting, agrees, if_true]
  rfl

/-- A battery of this id that is not the device is a conflict. -/
theorem createBattery_conflict (hardware : config.HasDefaultHardware) (short : index < 999999)
    (now : Timestamp) {existing : Backend.Battery}
    (known : batteries.lookup (deviceBatteryId index) = some existing)
    (differs : ¬ IsDevice config index existing) :
    ∃ answer, createBattery (registrationPayload (buildBattery config index)) now batteries =
      (answer, batteries) ∧ answer.statusCode = 409 := by
  obtain ⟨request, valid, sameId, -, isDevice⟩ := validate_device hardware short
  have conflicts := mt (isDevice existing (batteries.lookup_some_iff.mp known).2).mp differs
  rw [createBattery, valid]
  simp only [registerBattery, sameId, known, Backend.answerExisting, conflicts]
  exact ⟨_, rfl, rfl⟩

/-- An id with a seventh digit is unprocessable. -/
theorem createBattery_long (hardware : config.HasDefaultHardware) (long : ¬ index < 999999)
    (now : Timestamp) :
    ∃ answer, createBattery (registrationPayload (buildBattery config index)) now batteries =
      (answer, batteries) ∧ answer.statusCode = 422 := by
  have faulty := mt (faults_device_iff hardware).mp long
  rw [createBattery, RegistrationPayload.validate, dif_neg faulty]
  exact ⟨_, rfl, rfl⟩

end Device

/-! ### A fleet -/

section Grown

variable {config : FleetConfig} {indices : List Nat} {fate : PostFate}
  {batteries middle after : Table Backend.Battery Backend.Battery.batteryId}

/-- Nothing is changed, and what is new are devices of the fleet with these indices. -/
def Grown (config : FleetConfig) (indices : List Nat)
    (batteries after : Table Backend.Battery Backend.Battery.batteryId) : Prop :=
  ∀ batteryId, after.lookup batteryId = batteries.lookup batteryId ∨
    batteries.lookup batteryId = none ∧ ∃ index ∈ indices, batteryId = deviceBatteryId index ∧
      ∃ existing, after.lookup batteryId = some existing ∧ IsDevice config index existing

theorem Grown.refl (indices : List Nat)
    (batteries : Table Backend.Battery Backend.Battery.batteryId) :
    Grown config indices batteries batteries := fun _ => .inl rfl

theorem Grown.mono {others : List Nat} (grown : Grown config indices batteries after)
    (part : indices ⊆ others) : Grown config others batteries after := by
  intro batteryId
  refine (grown batteryId).imp_right ?_
  rintro ⟨fresh, index, isIndex, new⟩
  exact ⟨fresh, index, part isIndex, new⟩

theorem Grown.trans (first : Grown config indices batteries middle)
    (second : Grown config indices middle after) : Grown config indices batteries after := by
  intro batteryId
  rcases second batteryId with same | ⟨fresh, new⟩
  · rw [same]
    exact first batteryId
  · rcases first batteryId with same | ⟨-, -, -, -, existing, found, -⟩
    · exact .inr ⟨same ▸ fresh, new⟩
    · rw [fresh] at found
      cases found

/-- What is registered stays registered. -/
theorem Grown.keeps (grown : Grown config indices batteries after) {batteryId : Backend.BatteryId}
    {existing : Backend.Battery} (found : batteries.lookup batteryId = some existing) :
    after.lookup batteryId = some existing := by
  rcases grown batteryId with same | ⟨fresh, -⟩
  · exact same.trans found
  · rw [fresh] at found
    cases found

theorem grown_createBattery (hardware : config.HasDefaultHardware) (index : Nat)
    (now : Timestamp) :
    Grown config [index] batteries
      (createBattery (registrationPayload (buildBattery config index)) now batteries).2 := by
  by_cases short : index < 999999
  · cases found : batteries.lookup (deviceBatteryId index) with
    | none =>
        rw [createBattery_fresh hardware short now found]
        intro batteryId
        rw [Table.lookup_insertIgnore]
        by_cases own : deviceBatteryId index = batteryId
        · subst own
          rw [if_pos ⟨found, rfl⟩]
          exact .inr ⟨found, index, List.mem_singleton_self index, rfl, _, rfl, rfl⟩
        · exact .inl (if_neg fun both => own both.2)
    | some existing =>
        by_cases same : IsDevice config index existing
        · rw [createBattery_known hardware short now found same]
          exact .refl _ batteries
        · obtain ⟨answer, refused, -⟩ := createBattery_conflict hardware short now found same
          rw [refused]
          exact .refl _ batteries
  · obtain ⟨answer, refused, -⟩ := @createBattery_long config index batteries hardware short now
    rw [refused]
    exact .refl _ batteries

theorem grown_registerDevice (hardware : config.HasDefaultHardware) (index : Nat) :
    Grown config [index] batteries
      (registerDevice (buildBattery config index) fate batteries).2 := by
  have created : ∀ now, Grown config [index] batteries
      (createBattery (registrationPayload (buildBattery config index)) now batteries).2 :=
    grown_createBattery hardware index
  unfold registerDevice
  generalize createBattery (registrationPayload (buildBattery config index)) = create at created ⊢
  cases fate with
  | answered now => exact created now
  | failed error processedAt =>
      cases processedAt with
      | none => exact .refl _ batteries
      | some now => exact created now

/-- The posts for some of the indices, in this order. -/
def postsFor (config : FleetConfig) (fates : Nat → PostFate) (indices : List Nat) :
    List (Physics.Battery × PostFate) :=
  indices.map fun index => (buildBattery config index, fates index)

/-- Wherever a start ends, the table has only grown. -/
theorem grown_registerFleet (hardware : config.HasDefaultHardware) (fates : Nat → PostFate)
    (indices : List Nat) :
    Grown config indices batteries (registerFleet (postsFor config fates indices) batteries).2 := by
  induction indices generalizing batteries with
  | nil => exact .refl _ batteries
  | cons index rest ih =>
      have one := @grown_registerDevice config (fates index) batteries hardware index
      rw [postsFor, List.map_cons, ← postsFor, registerFleet]
      split
      · rename_i error after ended
        rw [ended] at one
        exact one.mono (List.cons_subset_cons index (List.nil_subset rest))
      · rename_i statusCode after ended
        rw [ended] at one
        exact (one.mono (List.cons_subset_cons index (List.nil_subset rest))).trans
          (ih.mono (List.subset_cons_self index rest))

end Grown

/-! ### Answered starts -/

section Answered

variable {config : FleetConfig} {batteries : Table Backend.Battery Backend.Battery.batteryId}
  {times : Nat → Timestamp}

/-- A battery under the id of a device of the fleet is that device. -/
def Fits (config : FleetConfig) (batteries : Table Backend.Battery Backend.Battery.batteryId)
    (index : Nat) : Prop :=
  ∀ existing, batteries.lookup (deviceBatteryId index) = some existing →
    IsDevice config index existing

theorem Fits.of_grown {after : Table Backend.Battery Backend.Battery.batteryId} {index : Nat}
    {indices : List Nat} (fits : Fits config batteries index)
    (grown : Grown config indices batteries after) :
    Fits config after index := by
  intro existing found
  rcases grown (deviceBatteryId index) with same | ⟨-, other, -, sameId, stored, isStored, isDevice⟩
  · exact fits existing (same ▸ found)
  · obtain rfl := deviceBatteryId_injective sameId
    obtain rfl := Option.some.inj (found.symm.trans isStored)
    exact isDevice

/-- A device that fits is registered and the registration goes on. -/
theorem registerDevice_of_fits (hardware : config.HasDefaultHardware) {index : Nat}
    (short : index < 999999) (fits : Fits config batteries index) (now : Timestamp) :
    ∃ statusCode after, registerDevice (buildBattery config index) (.answered now) batteries =
        (.ok statusCode, after) ∧
      ∃ existing, after.lookup (deviceBatteryId index) = some existing ∧
        IsDevice config index existing := by
  cases found : batteries.lookup (deviceBatteryId index) with
  | none =>
      refine ⟨201, batteries.insertIgnore (deviceRow config index now), ?_,
        deviceRow config index now, ?_, rfl⟩
      · rw [registerDevice, createBattery_fresh hardware short now found]
        rfl
      · rw [Table.lookup_insertIgnore, if_pos ⟨found, rfl⟩]
  | some existing =>
      refine ⟨200, batteries, ?_, existing, found, fits existing found⟩
      rw [registerDevice, createBattery_known hardware short now found (fits existing found)]
      rfl

/-- A device that does not fit ends the registration. -/
theorem registerDevice_of_not_fits (hardware : config.HasDefaultHardware) {index : Nat}
    (short : index < 999999) (differs : ¬ Fits config batteries index) (now : Timestamp) :
    registerDevice (buildBattery config index) (.answered now) batteries =
      (.error (.status 409), batteries) := by
  simp only [Fits, not_forall] at differs
  obtain ⟨existing, found, differs⟩ := differs
  obtain ⟨answer, refused, conflict⟩ := createBattery_conflict hardware short now found differs
  rw [registerDevice, refused]
  simp only [conflict]
  rfl

theorem registerDevice_of_long (hardware : config.HasDefaultHardware) {index : Nat}
    (long : ¬ index < 999999) (now : Timestamp) :
    registerDevice (buildBattery config index) (.answered now) batteries =
      (.error (.status 422), batteries) := by
  obtain ⟨answer, refused, unprocessable⟩ :=
    @createBattery_long config index batteries hardware long now
  rw [registerDevice, refused]
  simp only [unprocessable]
  rfl

/-- An answered registration goes through exactly if every id has six digits and every device
fits, and then all of them are registered. -/
theorem registerFleet_ok_iff (hardware : config.HasDefaultHardware) (indices : List Nat) :
    ((registerFleet (postsFor config (fun index => .answered (times index)) indices)
        batteries).1 = .ok () ↔
      ∀ index ∈ indices, index < 999999 ∧ Fits config batteries index) ∧
    ((registerFleet (postsFor config (fun index => .answered (times index)) indices)
        batteries).1 = .ok () →
      ∀ index ∈ indices, ∃ existing,
        (registerFleet (postsFor config (fun index => .answered (times index)) indices)
          batteries).2.lookup (deviceBatteryId index) = some existing ∧
        IsDevice config index existing) := by
  induction indices generalizing batteries with
  | nil => exact ⟨iff_of_true rfl (by simp), by simp⟩
  | cons index rest ih =>
      rw [postsFor, List.map_cons, ← postsFor, registerFleet]
      by_cases short : index < 999999
      · by_cases fits : Fits config batteries index
        · obtain ⟨statusCode, after, registered, existing, found, isDevice⟩ :=
            registerDevice_of_fits hardware short fits (times index)
          have grown := @grown_registerDevice config (.answered (times index)) batteries hardware
            index
          rw [registered] at grown
          rw [registered]
          simp only [List.forall_mem_cons]
          obtain ⟨exactly, all⟩ := @ih after
          refine ⟨?_, fun done => ⟨?_, all done⟩⟩
          · rw [exactly, and_iff_right ⟨short, fits⟩]
            refine forall₂_congr fun other isOther => and_congr_right fun _ => ?_
            refine ⟨fun later existing found => ?_, fun earlier => earlier.of_grown grown⟩
            exact later existing (grown.keeps found)
          · have later := @grown_registerFleet config after hardware
              (fun index => .answered (times index)) rest
            exact ⟨existing, later.keeps found, isDevice⟩
        · rw [registerDevice_of_not_fits hardware short fits]
          exact ⟨iff_of_false (by simp) fun all => fits (all index List.mem_cons_self).2, by simp⟩
      · rw [registerDevice_of_long hardware short]
        exact ⟨iff_of_false (by simp) fun all => short (all index List.mem_cons_self).1, by simp⟩

/-- Devices that are registered already change nothing. -/
theorem registerFleet_known (hardware : config.HasDefaultHardware) {indices : List Nat}
    (known : ∀ index ∈ indices, index < 999999 ∧ ∃ existing,
      batteries.lookup (deviceBatteryId index) = some existing ∧ IsDevice config index existing) :
    registerFleet (postsFor config (fun index => .answered (times index)) indices) batteries =
      (.ok (), batteries) := by
  induction indices with
  | nil => rfl
  | cons first rest ih =>
      obtain ⟨⟨firstShort, existing, found, isDevice⟩, others⟩ := List.forall_mem_cons.mp known
      have again : registerDevice (buildBattery config first) (.answered (times first)) batteries =
          (.ok 200, batteries) := by
        rw [registerDevice, createBattery_known hardware firstShort _ found isDevice]
        rfl
      rw [postsFor, List.map_cons, ← postsFor, registerFleet, again]
      exact ih others

/-- What has been answered goes on with the rest. -/
theorem registerFleet_append {front back : List (Physics.Battery × PostFate)}
    {after : Table Backend.Battery Backend.Battery.batteryId}
    (done : registerFleet front batteries = (.ok (), after)) :
    registerFleet (front ++ back) batteries = registerFleet back after := by
  induction front generalizing batteries with
  | nil =>
      cases done
      rfl
  | cons post rest ih =>
      rw [registerFleet] at done
      rw [List.cons_append, registerFleet]
      split at done
      · cases done
      · exact ih done

end Answered

/-! ### One fleet after another -/

/-- How many of the devices are faulty. -/
def FleetConfig.faultCount (config : FleetConfig) : Nat :=
  (roundHalfEven (config.round (config.deviceCount * config.faultRate))).toNat

/-- The profile of the device with this index, after so many that are faulty. -/
def profileAfter (faultCount index : Nat) : ProfileType :=
  if index < faultCount then .faulty else normalProfile (index - faultCount)

theorem FleetConfig.profile_eq (config : FleetConfig) (index : Nat) :
    config.profile index = profileAfter config.faultCount index := rfl

theorem normalProfile_ne_faulty (index : Nat) : normalProfile index ≠ .faulty := by
  unfold normalProfile
  split <;> exact ProfileType.noConfusion

/-- The first device after the smaller number of faulty ones is faulty in one fleet only. -/
theorem profileAfter_ne {first second : Nat} (differ : first ≠ second) :
    profileAfter first (min first second) ≠ profileAfter second (min first second) := by
  intro same
  rcases lt_or_gt_of_ne differ with fewer | more
  · rw [min_eq_left fewer.le, profileAfter, if_neg (lt_irrefl first), profileAfter,
      if_pos fewer] at same
    exact normalProfile_ne_faulty _ same
  · rw [min_eq_right (le_of_lt more), profileAfter, if_pos more, profileAfter,
      if_neg (lt_irrefl second)] at same
    exact normalProfile_ne_faulty _ same.symm

/-- Two fleets agree on their first devices exactly if as many are faulty, or all of these. -/
theorem profiles_agree_iff {first second common : Nat} :
    (∀ index < common, profileAfter first index = profileAfter second index) ↔
      first = second ∨ common ≤ min first second := by
  constructor
  · intro agree
    by_contra differ
    rw [not_or, not_le] at differ
    exact profileAfter_ne differ.1 (agree (min first second) differ.2)
  · rintro (rfl | all) index isCommon
    · rfl
    · rw [profileAfter, if_pos (by omega), profileAfter, if_pos (by omega)]

/-- Every POST of the start is answered. -/
def FleetStart.Answered (start : FleetStart) (times : Nat → Timestamp) : Prop :=
  start.fates = fun index => .answered (times index)

theorem FleetStart.run_eq (start : FleetStart)
    (batteries : Table Backend.Battery Backend.Battery.batteryId) :
    start.run batteries = registerFleet (postsFor start.config start.fates
      (List.range start.config.deviceCount)) batteries := rfl

/-- However a start ends, the table has only grown by devices of its fleet. -/
theorem FleetStart.grown_run (start : FleetStart) (hardware : start.config.HasDefaultHardware)
    (batteries : Table Backend.Battery Backend.Battery.batteryId) :
    Grown start.config (List.range start.config.deviceCount) batteries
      (start.run batteries).2 :=
  grown_registerFleet hardware start.fates (List.range start.config.deviceCount)

section Fleets

variable {first second : FleetConfig} {index : Nat} {existing : Backend.Battery}

/-- A device of one fleet is that of another exactly if its profile is. -/
theorem IsDevice.iff_profile (hardware : first.HasDefaultHardware)
    (otherHardware : second.HasDefaultHardware) (isDevice : IsDevice first index existing) :
    IsDevice second index existing ↔
      profileAfter first.faultCount index = profileAfter second.faultCount index := by
  have sameHardware : first.capacityKwh = second.capacityKwh ∧
      first.maxPowerKw = second.maxPowerKw ∧ first.nominalVoltage = second.nominalVoltage :=
    ⟨hardware.capacityKwh.trans otherHardware.capacityKwh.symm,
      hardware.maxPowerKw.trans otherHardware.maxPowerKw.symm,
      hardware.nominalVoltage.trans otherHardware.nominalVoltage.symm⟩
  unfold IsDevice at isDevice
  rw [isDevice]
  simp only [IsDevice, deviceRow, FleetConfig.profile_eq,
    Backend.Battery.mk.injEq, sameHardware,
    true_and, and_true]

/-- What an answered start leaves behind if none of its devices was registered before. -/
theorem lookup_after_run {start : FleetStart} {times : Nat → Timestamp}
    {batteries : Table Backend.Battery Backend.Battery.batteryId}
    (hardware : start.config.HasDefaultHardware) (answered : start.Answered times)
    (short : start.config.deviceCount ≤ 999999)
    (fresh : ∀ index, batteries.lookup (deviceBatteryId index) = none) :
    (∀ index < start.config.deviceCount, ∃ existing,
      (start.run batteries).2.lookup (deviceBatteryId index) = some existing ∧
        IsDevice start.config index existing) ∧
    ∀ index, start.config.deviceCount ≤ index →
      (start.run batteries).2.lookup (deviceBatteryId index) = none := by
  constructor
  · intro index below
    rw [start.run_eq, answered]
    refine (registerFleet_ok_iff hardware _).2 ((registerFleet_ok_iff hardware _).1.mpr ?_) index
      (List.mem_range.mpr below)
    intro other inRange
    have otherBelow := List.mem_range.mp inRange
    refine ⟨by omega, fun existing found => ?_⟩
    rw [fresh other] at found
    cases found
  · intro index beyond
    rcases start.grown_run hardware batteries (deviceBatteryId index) with
      same | ⟨-, other, inRange, sameId, -⟩
    · exact same.trans (fresh index)
    · obtain rfl := deviceBatteryId_injective sameId
      exact absurd (List.mem_range.mp inRange) (not_lt.mpr beyond)

/-- A device of a second fleet fits what a first one has left behind exactly if there is none
of its id in the first one, or one of its profile. -/
theorem fits_after_run_iff {start : FleetStart} {times : Nat → Timestamp}
    {batteries : Table Backend.Battery Backend.Battery.batteryId}
    (hardware : start.config.HasDefaultHardware) (otherHardware : second.HasDefaultHardware)
    (answered : start.Answered times) (short : start.config.deviceCount ≤ 999999)
    (fresh : ∀ index, batteries.lookup (deviceBatteryId index) = none) (index : Nat) :
    Fits second (start.run batteries).2 index ↔
      (index < start.config.deviceCount →
        profileAfter start.config.faultCount index = profileAfter second.faultCount index) := by
  obtain ⟨registered, absent⟩ := lookup_after_run hardware answered short fresh
  by_cases below : index < start.config.deviceCount
  · obtain ⟨existing, found, isDevice⟩ := registered index below
    rw [← isDevice.iff_profile hardware otherHardware]
    refine ⟨fun fits _ => fits existing found, fun agrees stored isStored => ?_⟩
    obtain rfl := Option.some.inj (found.symm.trans isStored)
    exact agrees below
  · refine iff_of_true (fun existing found => ?_) (fun inFirst => absurd inFirst below)
    rw [absent index (not_lt.mp below)] at found
    cases found

end Fleets

/-- The table after these starts, however each of them ended. -/
def afterStarts (starts : List FleetStart)
    (batteries : Table Backend.Battery Backend.Battery.batteryId) :
    Table Backend.Battery Backend.Battery.batteryId :=
  starts.foldl (fun reached start => (start.run reached).2) batteries

/-- Whatever starts of fleets with as many faulty devices have left behind fits. -/
theorem fits_afterStarts {config : FleetConfig} (hardware : config.HasDefaultHardware)
    {starts : List FleetStart}
    (alike : ∀ start ∈ starts, start.config.HasDefaultHardware ∧
      start.config.faultCount = config.faultCount)
    {batteries : Table Backend.Battery Backend.Battery.batteryId} {index : Nat}
    (fits : Fits config batteries index) : Fits config (afterStarts starts batteries) index := by
  induction starts generalizing batteries with
  | nil => exact fits
  | cons start rest ih =>
      obtain ⟨⟨startHardware, sameFaults⟩, others⟩ := List.forall_mem_cons.mp alike
      refine ih others fun existing found => ?_
      rcases start.grown_run startHardware batteries (deviceBatteryId index) with
        same | ⟨-, other, -, sameId, stored, isStored, new⟩
      · exact fits existing (same ▸ found)
      · obtain rfl := deviceBatteryId_injective sameId
        obtain rfl := Option.some.inj (found.symm.trans isStored)
        exact (new.iff_profile startHardware hardware).mpr (by rw [sameFaults])

/-- Starting again is safe.  After any number of starts that were cut off anywhere, of fleets
of any size with as many faulty devices, a start whose requests are answered registers its
fleet exactly if its ids have six digits; then each of its devices is registered, as itself,
and nothing that was registered before has changed. -/
theorem restart_registers_fleet {starts : List FleetStart} {next : FleetStart}
    {times : Nat → Timestamp} {batteries : Table Backend.Battery Backend.Battery.batteryId}
    (hardware : next.config.HasDefaultHardware)
    (alike : ∀ start ∈ starts, start.config.HasDefaultHardware ∧
      start.config.faultCount = next.config.faultCount)
    (answered : next.Answered times)
    (fresh : ∀ index, batteries.lookup (deviceBatteryId index) = none) :
    ((next.run (afterStarts starts batteries)).1 = .ok () ↔ next.config.deviceCount ≤ 999999) ∧
      ((next.run (afterStarts starts batteries)).1 = .ok () →
        ∀ index < next.config.deviceCount, ∃ existing,
          (next.run (afterStarts starts batteries)).2.lookup (deviceBatteryId index) =
            some existing ∧ IsDevice next.config index existing) ∧
      ∀ batteryId existing, (afterStarts starts batteries).lookup batteryId = some existing →
        (next.run (afterStarts starts batteries)).2.lookup batteryId = some existing := by
  have grown := next.grown_run hardware (afterStarts starts batteries)
  refine ⟨?_, ?_, fun batteryId existing found => grown.keeps found⟩
  · rw [next.run_eq, answered, (registerFleet_ok_iff hardware _).1]
    constructor
    · intro all
      have positive := next.config.deviceCountBound
      have last := (all (next.config.deviceCount - 1) (List.mem_range.mpr (by omega))).1
      omega
    · intro small index inRange
      have below := List.mem_range.mp inRange
      refine ⟨by omega, fits_afterStarts hardware alike fun existing found => ?_⟩
      rw [fresh index] at found
      cases found
  · intro done index below
    rw [next.run_eq, answered] at done ⊢
    exact (registerFleet_ok_iff hardware _).2 done index (List.mem_range.mpr below)

theorem fourDevices_positive : 1 ≤ 4 := by decide

theorem oneSecond_pos : (0 : ℚ) < 1 := by norm_num

/-- Four devices, of which the first two are faulty. -/
def fourDevices : FleetConfig where
  deviceCount := 4
  telemetryIntervalSeconds := 1
  faultRate := 1 / 2
  deviceCountBound := fourDevices_positive
  telemetryIntervalBound := oneSecond_pos
  faultRateBounds := half_bounds

/-- The backend processes the POST of the second device, but the response is lost. -/
def cutOffStart : FleetStart where
  config := fourDevices
  fates := fun index => if index = 1 then .failed .transport (some 5) else .answered 4

/-- The start after that comes to the third device. -/
def secondStart : FleetStart where
  config := fourDevices
  fates := fun index => if index = 2 then .failed .transport none else .answered 6

/-- And the third one to the end. -/
def thirdStart : FleetStart where
  config := fourDevices
  fates := fun _ => .answered 7

theorem thirdStart_answered : thirdStart.Answered fun _ => 7 := rfl

theorem sample_restart_registers_fleet :
    (cutOffStart.run .empty).1 ≠ .ok () ∧
      (secondStart.run (afterStarts [cutOffStart] .empty)).1 ≠ .ok () ∧
      (thirdStart.run (afterStarts [cutOffStart, secondStart] .empty)).1 = .ok () := by
  have alike : ∀ start ∈ [cutOffStart, secondStart], start.config.HasDefaultHardware ∧
      start.config.faultCount = thirdStart.config.faultCount := by
    intro start isStart
    rcases List.mem_pair.mp isStart with rfl | rfl
    · exact ⟨⟨rfl, rfl, rfl⟩, rfl⟩
    · exact ⟨⟨rfl, rfl, rfl⟩, rfl⟩
  have cutOff : (cutOffStart.run .empty).1 = .error .transport ∧
      (secondStart.run (afterStarts [cutOffStart] .empty)).1 = .error .transport := by
    decide +kernel
  rw [cutOff.1, cutOff.2]
  exact ⟨nofun, nofun, (restart_registers_fleet ⟨rfl, rfl, rfl⟩ alike thirdStart_answered
    fun _ => rfl).1.mpr (by decide)⟩

/-- The start ends at this device: those in front of it are answered, it is answered with this
status, and nothing is written. -/
structure FleetStart.EndsAt (start : FleetStart)
    (batteries : Table Backend.Battery Backend.Battery.batteryId) (index statusCode : Nat) :
    Prop where
  isDevice : index < start.config.deviceCount
  before : registerFleet (start.posts.take index) batteries = (.ok (), batteries)
  own : registerDevice (buildBattery start.config index) (start.fates index) batteries =
    (.error (.status statusCode), batteries)
  run : start.run batteries = (.error (.status statusCode), batteries)

theorem FleetStart.posts_eq (start : FleetStart) :
    start.posts = postsFor start.config start.fates (List.range start.config.deviceCount) := rfl

theorem FleetStart.endsAt {start : FleetStart}
    {batteries : Table Backend.Battery Backend.Battery.batteryId} {index statusCode : Nat}
    (isDevice : index < start.config.deviceCount)
    (before : registerFleet (postsFor start.config start.fates (List.range index)) batteries =
      (.ok (), batteries))
    (own : registerDevice (buildBattery start.config index) (start.fates index) batteries =
      (.error (.status statusCode), batteries)) : start.EndsAt batteries index statusCode := by
  have front : start.posts.take index =
      postsFor start.config start.fates (List.range index) := by
    rw [start.posts_eq, postsFor, ← List.map_take, List.take_range, min_eq_left isDevice.le]
    rfl
  refine ⟨isDevice, front ▸ before, own, ?_⟩
  obtain ⟨behind, isBehind⟩ := Nat.exists_eq_add_of_lt isDevice
  have split : postsFor start.config start.fates (List.range start.config.deviceCount) =
      postsFor start.config start.fates (List.range index) ++
        (buildBattery start.config index, start.fates index) ::
          postsFor start.config start.fates
            ((List.range behind).map fun further => index + (further + 1)) := by
    rw [isBehind, Nat.add_assoc, List.range_add, List.range_succ_eq_map]
    simp [postsFor]
  rw [start.run_eq, split, registerFleet_append before, registerFleet, own]

/-- Another fleet after the first.  It is registered exactly if its ids have six digits and as
many of its devices are faulty, or if all that the two have in common are faulty in both.
Otherwise it ends at the first device whose profile differs, with a 409 that every further
start meets again: nothing has been written. -/
theorem other_fleet_iff {first second : FleetStart} {times otherTimes : Nat → Timestamp}
    {batteries : Table Backend.Battery Backend.Battery.batteryId}
    (hardware : first.config.HasDefaultHardware) (otherHardware : second.config.HasDefaultHardware)
    (answered : first.Answered times) (otherAnswered : second.Answered otherTimes)
    (short : first.config.deviceCount ≤ 999999)
    (fresh : ∀ index, batteries.lookup (deviceBatteryId index) = none) :
    ((second.run (first.run batteries).2).1 = .ok () ↔
      second.config.deviceCount ≤ 999999 ∧
        (first.config.faultCount = second.config.faultCount ∨
          min first.config.deviceCount second.config.deviceCount ≤
            min first.config.faultCount second.config.faultCount)) ∧
    (¬ (first.config.faultCount = second.config.faultCount ∨
        min first.config.deviceCount second.config.deviceCount ≤
          min first.config.faultCount second.config.faultCount) →
      ∃ index < first.config.deviceCount,
        (∀ earlier < index, first.config.profile earlier = second.config.profile earlier) ∧
        first.config.profile index ≠ second.config.profile index ∧
        second.EndsAt (first.run batteries).2 index 409) := by
  have fits := fits_after_run_iff hardware otherHardware answered short fresh
  obtain ⟨registered, -⟩ := lookup_after_run hardware answered short fresh
  constructor
  · rw [second.run_eq, otherAnswered, (registerFleet_ok_iff otherHardware _).1,
      ← profiles_agree_iff]
    simp only [List.mem_range, fits, lt_min_iff]
    constructor
    · intro all
      have positive := second.config.deviceCountBound
      have last := (all (second.config.deviceCount - 1) (by omega)).1
      exact ⟨by omega, fun index common => (all index common.2).2 common.1⟩
    · rintro ⟨small, agree⟩ index below
      exact ⟨by omega, fun inFirst => agree index ⟨inFirst, below⟩⟩
  · intro differ
    obtain ⟨differ, beyond⟩ := not_or.mp differ
    obtain ⟨inFirst, inSecond⟩ := lt_min_iff.mp (not_le.mp beyond)
    -- Up to the smaller number of faulty devices the two fleets are one.
    have alike := profiles_agree_iff.mpr
      (.inr le_rfl : first.config.faultCount = second.config.faultCount ∨ _)
    have differs := profileAfter_ne differ
    generalize min first.config.faultCount second.config.faultCount = index at *
    refine ⟨index, inFirst, alike, differs, second.endsAt inSecond ?_ ?_⟩
    · rw [otherAnswered]
      refine registerFleet_known otherHardware fun earlier inFront => ?_
      have before := List.mem_range.mp inFront
      obtain ⟨existing, found, isDevice⟩ := registered earlier (by omega)
      exact ⟨by omega, existing, found,
        (isDevice.iff_profile hardware otherHardware).mpr (alike earlier before)⟩
    · rw [otherAnswered]
      refine registerDevice_of_not_fits otherHardware (by omega) ?_ _
      rw [fits]
      exact fun agrees => differs (agrees inFirst)

theorem threeQuarters_bounds : (0 : ℚ) ≤ 3 / 4 ∧ (3 : ℚ) / 4 ≤ 1 := by norm_num

/-- A start with a third device that is faulty. -/
def faultyStart : FleetStart where
  config := { fourDevices with faultRate := 3 / 4, faultRateBounds := threeQuarters_bounds }
  fates := fun _ => .answered 9

theorem faultyStart_answered : faultyStart.Answered fun _ => 9 := rfl

theorem faultCount_thirdStart : thirdStart.config.faultCount = 2 := by
  have rate : (thirdStart.config.deviceCount * thirdStart.config.faultRate : ℚ) = (2 : Int) := by
    norm_num [thirdStart, fourDevices]
  have exact : thirdStart.config.round = id := rfl
  rw [FleetConfig.faultCount, exact, id, rate, roundHalfEven_intCast]
  rfl

theorem faultCount_faultyStart : faultyStart.config.faultCount = 3 := by
  have rate : (faultyStart.config.deviceCount * faultyStart.config.faultRate : ℚ) = (3 : Int) := by
    norm_num [faultyStart, fourDevices]
  have exact : faultyStart.config.round = id := rfl
  rw [FleetConfig.faultCount, exact, id, rate, roundHalfEven_intCast]
  rfl

/-- The third device has been registered as a residential one. -/
theorem sample_other_fleet :
    ∃ index < 4, (∀ earlier < index,
        thirdStart.config.profile earlier = faultyStart.config.profile earlier) ∧
      thirdStart.config.profile index ≠ faultyStart.config.profile index ∧
      faultyStart.EndsAt (thirdStart.run .empty).2 index 409 := by
  refine (other_fleet_iff ⟨rfl, rfl, rfl⟩ ⟨rfl, rfl, rfl⟩ thirdStart_answered
    faultyStart_answered (by decide) fun _ => rfl).2 ?_
  rw [faultCount_thirdStart, faultCount_faultyStart]
  decide

end VoltStream.Simulator
