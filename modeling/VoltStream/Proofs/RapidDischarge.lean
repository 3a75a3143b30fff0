/-
Module: VoltStream.Proofs.RapidDischarge
Purpose: How fast the charge really fell where the rapid-discharge rule raises an alert.
Trusted boundary: human-reviewed statements of the results
Main exports: comparisonReading, NewestBefore, newestBefore_of_compares,
  compares_of_newestBefore, rapidDischarge_raises_iff, ReportsRapidDecline, stretchedCharges,
  reportsRapidDecline_iff
-/
import VoltStream.Backend.Ingestion

namespace VoltStream.Backend

open Relational

/-! ### The comparison reading -/

/-- The reading whose charge `_get_soc_at_or_before` returns. -/
def comparisonReading (settings : Settings) (telemetry : List Telemetry) (batteryId : BatteryId)
    (cutoff : Timestamp) : Option Telemetry :=
  newestFrom Telemetry.timestamp none (settings.tieOrder.arrange (telemetry.filter fun reading =>
    reading.batteryId = batteryId ∧ reading.timestamp ≤ cutoff))

theorem getSocAtOrBefore_eq (settings : Settings) (telemetry : List Telemetry)
    (batteryId : BatteryId) (cutoff : Timestamp) :
    getSocAtOrBefore settings telemetry batteryId cutoff =
      (comparisonReading settings telemetry batteryId cutoff).map Telemetry.stateOfCharge := rfl

/-- A stored reading of the battery at or before the cutoff, to which the battery has none
newer up to the cutoff. -/
structure NewestBefore (telemetry : List Telemetry) (batteryId : BatteryId) (cutoff : Timestamp)
    (reading : Telemetry) : Prop where
  stored : reading ∈ telemetry
  isBattery : reading.batteryId = batteryId
  atOrBefore : reading.timestamp ≤ cutoff
  newest : ∀ other ∈ telemetry, other.batteryId = batteryId → other.timestamp ≤ cutoff →
    other.timestamp ≤ reading.timestamp

section Comparison

variable {settings : Settings} {telemetry : List Telemetry} {batteryId : BatteryId}
  {cutoff : Timestamp} {reading : Telemetry}

theorem newestBefore_of_compares
    (compares : comparisonReading settings telemetry batteryId cutoff = some reading) :
    NewestBefore telemetry batteryId cutoff reading := by
  have newest := newestFrom_isNewest Telemetry.timestamp compares
  have isCandidate : reading ∈ telemetry.filter fun reading =>
      reading.batteryId = batteryId ∧ reading.timestamp ≤ cutoff := by
    rcases newest.mem_or with impossible | isArranged
    · cases impossible
    · exact (settings.tieOrder.perm _).mem_iff.mp isArranged
  obtain ⟨stored, bounds⟩ := List.mem_filter.mp isCandidate
  rw [decide_eq_true_eq] at bounds
  refine ⟨stored, bounds.1, bounds.2, fun other isOther sameBattery atOrBefore => ?_⟩
  refine newest.dominates other ((settings.tieOrder.perm _).mem_iff.mpr ?_)
  exact List.mem_filter.mpr ⟨isOther, decide_eq_true ⟨sameBattery, atOrBefore⟩⟩

/-- A database that comes to this reading last. -/
def TieOrder.endingWith (last : Telemetry) : TieOrder where
  arrange readings := if last ∈ readings then readings.erase last ++ [last] else readings
  perm readings := by
    split_ifs with isIn
    · exact (List.perm_append_singleton last _).trans (List.perm_cons_erase isIn).symm
    · exact .refl _

/-- Each of the newest readings is what some database compares with. -/
theorem compares_of_newestBefore (newest : NewestBefore telemetry batteryId cutoff reading) :
    comparisonReading { settings with tieOrder := .endingWith reading } telemetry batteryId
      cutoff = some reading := by
  have isCandidate : reading ∈ telemetry.filter fun reading =>
      reading.batteryId = batteryId ∧ reading.timestamp ≤ cutoff :=
    List.mem_filter.mpr ⟨newest.stored, decide_eq_true ⟨newest.isBattery, newest.atOrBefore⟩⟩
  simp only [comparisonReading, TieOrder.endingWith, if_pos isCandidate, newestFrom_concat,
    Option.some.injEq]
  cases found : newestFrom Telemetry.timestamp none ((telemetry.filter fun reading =>
      reading.batteryId = batteryId ∧ reading.timestamp ≤ cutoff).erase reading) with
  | none => rfl
  | some other =>
      refine absorb_of_le Telemetry.timestamp ?_
      obtain impossible | isOther := (newestFrom_isNewest Telemetry.timestamp found).mem_or
      · cases impossible
      · obtain ⟨stored, bounds⟩ := List.mem_filter.mp (List.mem_of_mem_erase isOther)
        rw [decide_eq_true_eq] at bounds
        exact newest.newest other stored bounds.1 bounds.2

end Comparison

/-! ### The rule -/

section

variable (settings : Settings) (telemetry : List Telemetry) (batteryId : BatteryId)
  (stateOfCharge : ℚ) (timestamp : Timestamp)

/-- The decline from which on the rule raises an alert. -/
def Settings.rapidDischargeThreshold (settings : Settings) : ℚ :=
  min settings.rapidDischargeWarningPercentagePoints
    settings.rapidDischargeCriticalPercentagePoints

/-- The rule creates or retains an alert exactly if the charge has fallen by the lower
threshold since the comparison reading. -/
theorem rapidDischarge_raises_iff {reading : Telemetry}
    (compares : comparisonReading settings telemetry batteryId
      (timestamp - settings.rapidDischargeWindow) = some reading) :
    (∃ request, evaluateRapidDischarge settings telemetry batteryId stateOfCharge timestamp =
        some (.createOrRetainAlert request)) ↔
      settings.rapidDischargeThreshold ≤ reading.stateOfCharge - stateOfCharge := by
  unfold evaluateRapidDischarge
  rw [getSocAtOrBefore_eq, compares, Option.map_some, Settings.rapidDischargeThreshold,
    min_le_iff]
  dsimp only
  unfold rapidDischargeGrade graded
  split_ifs with critical warning
  · exact iff_of_true ⟨_, rfl⟩ (.inr critical)
  · exact iff_of_true ⟨_, rfl⟩ (.inl warning)
  · refine iff_of_false ?_ (not_or.mpr ⟨warning, critical⟩)
    rintro ⟨request, raised⟩
    cases raised

/-- Whichever of several newest readings the database compares with: where the rule creates or
retains an alert, the charge has fallen by the warning threshold or more per window, on average
since the comparison reading. -/
def ReportsRapidDecline : Prop :=
  ∀ (tieOrder : TieOrder) (reading : Telemetry) (request : AlertRequest),
    comparisonReading { settings with tieOrder := tieOrder } telemetry batteryId
      (timestamp - settings.rapidDischargeWindow) = some reading →
    evaluateRapidDischarge { settings with tieOrder := tieOrder } telemetry batteryId
      stateOfCharge timestamp = some (.createOrRetainAlert request) →
    reading.timestamp < timestamp →
    settings.rapidDischargeWarningPercentagePoints ≤
      (reading.stateOfCharge - stateOfCharge) * settings.rapidDischargeWindow /
        ((timestamp - reading.timestamp : Int) : ℚ)

/-- The property, without the rule: of the readings that a database may compare with. -/
theorem reportsRapidDecline_iff_newest :
    ReportsRapidDecline settings telemetry batteryId stateOfCharge timestamp ↔
      ∀ reading,
        NewestBefore telemetry batteryId (timestamp - settings.rapidDischargeWindow) reading →
        settings.rapidDischargeThreshold ≤ reading.stateOfCharge - stateOfCharge →
        reading.timestamp < timestamp →
        settings.rapidDischargeWarningPercentagePoints *
            ((timestamp - reading.timestamp : Int) : ℚ) ≤
          (reading.stateOfCharge - stateOfCharge) * settings.rapidDischargeWindow := by
  constructor
  · intro reports reading newest reaches earlier
    have compares := @compares_of_newestBefore settings _ _ _ _ newest
    obtain ⟨request, raised⟩ := (rapidDischarge_raises_iff
      { settings with tieOrder := .endingWith reading } telemetry batteryId stateOfCharge
      timestamp compares).mpr reaches
    have span : (0 : ℚ) < (timestamp - reading.timestamp : Int) := by
      exact_mod_cast Int.sub_pos_of_lt earlier
    exact (le_div_iff₀ span).mp (reports _ reading request compares raised earlier)
  · intro rapid tieOrder reading request compares raised earlier
    have span : (0 : ℚ) < (timestamp - reading.timestamp : Int) := by
      exact_mod_cast Int.sub_pos_of_lt earlier
    have reaches := (rapidDischarge_raises_iff { settings with tieOrder := tieOrder } telemetry
      batteryId stateOfCharge timestamp compares).mp ⟨request, raised⟩
    exact (le_div_iff₀ span).mpr
      (rapid reading (newestBefore_of_compares compares) reaches earlier)

end

/-! ### The silence before the window -/

/-- The evaluated charges that the silence after a reading makes the rule misjudge: those that
the rule raises an alert for, above the line that falls from the reading by the warning
threshold in every window.  A window that is not positive has no such line. -/
def stretchedCharges (settings : Settings) (reading : Telemetry) (timestamp : Timestamp) : Set ℚ :=
  if 0 < settings.rapidDischargeWindow then
    Set.Ioc
      (reading.stateOfCharge - settings.rapidDischargeWarningPercentagePoints *
        (((timestamp - reading.timestamp : Int) : ℚ) / settings.rapidDischargeWindow))
      (reading.stateOfCharge - settings.rapidDischargeThreshold)
  else
    { charge | charge ≤ reading.stateOfCharge - settings.rapidDischargeThreshold ∧
      reading.timestamp < timestamp ∧
      (reading.stateOfCharge - charge) * settings.rapidDischargeWindow <
        settings.rapidDischargeWarningPercentagePoints *
          ((timestamp - reading.timestamp : Int) : ℚ) }

section

variable {settings : Settings} {telemetry : List Telemetry} {batteryId : BatteryId}
  {reading : Telemetry} {timestamp : Timestamp}

/-- A charge between the two lines is one that the rule raises an alert for, although it has
fallen by less than the warning threshold per window. -/
theorem mem_stretchedCharges_iff
    (atOrBefore : reading.timestamp ≤ timestamp - settings.rapidDischargeWindow)
    (stateOfCharge : ℚ) :
    stateOfCharge ∈ stretchedCharges settings reading timestamp ↔
      settings.rapidDischargeThreshold ≤ reading.stateOfCharge - stateOfCharge ∧
        reading.timestamp < timestamp ∧
        (reading.stateOfCharge - stateOfCharge) * settings.rapidDischargeWindow <
          settings.rapidDischargeWarningPercentagePoints *
            ((timestamp - reading.timestamp : Int) : ℚ) := by
  unfold stretchedCharges
  split_ifs with positive
  · have window : (0 : ℚ) < settings.rapidDischargeWindow := by exact_mod_cast positive
    have earlier : reading.timestamp < timestamp := by linarith
    rw [Set.mem_Ioc, ← mul_div_assoc, sub_lt_comm, lt_div_iff₀ window, and_comm, le_sub_comm,
      and_iff_right earlier]
  · rw [Set.mem_ofPred_eq, le_sub_comm]

end

end VoltStream.Backend
