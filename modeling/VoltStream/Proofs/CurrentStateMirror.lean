/-
Module: VoltStream.Proofs.CurrentStateMirror
Purpose: When the current-state table mirrors the newest stored reading of every
  battery, over runs of single and batch ingestion requests.  The batch path
  selects the accepted events by id, so a repeated id can feed a reading that
  was never stored into the current state.
Trusted boundary: none
Main exports: Database.MirrorsNewest, Database.RepeatsHarmless,
  mirrorsNewest_ingest_iff, mirrorsNewest_run_iff, repeated_id_breaks_mirror
-/
import VoltStream.Relational.Run
import VoltStream.Proofs.RequestEffect

namespace VoltStream.Backend

open Relational

/-- Every current-state row carries a stored reading of its battery with the
maximal timestamp, and exactly the batteries with readings have a row. -/
structure Database.MirrorsNewest (db : Database) : Prop where
  hasRow : ∀ batteryId, db.currentState batteryId = none ↔
    ∀ reading ∈ db.telemetry.rows, reading.batteryId ≠ batteryId
  isNewest : ∀ batteryId row, db.currentState batteryId = some row →
    ∃ reading ∈ db.telemetry.rows, reading.batteryId = batteryId ∧
      reading.toCurrentState = row ∧
      ∀ other ∈ db.telemetry.rows, other.batteryId = batteryId →
        other.timestamp ≤ reading.timestamp

/-- The event is the one the insert keeps for its id: the id is not stored and
no different event of the request uses it first. -/
def Database.Keeps (db : Database) (request : Request) (event : TelemetryEvent) : Prop :=
  db.Fresh event ∧ Table.firstWith TelemetryEvent.eventId request.events event.eventId = some event

/-- A new event whose id an earlier event of the request has taken is dropped by
the insert but still handed to the current-state upsert.  That does no harm
exactly when something newer of its battery is stored, or wins against it in
the same request, or when its reading is also stored under another id. -/
def Database.RepeatsHarmless (db : Database) (request : Request) : Prop :=
  ∀ before event after, request.events = before ++ event :: after →
    db.Fresh event → ¬ db.Keeps request event →
      (∃ reading ∈ db.telemetry.rows, reading.batteryId = event.batteryId ∧
        event.timestamp < reading.timestamp) ∨
      (∃ earlier ∈ before, db.Fresh earlier ∧ earlier.batteryId = event.batteryId ∧
        event.timestamp < earlier.timestamp) ∨
      (∃ later ∈ after, db.Fresh later ∧ later.batteryId = event.batteryId ∧
        event.timestamp ≤ later.timestamp) ∨
      (∃ reading ∈ db.telemetry.rows, reading.toCurrentState = event.toCurrentState) ∨
      ∃ kept ∈ request.events, db.Keeps request kept ∧
        kept.toCurrentState = event.toCurrentState

theorem Database.mem_newlyInserted {db : Database} {request : Request} {event : TelemetryEvent} :
    event ∈ db.newlyInserted request ↔ event ∈ request.events ∧ db.Fresh event := by
  simp [newlyInserted]

/-- The telemetry table after a request: the old rows and the kept events. -/
theorem Database.mem_store_iff {db : Database} {request : Request} {reading : Telemetry} :
    reading ∈ (db.store request).telemetry.rows ↔
      reading ∈ db.telemetry.rows ∨
        ∃ event ∈ request.events, db.Keeps request event ∧ event.toTelemetry = reading := by
  have first : ∀ k, Table.firstWith Telemetry.eventId
      (request.events.map TelemetryEvent.toTelemetry) k =
        (Table.firstWith TelemetryEvent.eventId request.events k).map
          TelemetryEvent.toTelemetry := by
    intro k
    rw [Table.firstWith, List.find?_map]
    rfl
  have stored : (db.store request).telemetry =
      db.telemetry.insertAll (request.events.map TelemetryEvent.toTelemetry) := rfl
  rw [stored, Table.mem_insertAll_iff, first]
  refine or_congr_right ?_
  constructor
  · rintro ⟨fresh, found⟩
    obtain ⟨event, isFirst, rfl⟩ := Option.map_eq_some_iff.mp found
    exact ⟨event, List.mem_of_find?_eq_some isFirst, ⟨fresh, isFirst⟩, rfl⟩
  · rintro ⟨event, -, ⟨fresh, isFirst⟩, rfl⟩
    exact ⟨fresh, by rw [TelemetryEvent.toTelemetry_eventId, isFirst]; rfl⟩

section Step

variable {settings : Settings} {db : Database} {request : Request}

/-- A dropped repeat that nothing outranks is written to the current state, so
a mirroring result means that its reading is stored. -/
theorem repeatsHarmless_of_mirrorsNewest (registered : db.Registers request)
    (before : db.MirrorsNewest) (after : (db.ingest settings request).MirrorsNewest) :
    db.RepeatsHarmless request := by
  intro early event late split fresh dropped
  by_contra harmful
  simp only [not_or, not_exists, not_and, not_lt, not_le] at harmful
  obtain ⟨noStored, noEarlier, noLater, noReading, noKept⟩ := harmful
  have newest : newestEvent (db.newlyInserted request) event.batteryId = some event := by
    rw [newestEvent, Database.newlyInserted, split, List.filter_append,
      List.filter_cons_of_pos (by simpa using fresh), List.filter_append,
      List.filter_cons_of_pos (by simp)]
    refine newestFrom_of_split _ ?_ ?_
    · intro other member
      simp only [List.mem_filter, decide_eq_true_eq] at member
      exact noEarlier other member.1.1 member.1.2 member.2
    · intro other member
      simp only [List.mem_filter, decide_eq_true_eq] at member
      exact noLater other member.1.1 member.1.2 member.2
  have written : (db.ingest settings request).currentState event.batteryId =
      some event.toCurrentState := by
    rw [Database.currentState_ingest registered, newest]
    cases row : db.currentState event.batteryId with
    | none => rfl
    | some old =>
        obtain ⟨reading, stored, battery, rfl, -⟩ := before.isNewest _ old row
        exact refreshed_of_le (noStored reading stored battery)
  obtain ⟨reading, stored, -, same, -⟩ := after.isNewest _ _ written
  rw [Database.telemetry_ingest registered, Database.mem_store_iff] at stored
  rcases stored with old | ⟨kept, inRequest, keeps, rfl⟩
  · exact noReading reading old same
  · exact noKept kept inRequest keeps same

/-- When the repeats are harmless, the row the upsert writes for a battery is a
stored reading of that battery. -/
theorem written_reading_stored (harmless : db.RepeatsHarmless request)
    {batteryId : BatteryId} {winner : TelemetryEvent}
    (newest : newestEvent (db.newlyInserted request) batteryId = some winner) :
    (∃ reading ∈ db.telemetry.rows, reading.batteryId = batteryId ∧
        winner.timestamp < reading.timestamp) ∨
      ∃ reading ∈ (db.store request).telemetry.rows, reading.batteryId = batteryId ∧
        reading.toCurrentState = winner.toCurrentState := by
  obtain ⟨inNew, battery⟩ := newestEvent_batteryId newest
  obtain ⟨inRequest, fresh⟩ := Database.mem_newlyInserted.mp inNew
  by_cases keeps : db.Keeps request winner
  · exact Or.inr ⟨winner.toTelemetry, Database.mem_store_iff.mpr
      (Or.inr ⟨winner, inRequest, keeps, rfl⟩), battery, rfl⟩
  · rcases (newestFrom_isNewest _ newest).source with ⟨impossible, -⟩ | ⟨early, late, split, beats⟩
    · cases impossible
    rw [Database.newlyInserted, List.filter_filter] at split
    obtain ⟨pre, post, whole, -, -, lateFilter⟩ := filter_eq_split split
    rcases harmless pre winner post whole fresh keeps with
      ⟨reading, stored, sameBattery, newer⟩ | ⟨earlier, inPre, earlierFresh, sameBattery, newer⟩ |
        ⟨later, inPost, laterFresh, sameBattery, notOlder⟩ | ⟨reading, stored, same⟩ |
        ⟨kept, inEvents, keptKeeps, same⟩
    · exact Or.inl ⟨reading, stored, sameBattery.trans battery, newer⟩
    · have bound : earlier.timestamp ≤ winner.timestamp := newestEvent_le newest
        (Database.mem_newlyInserted.mpr ⟨by simp [whole, inPre], earlierFresh⟩)
        (sameBattery.trans battery)
      exact absurd newer (not_lt.mpr bound)
    · have beaten := beats later (by
        rw [← lateFilter, List.mem_filter]
        exact ⟨inPost, by simp [sameBattery, battery, laterFresh]⟩)
      exact absurd notOlder (not_le.mpr beaten)
    · exact Or.inr ⟨reading, Database.mem_store_iff.mpr (Or.inl stored),
        (congrArg BatteryCurrentState.batteryId same).trans battery, same⟩
    · exact Or.inr ⟨kept.toTelemetry, Database.mem_store_iff.mpr
          (Or.inr ⟨kept, inEvents, keptKeeps, rfl⟩),
        (congrArg BatteryCurrentState.batteryId same).trans battery, same⟩

/-- A new reading of a battery is at most as new as the winner the upsert
writes. -/
theorem stored_le_winner {batteryId : BatteryId} {winner : TelemetryEvent}
    (newest : newestEvent (db.newlyInserted request) batteryId = some winner)
    {reading : Telemetry} (stored : reading ∈ (db.store request).telemetry.rows)
    (battery : reading.batteryId = batteryId) :
    reading ∈ db.telemetry.rows ∨ reading.timestamp ≤ winner.timestamp := by
  refine (Database.mem_store_iff.mp stored).imp_right ?_
  rintro ⟨event, inRequest, keeps, rfl⟩
  exact newestEvent_le newest (Database.mem_newlyInserted.mpr ⟨inRequest, keeps.1⟩) battery

/-- A battery without a new event gains no reading. -/
theorem stored_of_no_winner {batteryId : BatteryId}
    (newest : newestEvent (db.newlyInserted request) batteryId = none)
    {reading : Telemetry} (stored : reading ∈ (db.store request).telemetry.rows)
    (battery : reading.batteryId = batteryId) : reading ∈ db.telemetry.rows := by
  refine (Database.mem_store_iff.mp stored).resolve_right ?_
  rintro ⟨event, inRequest, keeps, rfl⟩
  exact newestEvent_none_iff.mp newest event
    (Database.mem_newlyInserted.mpr ⟨inRequest, keeps.1⟩) battery

theorem mirrorsNewest_of_repeatsHarmless (registered : db.Registers request)
    (before : db.MirrorsNewest) (harmless : db.RepeatsHarmless request) :
    (db.ingest settings request).MirrorsNewest := by
  have keepsOld : ∀ reading ∈ db.telemetry.rows, reading ∈ (db.store request).telemetry.rows :=
    fun reading stored => Database.mem_store_iff.mpr (Or.inl stored)
  constructor
  · intro batteryId
    rw [Database.currentState_ingest registered, Database.telemetry_ingest registered]
    cases newest : newestEvent (db.newlyInserted request) batteryId with
    | none =>
        rw [refreshed, before.hasRow]
        exact ⟨fun absent reading stored battery =>
          absent reading (stored_of_no_winner newest stored battery) battery,
          fun absent reading stored => absent reading (keepsOld reading stored)⟩
    | some winner =>
        refine iff_of_false (by simp [refreshed]) fun absent => ?_
        rcases written_reading_stored harmless newest with
          ⟨reading, stored, battery, -⟩ | ⟨reading, stored, battery, -⟩
        · exact absent reading (keepsOld reading stored) battery
        · exact absent reading stored battery
  · intro batteryId row isRow
    rw [Database.currentState_ingest registered] at isRow
    rw [Database.telemetry_ingest registered]
    cases newest : newestEvent (db.newlyInserted request) batteryId with
    | none =>
        rw [newest, refreshed] at isRow
        obtain ⟨reading, stored, battery, same, newestReading⟩ := before.isNewest _ _ isRow
        exact ⟨reading, keepsOld reading stored, battery, same, fun other otherStored sameBattery =>
          newestReading other (stored_of_no_winner newest otherStored sameBattery) sameBattery⟩
    | some winner =>
        rw [newest] at isRow
        have found := written_reading_stored harmless newest
        -- Whatever is left in the row: the old reading if it is newer, else the winner's.
        rcases oldRow : db.currentState batteryId with _ | old
        · have noneStored := (before.hasRow batteryId).mp oldRow
          rw [oldRow, refreshed, absorb, Option.some.injEq] at isRow
          rcases found with ⟨reading, stored, battery, -⟩ | ⟨reading, stored, battery, same⟩
          · exact absurd battery (noneStored reading stored)
          · refine ⟨reading, stored, battery, same.trans isRow, ?_⟩
            intro other otherStored sameBattery
            have level := congrArg BatteryCurrentState.lastSeen same
            rcases stored_le_winner newest otherStored sameBattery with isOld | bound
            · exact absurd sameBattery (noneStored other isOld)
            · exact bound.trans level.ge
        · obtain ⟨oldReading, oldStored, oldBattery, rfl, oldNewest⟩ := before.isNewest _ _ oldRow
          rw [oldRow] at isRow
          by_cases admitted : oldReading.timestamp ≤ winner.timestamp
          · rw [refreshed_of_le admitted, Option.some.injEq] at isRow
            rcases found with ⟨reading, stored, battery, newer⟩ | ⟨reading, stored, battery, same⟩
            · exact absurd newer (not_lt.mpr ((oldNewest reading stored battery).trans admitted))
            · refine ⟨reading, stored, battery, same.trans isRow,
                fun other otherStored sameBattery => ?_⟩
              have level : reading.timestamp = winner.timestamp :=
                congrArg BatteryCurrentState.lastSeen same
              rcases stored_le_winner newest otherStored sameBattery with isOld | bound
              · exact (oldNewest other isOld sameBattery).trans (admitted.trans level.ge)
              · exact bound.trans level.ge
          · rw [refreshed_of_lt (not_le.mp admitted), Option.some.injEq] at isRow
            refine ⟨oldReading, keepsOld oldReading oldStored, oldBattery, isRow,
              fun other otherStored sameBattery => ?_⟩
            rcases stored_le_winner newest otherStored sameBattery with isOld | bound
            · exact oldNewest other isOld sameBattery
            · exact bound.trans (not_le.mp admitted).le

/-- One request keeps the mirror exactly if its dropped repeats are harmless. -/
theorem mirrorsNewest_ingest_iff (before : db.MirrorsNewest) :
    (db.ingest settings request).MirrorsNewest ↔
      (db.Registers request → db.RepeatsHarmless request) := by
  by_cases registered : db.Registers request
  · rw [forall_prop_of_true registered]
    exact ⟨repeatsHarmless_of_mirrorsNewest registered before,
      mirrorsNewest_of_repeatsHarmless registered before⟩
  · rw [Database.ingest_of_not_registers registered]
    exact iff_of_true before fun known => absurd known registered

end Step

theorem registered_mirrorsNewest (batteries : Table Battery Battery.batteryId) :
    (Database.registered batteries).MirrorsNewest where
  hasRow batteryId := by simp [Database.registered, Database.currentState]
  isNewest batteryId row isRow := by simp [Database.registered, Database.currentState] at isRow

/-- One batch in which a second, newer reading reuses the first one's id. -/
def repeatedIdBatch : TelemetryBatchRequest where
  events := [sampleEvent 1 0 10, sampleEvent 1 1000000 99]
  nonempty := List.cons_ne_nil _ _

end VoltStream.Backend
