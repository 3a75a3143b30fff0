/-
Module: VoltStream.Proofs.BatteryPages
Purpose: A client that reads the list of batteries page by page while others register
  batteries and report.
Trusted boundary: human-reviewed statements of the results
Main exports: DirectoryStep, getBatteryDetail_eq_ok_iff, getBatteryDetail_of_mem_page, Sweep,
  Sweep.page, Sweep.total, sweep_misses_none, quiet_sweep
-/
import VoltStream.Backend.BatteryService
import VoltStream.Relational.GrowingPages
import VoltStream.Proofs.RequestEffect

namespace VoltStream.Backend

open Relational

/-! ### What others do between two statements -/

/-- What a transaction of another client does to the batteries: it registers one, or it leaves
them alone, whatever else it writes.  Nothing updates or deletes a battery. -/
inductive DirectoryStep : Database → Database → Prop where
  | createBattery (db : Database) (payload : RegistrationPayload) (now : Timestamp) :
      DirectoryStep db { db with batteries := (createBattery payload now db.batteries).2 }
  | other {db next : Database} (same : next.batteries = db.batteries) : DirectoryStep db next

/-- The database some transactions later. -/
def Later : Database → Database → Prop := Relation.ReflTransGen DirectoryStep

theorem DirectoryStep.keeps {db next : Database} (step : DirectoryStep db next) :
    db.batteries.rows ⊆ next.batteries.rows := by
  cases step with
  | createBattery payload now =>
      simp only [Backend.createBattery]
      split
      · exact List.Subset.refl _
      · rename_i request valid
        unfold registerBattery
        split
        · exact List.Subset.refl _
        · rename_i fresh
          have rows : (db.batteries.insertIgnore (request.toBattery now)).rows =
              db.batteries.rows ++ [request.toBattery now] := Table.insertIgnore_of_none fresh
          intro battery isRow
          change battery ∈ (db.batteries.insertIgnore (request.toBattery now)).rows
          rw [rows]
          exact List.mem_append_left _ isRow
  | other same => rw [same]; exact List.Subset.refl _

theorem Later.keeps {db later : Database} (since : Later db later) :
    db.batteries.rows ⊆ later.batteries.rows := by
  induction since with
  | refl => exact List.Subset.refl _
  | tail _ step ih => exact List.Subset.trans ih step.keeps

/-! ### The ids of the list -/

/-- The ids of all batteries, in the order of the list. -/
def Database.orderedIds (db : Database) : List BatteryId :=
  (db.batteries.rows.map Battery.batteryId).insertionSort (· ≤ ·)

theorem nodup_orderedIds (db : Database) : db.orderedIds.Nodup :=
  (List.perm_insertionSort _ _).nodup_iff.mpr db.batteries.primaryKey

/-- Registrations put further ids between those that are there. -/
theorem orderedIds_sublist {db later : Database}
    (keeps : db.batteries.rows ⊆ later.batteries.rows) :
    db.orderedIds.Sublist later.orderedIds := by
  have contained : db.orderedIds ⊆ later.orderedIds := by
    intro batteryId isIn
    rw [Database.orderedIds, List.mem_insertionSort] at isIn ⊢
    exact List.map_subset Battery.batteryId keeps isIn
  exact List.sublist_of_subperm_of_pairwise
    (List.subperm_of_subset (nodup_orderedIds db) contained)
    (List.pairwise_insertionSort _ _) (List.pairwise_insertionSort _ _)

theorem mem_selectedBatteries {db : Database} {filters : BatteryFilters}
    {row : Battery × Option BatteryCurrentState} :
    row ∈ db.selectedBatteries filters ↔
      row.1 ∈ db.batteries.rows ∧ row.2 = db.currentState row.1.batteryId ∧
        filters.selects row = true := by
  obtain ⟨battery, state⟩ := row
  simp only [Database.selectedBatteries, List.mem_filter, List.mem_map, Prod.mk.injEq]
  constructor
  · rintro ⟨⟨stored, isRow, rfl, rfl⟩, selected⟩
    exact ⟨isRow, rfl, selected⟩
  · rintro ⟨isRow, rfl, selected⟩
    exact ⟨⟨battery, isRow, rfl, rfl⟩, selected⟩

/-- Without filters the list is all batteries. -/
theorem selectedBatteries_all (db : Database) :
    db.selectedBatteries {} =
      db.batteries.rows.map fun battery => (battery, db.currentState battery.batteryId) :=
  List.filter_eq_self.mpr fun _ _ => rfl

theorem ids_of_page (counted read : Database) (limit number : Nat) :
    (listBatteries counted read {} limit (number * limit)).1.map (fun row => row.1.batteryId) =
      page limit number read.orderedIds := by
  rw [listBatteries, page, List.map_take, List.map_drop, selectedBatteries_all,
    List.map_insertionSort (r := fun first second : Battery × Option BatteryCurrentState =>
      first.1.batteryId ≤ second.1.batteryId) (s := (· ≤ ·)) _ _ fun _ _ _ _ => Iff.rfl,
    List.map_map]
  rfl

/-- A row of a page is a battery with the state that the statement sees. -/
theorem mem_selected_of_mem_page {counted read : Database} {filters : BatteryFilters}
    {limit offset : Nat} {row : Battery × Option BatteryCurrentState}
    (shown : row ∈ (listBatteries counted read filters limit offset).1) :
    row ∈ read.selectedBatteries filters :=
  (List.mem_insertionSort _).mp (List.mem_of_mem_drop (List.mem_of_mem_take shown))

/-- The detail of a battery is its row of the list without filters. -/
theorem getBatteryDetail_eq_ok_iff {db : Database} {batteryId : BatteryId}
    {row : Battery × Option BatteryCurrentState} :
    getBatteryDetail db batteryId = .ok row ↔
      row ∈ db.selectedBatteries {} ∧ row.1.batteryId = batteryId := by
  obtain ⟨battery, state⟩ := row
  rw [getBatteryDetail, mem_selectedBatteries]
  constructor
  · intro answered
    split at answered
    · cases answered
    · next found =>
        cases answered
        obtain ⟨isRow, rfl⟩ := db.batteries.lookup_some_iff.mp found
        exact ⟨⟨isRow, rfl, rfl⟩, rfl⟩
  · rintro ⟨⟨isRow, isState, -⟩, rfl⟩
    rw [db.batteries.lookup_of_mem isRow]
    dsimp only at isState ⊢
    rw [isState]

/-- A row of a page, whatever the filters, is the detail of its battery at the statement for
the page. -/
theorem getBatteryDetail_of_mem_page {counted read : Database} {filters : BatteryFilters}
    {limit offset : Nat} {row : Battery × Option BatteryCurrentState}
    (shown : row ∈ (listBatteries counted read filters limit offset).1) :
    getBatteryDetail read row.1.batteryId = .ok row := by
  obtain ⟨isRow, isState, -⟩ := mem_selectedBatteries.mp (mem_selected_of_mem_page shown)
  exact getBatteryDetail_eq_ok_iff.mpr
    ⟨mem_selectedBatteries.mpr ⟨isRow, isState, rfl⟩, rfl⟩

/-! ### Page by page -/

/-- A client that asks for one page after the other, with what the count and the page of each
request see. -/
structure Sweep where
  limit : Nat
  counted : Nat → Database
  read : Nat → Database
  limitBounds : 1 ≤ limit ∧ limit ≤ 500
  counts : ∀ index, Later (counted index) (read index)
  goesOn : ∀ index, Later (read index) (counted (index + 1))

/-- The batteries of this page. -/
def Sweep.page (sweep : Sweep) (filters : BatteryFilters) (index : Nat) :
    List (Battery × Option BatteryCurrentState) :=
  (listBatteries (sweep.counted index) (sweep.read index) filters sweep.limit
    (index * sweep.limit)).1

/-- The total that comes with this page. -/
def Sweep.total (sweep : Sweep) (filters : BatteryFilters) (index : Nat) : Nat :=
  (listBatteries (sweep.counted index) (sweep.read index) filters sweep.limit
    (index * sweep.limit)).2

/-- Whatever is registered and reported while a client reads the list without filters: up to
the first page that is not full, every battery that was registered before is on some page, with
the state it is in when that page is read. -/
theorem sweep_misses_none (sweep : Sweep) {last : Nat}
    (notFull : (sweep.page {} last).length < sweep.limit) {battery : Battery}
    (registered : battery ∈ (sweep.counted 0).batteries.rows) :
    ∃ index ≤ last, (battery, (sweep.read index).currentState battery.batteryId) ∈
      sweep.page {} index := by
  have grows : ∀ index, (sweep.read index).batteries.rows ⊆
      (sweep.read (index + 1)).batteries.rows := by
    intro index
    exact List.Subset.trans (sweep.goesOn index).keeps (sweep.counts (index + 1)).keeps
  have stays : ∀ index, battery ∈ (sweep.read index).batteries.rows := by
    intro index
    induction index with
    | zero => exact (sweep.counts 0).keeps registered
    | succ index ih => exact grows index ih
  have isIn : battery.batteryId ∈ (sweep.read 0).orderedIds := by
    rw [Database.orderedIds, List.mem_insertionSort]
    exact List.mem_map_of_mem (stays 0)
  have notFullIds : (page sweep.limit last (sweep.read last).orderedIds).length < sweep.limit := by
    rw [← ids_of_page (sweep.counted last), List.length_map]
    exact notFull
  obtain ⟨index, inTime, onPage⟩ := exists_page_of_growing
    (fun index => nodup_orderedIds (sweep.read index))
    (fun index => orderedIds_sublist (grows index)) notFullIds isIn
  rw [← ids_of_page (sweep.counted index)] at onPage
  obtain ⟨⟨shown, state⟩, isShown, sameId⟩ := List.mem_map.mp onPage
  obtain ⟨isRow, isState, -⟩ := mem_selectedBatteries.mp (mem_selected_of_mem_page isShown)
  -- One id is one battery, so the row of the page is the battery that was registered.
  have same : shown = battery :=
    (sweep.read index).batteries.row_unique isRow (stays index) sameId
  subst same
  have isNow : state = (sweep.read index).currentState shown.batteryId := isState
  subst isNow
  exact ⟨index, inTime, isShown⟩

/-- The body of a registration with this id. -/
def registrationOf (batteryId : BatteryId) : RegistrationPayload where
  batteryId := batteryId
  capacityKwh := 10
  maxPowerKw := 5
  nominalVoltage := 48
  latitude := none
  longitude := none
  profileType := .solar

/-- The database after this registration. -/
def Database.createBattery (db : Database) (batteryId : BatteryId) : Database :=
  { db with batteries := (Backend.createBattery (registrationOf batteryId) 0 db.batteries).2 }

/-- Three batteries. -/
def threeBatteries : Database :=
  ["BAT-000002", "BAT-000004", "BAT-000006"].foldl Database.createBattery
    (.registered Table.empty)

/-- One more, whose id comes before the third. -/
def fourBatteries : Database := threeBatteries.createBattery "BAT-000003"

/-- The last of the list has reported. -/
def oneReported : Database :=
  fourBatteries.ingest .default (.single { sampleEvent 1 0 50 with batteryId := "BAT-000006" })

theorem two_bounds : 1 ≤ 2 ∧ 2 ≤ 500 := by decide

/-- A client reads three pages of two.  The battery is registered between the first and the
second request, and the other one reports between the two statements of the second. -/
def busySweep : Sweep where
  limit := 2
  counted
    | 0 => threeBatteries
    | 1 => fourBatteries
    | _ => oneReported
  read
    | 0 => threeBatteries
    | _ => oneReported
  limitBounds := two_bounds
  counts
    | 0 => .refl
    | 1 => .single (.other (Database.batteries_ingest ..))
    | _ + 2 => .refl
  goesOn
    | 0 => .single (.createBattery threeBatteries (registrationOf "BAT-000003") 0)
    | _ + 1 => .refl

/-- The new battery pushes the second one to the second page, too, and is on none itself; each
of the three that were there is on some page. -/
theorem sample_sweep_misses_none :
    (List.range 3).map (fun index => (busySweep.page {} index).map fun row => row.1.batteryId) =
        [["BAT-000002", "BAT-000004"], ["BAT-000004", "BAT-000006"], []] ∧
      ∀ battery ∈ threeBatteries.batteries.rows, ∃ index ≤ 2,
        (battery, (busySweep.read index).currentState battery.batteryId) ∈
          busySweep.page {} index := by
  have pages : (List.range 3).map (fun index =>
      (busySweep.page {} index).map fun row => row.1.batteryId) =
        [["BAT-000002", "BAT-000004"], ["BAT-000004", "BAT-000006"], []] ∧
      (busySweep.page {} 2).length < busySweep.limit := by
    decide +kernel
  exact ⟨pages.1, fun battery registered => sweep_misses_none busySweep pages.2 registered⟩

/-- If what the filters select does not change meanwhile, the pages up to the total show each
selected battery exactly once. -/
theorem quiet_sweep (sweep : Sweep) {filters : BatteryFilters} {pages : Nat}
    {selected : List (Battery × Option BatteryCurrentState)}
    (countedQuiet : ∀ index, (sweep.counted index).selectedBatteries filters = selected)
    (readQuiet : ∀ index, (sweep.read index).selectedBatteries filters = selected)
    (enough : sweep.total filters 0 ≤ pages * sweep.limit) :
    ((List.range pages).flatMap (sweep.page filters)).Perm selected := by
  have total : selected.length ≤ pages * sweep.limit := by
    rw [← countedQuiet 0]
    exact enough
  have pagesOfOne : ((List.range pages).flatMap (sweep.page filters)) =
      allPages sweep.limit pages fun _ =>
        selected.insertionSort fun first second => first.1.batteryId ≤ second.1.batteryId := by
    refine congrArg (List.flatMap · (List.range pages)) (funext fun index => ?_)
    rw [Sweep.page, listBatteries, readQuiet]
    rfl
  rw [pagesOfOne, allPages_same, List.take_of_length_le (by rwa [List.length_insertionSort])]
  exact List.perm_insertionSort _ _

end VoltStream.Backend
