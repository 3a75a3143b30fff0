/-
Module: VoltStream.Simulator.FleetSeeds
Purpose: The random generators of a fleet: one for the noise of each battery, one for the
  variation of its profile, all of them seeded from the seed of the fleet.
Trusted boundary: human-reviewed spec of `build_fleet` and `Fleet.__init__` in
  `simulator/fleet.py` and of `Battery.__post_init__`; what `random.Random` draws is arbitrary
Main exports: SeededFleetConfig, Draw, Rng, Rng.sequence, drawSeed, SeededBattery,
  buildSeededFleet, Fleet, Fleet.init, Fleet.profileRng, Fleet.noiseRng,
  getElem?_mapM_drawSeed, map_toBattery_buildSeededFleet, profileRng_init, noiseRng_init
-/
import VoltStream.Simulator.Fleet

namespace VoltStream.Simulator

/-- `FleetConfig` with its `random_seed`. -/
structure SeededFleetConfig extends FleetConfig where
  randomSeed : Option Int := none

/-- A number that `randrange(2**32)` has given, with the seed of the generator that gave
it and its position in the sequence of that seed. -/
structure Draw where
  seed : Int
  position : Nat
  value : Nat
deriving Repr, DecidableEq

/-- `random.Random(seed)`, with the count of the numbers drawn from it.  Without a seed the
operating system chooses one. -/
structure Rng (σ : Type) where
  seed : Option σ
  drawn : Nat := 0
deriving Repr, DecidableEq

section

-- What a generator with this seed draws, number after number.
variable (random : Int → Nat → Nat)

/-- The draw at this position of the sequence of a seed. -/
def drawAt (seed : Int) (position : Nat) : Draw := ⟨seed, position, random seed position⟩

/-- The sequence of a generator that a draw has seeded. -/
def Rng.sequence (rng : Rng Draw) : Option (Nat → Nat) :=
  rng.seed.map fun draw => random draw.value

/-- `seed_source.randrange(2**32) if config.random_seed is not None else None`, for a
source with the seed of the fleet. -/
def drawSeed : StateM (Rng Int) (Option Draw) := fun seedSource =>
  match seedSource.seed with
  | some seed =>
      (some (drawAt random seed seedSource.drawn),
        { seedSource with drawn := seedSource.drawn + 1 })
  | none => (none, seedSource)

/-- `Battery` with its `random_seed` and its generator `_rng`. -/
structure SeededBattery extends Physics.Battery where
  randomSeed : Option Draw := none
  rng : Option (Rng Draw) := none

/-- `__post_init__`: a battery without a generator gets one from its seed. -/
def SeededBattery.postInit (self : SeededBattery) : SeededBattery :=
  { self with
    toBattery := self.toBattery.postInit
    rng := some (self.rng.getD { seed := self.randomSeed }) }

/-- The battery that the loop of `build_fleet` appends for this index and seed. -/
def buildSeededBattery (config : SeededFleetConfig) (index : Nat) (batterySeed : Option Draw) :
    SeededBattery :=
  SeededBattery.postInit
    { batteryId := deviceBatteryId index
      capacityKwh := config.capacityKwh
      maxPowerKw := config.maxPowerKw
      nominalVoltage := config.nominalVoltage
      profileType :=
        profileForIndex config.round index config.deviceCount config.faultRate
      randomSeed := batterySeed }

/-- `build_fleet`. -/
def buildSeededFleet (config : SeededFleetConfig) : List SeededBattery :=
  let batteries : StateM (Rng Int) (List SeededBattery) :=
    (List.range config.deviceCount).mapM fun index => do
      let batterySeed ← drawSeed random
      return buildSeededBattery config index batterySeed
  (batteries.run { seed := config.randomSeed }).1

/-- `Fleet`: its batteries, and for each of them the generator that varies its profile. -/
structure Fleet where
  config : SeededFleetConfig
  batteries : List SeededBattery
  profileRngs : List (Rng Draw)

/-- `Fleet.__init__`, which creates a seed source of its own. -/
def Fleet.init (config : SeededFleetConfig) : Fleet :=
  let batteries := buildSeededFleet random config
  let profileRngs : StateM (Rng Int) (List (Rng Draw)) :=
    batteries.mapM fun _ => do
      let profileSeed ← drawSeed random
      return { seed := profileSeed }
  { config := config
    batteries := batteries
    profileRngs := (profileRngs.run { seed := config.randomSeed }).1 }

end

/-- The generator that `run` hands to `_run_battery` along with the battery. -/
def Fleet.profileRng (self : Fleet) (index : Nat) : Option (Rng Draw) := self.profileRngs[index]?

/-- The generator that the noise of the battery is drawn from. -/
def Fleet.noiseRng (self : Fleet) (index : Nat) : Option (Rng Draw) :=
  self.batteries[index]?.bind SeededBattery.rng

/-! ### What the loops draw -/

section

variable (random : Int → Nat → Nat)

/-- The seed that a source gives after it has given so many more. -/
def seedAhead (seedSource : Rng Int) (count : Nat) : Option Draw :=
  seedSource.seed.map fun seed => drawAt random seed (seedSource.drawn + count)

theorem drawSeed_fst (seedSource : Rng Int) :
    (drawSeed random seedSource).1 = seedAhead random seedSource 0 := by
  unfold drawSeed seedAhead
  cases seedSource.seed <;> rfl

theorem seedAhead_drawSeed (seedSource : Rng Int) (count : Nat) :
    seedAhead random (drawSeed random seedSource).2 count =
      seedAhead random seedSource (count + 1) := by
  unfold drawSeed seedAhead
  cases seeded : seedSource.seed with
  | none => simp only [seeded, Option.map_none]
  | some seed => simp only [Option.map_some, Nat.add_assoc, Nat.add_comm 1]

variable {α β : Type} (build : α → Option Draw → β)

/-- The loop draws for its first item before it goes on. -/
theorem run_mapM_drawSeed_cons (item : α) (rest : List α) (seedSource : Rng Int) :
    let loop : List α → StateM (Rng Int) (List β) := fun items => items.mapM fun item => do
      let itemSeed ← drawSeed random
      return build item itemSeed
    ((loop (item :: rest)).run seedSource).1 =
      build item (drawSeed random seedSource).1 ::
        ((loop rest).run (drawSeed random seedSource).2).1 := by
  intro loop
  have unfolded : loop (item :: rest) = do
      let itemSeed ← drawSeed random
      let others ← loop rest
      return build item itemSeed :: others := by
    simp only [loop, List.mapM_cons, bind_assoc, pure_bind]
  rw [unfolded]
  rfl

/-- A loop that draws a seed for each item builds the item at a position from the draw
that many places ahead of where its source stands. -/
theorem getElem?_mapM_drawSeed (items : List α) (seedSource : Rng Int) (i : Nat) :
    ((items.mapM fun item => do
        let itemSeed ← drawSeed random
        return build item itemSeed : StateM (Rng Int) (List β)).run seedSource).1[i]? =
      items[i]?.map fun item => build item (seedAhead random seedSource i) := by
  induction items generalizing seedSource i with
  | nil => rfl
  | cons item rest ih =>
      rw [run_mapM_drawSeed_cons]
      cases i with
      | zero =>
          rw [List.getElem?_cons_zero, List.getElem?_cons_zero, drawSeed_fst, Option.map_some]
      | succ i =>
          rw [List.getElem?_cons_succ, List.getElem?_cons_succ, ih, seedAhead_drawSeed]

end

section

variable (random : Int → Nat → Nat) (config : SeededFleetConfig)

/-- The seed that a fresh source gives for an index. -/
def freshSeed (index : Nat) : Option Draw :=
  config.randomSeed.map fun seed => drawAt random seed index

theorem seedAhead_fresh (index : Nat) :
    seedAhead random { seed := config.randomSeed } index = freshSeed random config index := by
  rw [seedAhead, freshSeed, Nat.zero_add]

/-- `build_fleet` gives each battery the seed at its index. -/
theorem getElem?_buildSeededFleet (index : Nat) :
    (buildSeededFleet random config)[index]? =
      (List.range config.deviceCount)[index]?.map fun index =>
        buildSeededBattery config index (freshSeed random config index) := by
  rw [buildSeededFleet, getElem?_mapM_drawSeed, seedAhead_fresh]
  refine Option.map_congr fun item isItem => ?_
  obtain ⟨-, rfl⟩ := List.getElem?_eq_some_iff.mp isItem
  rw [List.getElem_range]

/-- With its generators left out the fleet is the one of `buildFleet`. -/
theorem map_toBattery_buildSeededFleet :
    (buildSeededFleet random config).map SeededBattery.toBattery =
      buildFleet config.toFleetConfig := by
  refine List.ext_getElem? fun index => ?_
  rw [List.getElem?_map, getElem?_buildSeededFleet, Option.map_map, buildFleet, List.getElem?_map]
  rfl

theorem length_buildSeededFleet :
    (buildSeededFleet random config).length = config.deviceCount := by
  have same := congrArg List.length (map_toBattery_buildSeededFleet random config)
  rwa [List.length_map, buildFleet, List.length_map, List.length_range] at same

/-- `Fleet.__init__` gives each generator of a profile the seed at its index, too. -/
theorem profileRng_init (index : Nat) :
    (Fleet.init random config).profileRng index =
      (buildSeededFleet random config)[index]?.map fun _ =>
        { seed := freshSeed random config index } := by
  rw [Fleet.profileRng, Fleet.init, getElem?_mapM_drawSeed, seedAhead_fresh]

/-- The generator of the noise is seeded like the battery. -/
theorem noiseRng_init (index : Nat) :
    (Fleet.init random config).noiseRng index =
      (buildSeededFleet random config)[index]?.map fun _ =>
        { seed := freshSeed random config index } := by
  rw [Fleet.noiseRng, Fleet.init, getElem?_buildSeededFleet]
  cases inRange : (List.range config.deviceCount)[index]? with
  | none => rfl
  | some item =>
      obtain ⟨-, rfl⟩ := List.getElem?_eq_some_iff.mp inRange
      rw [List.getElem_range]
      rfl

end

end VoltStream.Simulator
