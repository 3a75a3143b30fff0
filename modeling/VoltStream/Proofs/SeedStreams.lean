/-
Module: VoltStream.Proofs.SeedStreams
Purpose: Whether the variation of a profile and the noise of a battery are drawn from
  streams of their own: they are for two batteries, and never for one and the same.
Trusted boundary: human-reviewed statement that two streams are separate (`SeparateStreams`)
Main exports: Draw.SameAs, Fleet.SeparateStreams, Fleet.noiseRng_eq_profileRng,
  Fleet.separateStreams_iff, Fleet.lone_battery_shares_stream
-/
import VoltStream.Simulator.FleetSeeds

namespace VoltStream.Simulator

/-- The draws stand at one position of one sequence. -/
def Draw.SameAs (first second : Draw) : Prop :=
  first.seed = second.seed ∧ first.position = second.position

namespace Fleet

/-- The generators for the profile of one battery and the noise of another are seeded by
draws, and not by the same one. -/
def SeparateStreams (self : Fleet) (i j : Nat) : Prop :=
  ∃ profileDraw noiseDraw,
    (self.profileRng i).bind Rng.seed = some profileDraw ∧
      (self.noiseRng j).bind Rng.seed = some noiseDraw ∧ ¬ profileDraw.SameAs noiseDraw

section

variable {random : Int → Nat → Nat} {config : SeededFleetConfig} {seed : Int} {i j : Nat}

/-- The generator of a profile is seeded by the draw at the index of its battery. -/
theorem profileRng_eq (seeded : config.randomSeed = some seed) (inRange : i < config.deviceCount) :
    (Fleet.init random config).profileRng i = some { seed := some (drawAt random seed i) } := by
  rw [← length_buildSeededFleet random] at inRange
  rw [profileRng_init, List.getElem?_eq_getElem inRange, freshSeed, seeded]
  rfl

/-- So is the generator of its noise. -/
theorem noiseRng_eq (seeded : config.randomSeed = some seed) (inRange : i < config.deviceCount) :
    (Fleet.init random config).noiseRng i = some { seed := some (drawAt random seed i) } := by
  rw [← length_buildSeededFleet random] at inRange
  rw [noiseRng_init, List.getElem?_eq_getElem inRange, freshSeed, seeded]
  rfl

/-- The variation of its profile and the noise of a battery come from one sequence. -/
theorem shared_sequence (seeded : config.randomSeed = some seed)
    (inRange : i < config.deviceCount) :
    ((Fleet.init random config).profileRng i).bind (Rng.sequence random) =
        some (random (drawAt random seed i).value) ∧
      ((Fleet.init random config).noiseRng i).bind (Rng.sequence random) =
        some (random (drawAt random seed i).value) := by
  rw [profileRng_eq seeded inRange, noiseRng_eq seeded inRange]
  exact ⟨rfl, rfl⟩

/-- The streams of a seeded fleet are separate exactly for two different batteries. -/
theorem separateStreams_iff (seeded : config.randomSeed = some seed)
    (first : i < config.deviceCount) (second : j < config.deviceCount) :
    (Fleet.init random config).SeparateStreams i j ↔ i ≠ j := by
  rw [SeparateStreams, profileRng_eq seeded first, noiseRng_eq seeded second]
  constructor
  · rintro ⟨profileDraw, noiseDraw, isProfile, isNoise, apart⟩ same
    obtain rfl : drawAt random seed i = profileDraw := Option.some.inj isProfile
    obtain rfl : drawAt random seed j = noiseDraw := Option.some.inj isNoise
    exact apart ⟨rfl, same⟩
  · intro different
    exact ⟨_, _, rfl, rfl, fun same => different same.2⟩

end

/-! ### A fleet of one battery -/

/-- What `python3 fleet.py --interval 2` runs, with so many devices; the seed is 0. -/
def demoConfig (deviceCount : Nat) (positive : 1 ≤ deviceCount) : SeededFleetConfig where
  deviceCount := deviceCount
  telemetryIntervalSeconds := 2
  faultRate := 1 / 5
  randomSeed := some 0
  deviceCountBound := positive
  telemetryIntervalBound := two_pos
  faultRateBounds := by norm_num

/-- The first three numbers that `random.Random(0)` draws. -/
def sampleDraws (seed : Int) (position : Nat) : Nat :=
  if seed = 0 then [3626764237, 1806341205, 2195908194].getD position 0 else 0

theorem sample_separateStreams :
    (Fleet.init sampleDraws (demoConfig 2 one_le_two)).SeparateStreams 0 1 :=
  (separateStreams_iff rfl two_pos one_lt_two).mpr zero_ne_one

/-- One draw seeds the generator that varies the profile of the only battery and the one
that its noise comes from. -/
theorem lone_battery_shares_stream :
    (Fleet.init sampleDraws (demoConfig 1 le_rfl)).profileRng 0 =
        some { seed := some ⟨0, 0, 3626764237⟩ } ∧
      (Fleet.init sampleDraws (demoConfig 1 le_rfl)).noiseRng 0 =
        some { seed := some ⟨0, 0, 3626764237⟩ } ∧
      ¬ (Fleet.init sampleDraws (demoConfig 1 le_rfl)).SeparateStreams 0 0 := by
  have profile : (Fleet.init sampleDraws (demoConfig 1 le_rfl)).profileRng 0 =
      some { seed := some ⟨0, 0, 3626764237⟩ } := profileRng_eq rfl one_pos
  have noise : (Fleet.init sampleDraws (demoConfig 1 le_rfl)).noiseRng 0 =
      some { seed := some ⟨0, 0, 3626764237⟩ } := noiseRng_eq rfl one_pos
  refine ⟨profile, noise, ?_⟩
  rintro ⟨profileDraw, noiseDraw, isProfile, isNoise, apart⟩
  rw [profile] at isProfile
  rw [noise] at isNoise
  obtain rfl := Option.some.inj (isProfile.symm.trans isNoise)
  exact apart ⟨rfl, rfl⟩

end Fleet

end VoltStream.Simulator
