/-
Module: VoltStream.Simulator.FleetRegistration
Purpose: The first thing a started simulator does: it registers its fleet, one battery after
  the other, with a backend that may fail at each of them.
Trusted boundary: human-reviewed spec of `register_fleet` in `simulator/main.py` and of
  `register_battery` in `simulator/client.py`
Main exports: PostFate, raiseForStatus, registerDevice, registerFleet, FleetStart,
  FleetStart.posts, FleetStart.run
-/
import VoltStream.Backend.BatteryService
import VoltStream.Simulator.Client
import VoltStream.Simulator.Fleet

namespace VoltStream.Simulator

open Relational
open Backend (Timestamp createBattery)

/-- What becomes of a POST: it is answered, or it fails with this error, before or after the
backend has processed it. -/
inductive PostFate where
  | answered (now : Timestamp)
  | failed (error : HttpError) (processedAt : Option Timestamp)
deriving Repr, DecidableEq

/-- `raise_for_status`. -/
def raiseForStatus (statusCode : Nat) : Except HttpError Nat :=
  if 200 ≤ statusCode ∧ statusCode < 300 then .ok statusCode else .error (.status statusCode)

/-- `register_battery`: its response or what it raises, and the table afterwards. -/
def registerDevice (battery : Physics.Battery) (fate : PostFate)
    (batteries : Table Backend.Battery Backend.Battery.batteryId) :
    Except HttpError Nat × Table Backend.Battery Backend.Battery.batteryId :=
  match fate with
  | .answered now =>
      let (answer, after) := createBattery (registrationPayload battery) now batteries
      (raiseForStatus answer.statusCode, after)
  | .failed error none => (.error error, batteries)
  | .failed error (some now) =>
      (.error error, (createBattery (registrationPayload battery) now batteries).2)

/-- `register_fleet`: the first battery that raises ends it. -/
def registerFleet : List (Physics.Battery × PostFate) →
    Table Backend.Battery Backend.Battery.batteryId →
    Except HttpError Unit × Table Backend.Battery Backend.Battery.batteryId
  | [], batteries => (.ok (), batteries)
  | (battery, fate) :: rest, batteries =>
      match registerDevice battery fate batteries with
      | (.error error, after) => (.error error, after)
      | (.ok _, after) => registerFleet rest after

/-- A start of the simulator, with what becomes of the POST for each index. -/
structure FleetStart where
  config : FleetConfig
  fates : Nat → PostFate

/-- The batteries of the fleet, in order, with their fates. -/
def FleetStart.posts (start : FleetStart) : List (Physics.Battery × PostFate) :=
  (List.range start.config.deviceCount).map fun index =>
    (buildBattery start.config index, start.fates index)

/-- The registration of the fleet. -/
def FleetStart.run (start : FleetStart)
    (batteries : Table Backend.Battery Backend.Battery.batteryId) :
    Except HttpError Unit × Table Backend.Battery Backend.Battery.batteryId :=
  registerFleet start.posts batteries

end VoltStream.Simulator
