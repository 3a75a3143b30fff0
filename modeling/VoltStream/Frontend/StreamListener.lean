/-
Module: VoltStream.Frontend.StreamListener
Purpose: The listener for `fleet_update`: what it makes of the text of an event.
Trusted boundary: human-reviewed spec of the listener in `useRealtimeFleetSummary.ts` and
  of `types/fleet.ts`
Main exports: SummaryNumbers, property, readSummary, fleetUpdateListener
-/
import VoltStream.Text.EventStream
import VoltStream.Text.Json

namespace VoltStream.Frontend

open Text Numeric

/-- `FleetSummary`, whose fields are all of type `number`. -/
structure SummaryNumbers where
  totalDevices : Double
  onlineDevices : Double
  offlineDevices : Double
  averageSoc : Double
  totalAvailableEnergyKwh : Double
  chargingDevices : Double
  dischargingDevices : Double
  idleDevices : Double
  activeAlerts : Double
  criticalAlerts : Double

/-- `value.name`: of several members with the name, an object has the last one. -/
def property (name : String) : Json Double (List Nat) → Option (Json Double (List Nat))
  | .object members =>
      (members.reverse.find? fun member => member.1 = name.toList.flatMap utf16).map Prod.snd
  | _ => none

/-- A property that is a number. -/
def numberProperty (name : String) (value : Json Double (List Nat)) : Option Double :=
  match property name value with
  | some (.number number) => some number
  | _ => none

/-- A payload of the type that the listener casts it to. -/
def readSummary (payload : Json Double (List Nat)) : Option SummaryNumbers := do
  let totalDevices ← numberProperty "total_devices" payload
  let onlineDevices ← numberProperty "online_devices" payload
  let offlineDevices ← numberProperty "offline_devices" payload
  let averageSoc ← numberProperty "average_soc" payload
  let totalAvailableEnergyKwh ← numberProperty "total_available_energy_kwh" payload
  let chargingDevices ← numberProperty "charging_devices" payload
  let dischargingDevices ← numberProperty "discharging_devices" payload
  let idleDevices ← numberProperty "idle_devices" payload
  let activeAlerts ← numberProperty "active_alerts" payload
  let criticalAlerts ← numberProperty "critical_alerts" payload
  return ⟨totalDevices, onlineDevices, offlineDevices, averageSoc, totalAvailableEnergyKwh,
    chargingDevices, dischargingDevices, idleDevices, activeAlerts, criticalAlerts⟩

/-- The listener, for the messages that are dispatched to it: what it sets the summary to.
Where `JSON.parse` throws, it sets nothing. -/
def fleetUpdateListener (message : EventStream.Message) : Option SummaryNumbers :=
  if message.type = "fleet_update".toList then
    (Json.parse message.data).bind fun envelope =>
      (property "payload" envelope).bind readSummary
  else none

end VoltStream.Frontend
