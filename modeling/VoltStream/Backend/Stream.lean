/-
Module: VoltStream.Backend.Stream
Purpose: The text of the realtime stream: the envelope of a `fleet_update`, its JSON, and
  the lines that `_event_stream` writes.
Trusted boundary: human-reviewed spec of `model_dump` of the fleet summary, of the
  envelope of `publish` in `app/services/broadcaster.py` and of `app/api/stream.py`
Main exports: modelDump, Envelope, Envelope.toJson, StreamTurn,
  StreamTurn.text, StreamTurn.block, StreamTurn.text_eq
-/
import VoltStream.Backend.FleetSummary
import VoltStream.Text.EventStream
import VoltStream.Text.Json

namespace VoltStream.Backend

open Text Numeric

/-- `model_dump` of a `FleetSummaryResponse`. -/
def modelDump (summary : FleetSummaryResponse Double) : Json PythonNumber (List Char) :=
  .object
    [("total_devices".toList, .number (.int summary.totalDevices)),
      ("online_devices".toList, .number (.int summary.onlineDevices)),
      ("offline_devices".toList, .number (.int summary.offlineDevices)),
      ("average_soc".toList, .number (.float summary.averageSoc)),
      ("total_available_energy_kwh".toList, .number (.float summary.totalAvailableEnergyKwh)),
      ("charging_devices".toList, .number (.int summary.chargingDevices)),
      ("discharging_devices".toList, .number (.int summary.dischargingDevices)),
      ("idle_devices".toList, .number (.int summary.idleDevices)),
      ("active_alerts".toList, .number (.int summary.activeAlerts)),
      ("critical_alerts".toList, .number (.int summary.criticalAlerts))]

/-- The type of the one event that is published. -/
def fleetUpdateType : List Char := "fleet_update".toList

/-- The envelope that `publish` builds; the timestamp is the text of the moment. -/
structure Envelope where
  eventType : List Char
  timestamp : List Char
  payload : Json PythonNumber (List Char)

def Envelope.toJson (envelope : Envelope) : Json PythonNumber (List Char) :=
  .object
    [("event_type".toList, .string envelope.eventType),
      ("timestamp".toList, .string envelope.timestamp),
      ("payload".toList, envelope.payload)]

/-- What an iteration of `_event_stream` gets: an event that the publisher has published,
or none within `_HEARTBEAT_INTERVAL_SECONDS`. -/
inductive StreamTurn where
  | event (timestamp : List Char) (summary : FleetSummaryResponse Double)
  | timeout

/-- The envelope of a `fleet_update`. -/
def fleetUpdate (timestamp : List Char) (summary : FleetSummaryResponse Double) : Envelope :=
  ⟨fleetUpdateType, timestamp, modelDump summary⟩

/-- What the iteration writes, with what `repr` makes of a finite float. -/
def StreamTurn.text (repr : ℚ → List Char) : StreamTurn → List Char
  | .event timestamp summary =>
      let event := fleetUpdate timestamp summary
      "event: ".toList ++ event.eventType ++ "\ndata: ".toList ++
        Json.dumps repr event.toJson ++ "\n\n".toList
  | .timeout => ": keep-alive\n\n".toList

/-- Printable characters end no line. -/
theorem inline_of_allPrintable {text : List Char} (printable : AllPrintable text) :
    ∀ character ∈ text, EventStream.IsInline character := by
  intro character inText
  have isPrintable := printable character inText
  constructor
  · rintro rfl
    exact absurd isPrintable (by decide)
  · rintro rfl
    exact absurd isPrintable (by decide)

section

variable {repr : ℚ → List Char} (readsBack : ReadsBack repr)

/-- The block that the iteration writes. -/
def StreamTurn.block : StreamTurn → EventStream.Block
  | .event timestamp summary =>
      .event ⟨fleetUpdateType, inline_of_allPrintable (.of_all (by decide))⟩
        ⟨Json.dumps repr (fleetUpdate timestamp summary).toJson,
          inline_of_allPrintable (Json.allPrintable_dumps readsBack _)⟩
  | .timeout => .comment ⟨" keep-alive".toList, inline_of_allPrintable (.of_all (by decide))⟩

/-- What is written are blocks: no character of an event ends one of its lines. -/
theorem StreamTurn.text_eq (turn : StreamTurn) :
    turn.text repr = (turn.block readsBack).text := by
  cases turn with
  | event timestamp summary =>
      change "event: ".toList ++ _ ++ "\ndata: ".toList ++ _ ++ "\n\n".toList =
        EventStream.eventName ++ ':' :: ' ' :: _ ++ ['\n'] ++
          (EventStream.dataName ++ ':' :: ' ' :: _ ++ ['\n']) ++ ['\n']
      simp only [EventStream.eventName, EventStream.dataName, List.append_assoc]
      rfl
  | timeout => rfl

end

end VoltStream.Backend
