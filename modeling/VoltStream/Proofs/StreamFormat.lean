/-
Module: VoltStream.Proofs.StreamFormat
Purpose: The round trip of the realtime stream: what the backend writes, in whatever
  pieces and however much of it arrives, is read as the summaries that were published, except
  those with an infinity or NaN, at which the listener throws.
Trusted boundary: none
Main exports: numbersOf, turnSummary, listener_block, stream_round_trip
-/
import VoltStream.Backend.Stream
import VoltStream.Frontend.StreamListener

namespace VoltStream.Frontend

open Numeric Text Text.EventStream Backend

/-- The numbers of a summary, as JavaScript reads them: the counts as the nearest doubles, and
the floats as they are, if they are finite. -/
def numbersOf (summary : FleetSummaryResponse Double) : Option SummaryNumbers :=
  if summary.averageSoc.isFinite && summary.totalAvailableEnergyKwh.isFinite then
    some
      { totalDevices := .nearest summary.totalDevices
        onlineDevices := .nearest summary.onlineDevices
        offlineDevices := .nearest summary.offlineDevices
        averageSoc := summary.averageSoc
        totalAvailableEnergyKwh := summary.totalAvailableEnergyKwh
        chargingDevices := .nearest summary.chargingDevices
        dischargingDevices := .nearest summary.dischargingDevices
        idleDevices := .nearest summary.idleDevices
        activeAlerts := .nearest summary.activeAlerts
        criticalAlerts := .nearest summary.criticalAlerts }
  else none

/-- Every field of the type is a member of the dump. -/
theorem readSummary_modelDump (summary : FleetSummaryResponse Double) :
    (Json.toScript (modelDump summary)).bind readSummary = numbersOf summary := by
  obtain ⟨_, _, _, averageSoc, totalAvailableEnergyKwh, _, _, _, _, _⟩ := summary
  cases averageSoc <;> cases totalAvailableEnergyKwh <;> rfl

/-- The summary that an iteration of `_event_stream` writes, if it writes one. -/
def turnSummary : StreamTurn → Option (FleetSummaryResponse Double)
  | .event _ summary => some summary
  | .timeout => none

/-- The envelope has the payload under its name. -/
theorem property_payload (envelope : Envelope) :
    (Json.toScript envelope.toJson).bind (property "payload") =
      Json.toScript envelope.payload := by
  simp only [Envelope.toJson, Json.toScript, Json.membersToScript]
  cases Json.toScript envelope.payload <;> rfl

/-- The listener is called for a block with an event, and makes of it the summary that was
written; for a comment it is not called. -/
theorem listener_block {repr : ℚ → List Char} (readsBack : ReadsBack repr) (turn : StreamTurn) :
    (turn.block readsBack).message.map fleetUpdateListener =
      (turnSummary turn).map numbersOf := by
  cases turn with
  | timeout => rfl
  | event timestamp summary =>
      have isType : fleetUpdateType = "fleet_update".toList := rfl
      change some (if fleetUpdateType = "fleet_update".toList then
          (Json.parse (Json.dumps repr (fleetUpdate timestamp summary).toJson)).bind
            fun envelope => (property "payload" envelope).bind readSummary
        else none) = some (numbersOf summary)
      rw [if_pos isType, Json.parse_dumps readsBack, ← Option.bind_assoc, property_payload]
      exact congrArg some (readSummary_modelDump summary)

/-- What is written as a whole. -/
theorem flatMap_text {repr : ℚ → List Char} (readsBack : ReadsBack repr)
    (turns : List StreamTurn) :
    turns.flatMap (StreamTurn.text repr) =
      (turns.map (StreamTurn.block readsBack)).flatMap Block.text := by
  rw [List.flatMap_map]
  exact congrArg (List.flatMap · turns) (funext fun turn => turn.text_eq readsBack)

/-- However much of a stream has arrived, the listener has been called for exactly the events
that have arrived whole, in order, and has set the summary to the numbers that were computed,
or thrown where one of them was an infinity or NaN; an event that is cut off, and a
keep-alive, set nothing. -/
theorem stream_round_trip {repr : ℚ → List Char} (readsBack : ReadsBack repr)
    (turns : List StreamTurn) (received : List Char)
    (isPrefix : received <+: turns.flatMap (StreamTurn.text repr)) :
    ∃ whole, whole <+: turns ∧ whole.flatMap (StreamTurn.text repr) <+: received ∧
      (∀ next, whole ++ [next] <+: turns →
        ¬ (whole ++ [next]).flatMap (StreamTurn.text repr) <+: received) ∧
      (Reader.readAll received .start).2.map fleetUpdateListener =
        (whole.filterMap turnSummary).map numbersOf := by
  simp only [flatMap_text readsBack] at isPrefix ⊢
  obtain ⟨blocks, isWhole, inside, notNext, messages⟩ := Reader.readAll_prefix isPrefix
  obtain ⟨whole, wholeTurns, rfl⟩ : ∃ whole, whole <+: turns ∧
      whole.map (StreamTurn.block readsBack) = blocks := by
    refine ⟨turns.take blocks.length, List.take_prefix .., ?_⟩
    rw [List.map_take]
    exact (List.prefix_iff_eq_take.mp isWhole).symm
  refine ⟨whole, wholeTurns, inside, ?_, ?_⟩
  · intro next more
    have moreBlocks := more.map (StreamTurn.block readsBack)
    rw [List.map_append] at moreBlocks ⊢
    exact notNext _ moreBlocks
  · rw [messages, List.filterMap_map, List.map_filterMap, List.map_filterMap]
    exact List.filterMap_congr fun turn _ => listener_block readsBack turn

/-- What `repr` makes of 55.0 and of 5.5, and all the digits of any other float. -/
def sampleRepr (value : ℚ) : List Char :=
  if value = 55 then ['5', '5', '.', '0']
  else if value = 11 / 2 then ['5', '.', '5']
  else printInt (value * 10 ^ 1074).floor ++ ['e', '-', '1', '0', '7', '4']

theorem sampleRepr_readsBack : ReadsBack sampleRepr := by
  intro value isDouble
  unfold sampleRepr
  split
  · next isValue => exact ⟨value, isValue ▸ by decide +kernel, rfl⟩
  split
  · next isValue => exact ⟨value, isValue ▸ by decide +kernel, rfl⟩
  · obtain ⟨significand, exponent, -, -, same⟩ := isDouble
    have starts : StartsExponent ['e', '-', '1', '0', '7', '4'] := by
      simp [StartsExponent]
    have whole : value * 10 ^ 1074 = (significand * 2 ^ exponent * 5 ^ 1074 : Int) := by
      rw [Int.cast_mul, Int.cast_mul, Int.cast_pow, Int.cast_pow, Int.cast_ofNat,
        Int.cast_ofNat, ← same, mul_assoc, ← mul_pow]
      norm_num
    have power : readExponent ['e', '-', '1', '0', '7', '4'] = some (-1074) := by decide +kernel
    refine ⟨value, ?_, rfl⟩
    rw [readNumeral_printInt_append _ starts, power, Option.map_some, whole, Rat.floor_intCast,
      ← whole, zpow_neg, mul_assoc]
    refine congrArg some ((congrArg (value * ·) (mul_inv_cancel₀ ?_)).trans (mul_one value))
    positivity

theorem isDouble_fiftyFive : IsDouble 55 := ⟨55, 1074, by norm_num, by norm_num, by norm_num⟩

theorem isDouble_fiveAndAHalf : IsDouble (11 / 2) := by
  have isDouble := @isDouble_div_pow 11 (by norm_num) 1 (by norm_num)
  simpa using isDouble

/-- One idle battery with this much energy. -/
def streamed (energyKwh : Double) : FleetSummaryResponse Double where
  totalDevices := 1
  onlineDevices := 1
  offlineDevices := 0
  averageSoc := .finite 55 isDouble_fiftyFive
  totalAvailableEnergyKwh := energyKwh
  chargingDevices := 0
  dischargingDevices := 0
  idleDevices := 1
  activeAlerts := 0
  criticalAlerts := 0

def fiveAndAHalf : Double := .finite (11 / 2) isDouble_fiveAndAHalf

/-- A keep-alive, an event, one with an infinite energy, and one more. -/
def sampleTurns : List StreamTurn :=
  [.timeout, .event "2026-01-01T00:00:00Z".toList (streamed fiveAndAHalf),
    .event "2026-01-01T00:00:01Z".toList (streamed (.infinity false)),
    .event "2026-01-01T00:00:02Z".toList (streamed fiveAndAHalf)]

/-- The last line of the last event has not arrived: the summary is set once, and then the
listener throws. -/
theorem sample_stream_round_trip :
    (Reader.readAll (sampleTurns.flatMap (StreamTurn.text sampleRepr)).dropLast .start).2.map
        fleetUpdateListener =
      [some
        { totalDevices := .nearest (1 : Int)
          onlineDevices := .nearest (1 : Int)
          offlineDevices := .nearest (0 : Int)
          averageSoc := .finite 55 isDouble_fiftyFive
          totalAvailableEnergyKwh := fiveAndAHalf
          chargingDevices := .nearest (0 : Int)
          dischargingDevices := .nearest (0 : Int)
          idleDevices := .nearest (1 : Int)
          activeAlerts := .nearest (0 : Int)
          criticalAlerts := .nearest (0 : Int) }, none] := by
  obtain ⟨whole, isPrefix, inside, notNext, set⟩ := stream_round_trip sampleRepr_readsBack
    sampleTurns _ (List.dropLast_prefix _)
  have isTake : whole = sampleTurns.take whole.length := List.prefix_iff_eq_take.mp isPrefix
  have arrived : ∀ count < 3, (sampleTurns.take (count + 1)).flatMap
      (StreamTurn.text sampleRepr) <+:
        (sampleTurns.flatMap (StreamTurn.text sampleRepr)).dropLast := by decide +kernel
  have isThree : whole.length = 3 := by
    have notAll : whole.length ≠ 4 := by
      intro all
      rw [isTake, all] at inside
      exact absurd inside (by decide +kernel)
    have notFewer : ¬ whole.length < 3 := by
      intro fewer
      have inTurns : whole.length < sampleTurns.length := fewer.trans (by decide)
      have next : whole ++ [sampleTurns[whole.length]] = sampleTurns.take (whole.length + 1) := by
        nth_rewrite 1 [isTake]
        exact List.take_append_getElem inTurns
      refine notNext _ (next ▸ List.take_prefix ..) ?_
      rw [next]
      exact arrived _ fewer
    have atMost : whole.length ≤ 4 := isPrefix.length_le
    omega
  rw [set, isTake, isThree]
  rfl

end VoltStream.Frontend
