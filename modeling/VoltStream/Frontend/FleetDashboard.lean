/-
Module: VoltStream.Frontend.FleetDashboard
Purpose: The fleet dashboard of the browser: the hook that keeps a summary up to date from
  two channels, and the page that renders what the hook holds.
Trusted boundary: human-reviewed spec of `useRealtimeFleetSummary.ts`, of
  `FleetDashboardPage.tsx` with what it renders, and of the events of an `EventSource`
Main exports: FleetSummary, Snapshot, ConnectionState, RealtimeFleetSummaryState, Mount,
  Mount.mounted, Move, Mount.perform, Page, fleetDashboardPage,
  RealtimeFleetSummaryState.react, Mount.Transition, Mount.transition_of_step, heard
-/
import VoltStream.Backend.FleetSummary
import VoltStream.Relational.Run

namespace VoltStream.Frontend

open Relational

/-- `FleetSummary`, which mirrors the schema of the backend. -/
abbrev FleetSummary := Backend.FleetSummaryResponse ℚ

/-- A summary that the server has sent, stamped with the moment at which it computed it.
The stamp is not in the message, and nothing here looks at it. -/
structure Snapshot (τ : Type) where
  summary : FleetSummary
  computedAt : τ
deriving Repr, DecidableEq

/-- `ConnectionState`. -/
inductive ConnectionState where
  | connecting
  | live
  | reconnecting
  | disconnected
deriving Repr, DecidableEq

/-- `RealtimeFleetSummaryState`, with the values that `useState` starts from. -/
structure RealtimeFleetSummaryState (τ : Type) where
  summary : Option (Snapshot τ) := none
  loading : Bool := true
  error : Option String := none
  connectionState : ConnectionState := .connecting
deriving Repr, DecidableEq

/-- `EventSource.readyState`. -/
inductive ReadyState where
  | connecting
  | opened
  | closed
deriving Repr, DecidableEq

/-- What a promise is rejected with. -/
inductive Rejection where
  | error (message : String)
  | other
deriving Repr, DecidableEq

/-- `err instanceof Error ? err.message : 'Unknown error'`. -/
def Rejection.message : Rejection → String
  | .error message => message
  | .other => "Unknown error"

/-- One run of the effect of `useRealtimeFleetSummary`: the state of the component, the
variables of the effect, its event source and its requests without a response. -/
structure Mount (τ : Type) where
  state : RealtimeFleetSummaryState τ
  hasConnectedBefore : Bool
  cancelled : Bool
  readyState : ReadyState
  snapshotPending : Bool
  refetchesPending : Nat
deriving Repr, DecidableEq

/-- What can happen while the component is mounted, and after. -/
inductive Move (τ : Type) where
  | snapshotFetched (data : Snapshot τ)
  | snapshotFailed (err : Rejection)
  | opened
  | refetched (data : Snapshot τ)
  | refetchFailed
  | fleetUpdate (payload : Snapshot τ)
  | errored (givenUp : Bool)
  | unmounted
deriving Repr, DecidableEq

namespace Mount

variable {τ : Type} (self : Mount τ)

/-- The effect has sent its first request and created its event source. -/
def mounted : Mount τ where
  state := {}
  hasConnectedBefore := false
  cancelled := false
  readyState := .connecting
  snapshotPending := true
  refetchesPending := 0

/-- The first request is answered: `.then`. -/
def snapshotThen (data : Snapshot τ) : Mount τ :=
  if self.cancelled then self
  else { self with state := { self.state with summary := some data, loading := false } }

/-- The first request fails: `.catch`. -/
def snapshotCatch (err : Rejection) : Mount τ :=
  if self.cancelled then self
  else { self with state := { self.state with error := some err.message, loading := false } }

/-- `source.onopen`, which refetches the summary unless this is the first connection. -/
def onOpen : Mount τ :=
  if self.cancelled then self
  else
    { self with
      state := { self.state with connectionState := .live }
      refetchesPending :=
        if self.hasConnectedBefore then self.refetchesPending + 1 else self.refetchesPending
      hasConnectedBefore := true }

/-- The request of a reconnect is answered; a failed one changes nothing. -/
def refetchThen (data : Snapshot τ) : Mount τ :=
  if self.cancelled then self
  else { self with state := { self.state with summary := some data } }

/-- The listener for `fleet_update`. -/
def onFleetUpdate (payload : Snapshot τ) : Mount τ :=
  if self.cancelled then self
  else { self with state := { self.state with summary := some payload } }

/-- `source.onerror`. -/
def onError : Mount τ :=
  if self.cancelled then self
  else
    { self with
      state :=
        { self.state with
          connectionState :=
            if self.readyState = .closed then .disconnected else .reconnecting } }

/-- The cleanup of the effect. -/
def cleanup : Mount τ := { self with cancelled := true, readyState := .closed }

/-- What a move does, if it is possible: a request has one response, and the browser sets
`readyState` before it dispatches an event, of which a closed source has none. -/
def perform : Move τ → Option (Mount τ)
  | .snapshotFetched data =>
      if self.snapshotPending then some ({ self with snapshotPending := false }.snapshotThen data)
      else none
  | .snapshotFailed err =>
      if self.snapshotPending then some ({ self with snapshotPending := false }.snapshotCatch err)
      else none
  | .opened =>
      if self.readyState = .connecting then some { self with readyState := .opened }.onOpen
      else none
  | .refetched data =>
      if self.refetchesPending = 0 then none
      else some ({ self with refetchesPending := self.refetchesPending - 1 }.refetchThen data)
  | .refetchFailed =>
      if self.refetchesPending = 0 then none
      else some { self with refetchesPending := self.refetchesPending - 1 }
  | .fleetUpdate payload =>
      if self.readyState = .opened then some (self.onFleetUpdate payload) else none
  | .errored givenUp =>
      if self.readyState = .closed then none
      else some { self with readyState := if givenUp then .closed else .connecting }.onError
  | .unmounted => if self.cancelled then none else some self.cleanup

/-- `perform` as a relation. -/
def Step (before : Mount τ) (move : Move τ) (after : Mount τ) : Prop :=
  before.perform move = some after

end Mount

/-! ### The page -/

/-- `Stat`. -/
structure Stat where
  label : String
  value : String
deriving Repr, DecidableEq

/-- What the page renders: paragraphs, nothing, or the dashboard with its heading, the
status of the connection and the grid of stats. -/
inductive Page where
  | paragraphs (texts : List String)
  | nothing
  | dashboard (heading connectionStatus : String) (stats : List Stat)
deriving Repr, DecidableEq

/-- The `LABELS` of `ConnectionStatus`. -/
def ConnectionState.label : ConnectionState → String
  | .connecting => "Connecting…"
  | .live => "Live"
  | .reconnecting => "Reconnecting…"
  | .disconnected => "Disconnected"

section

-- `Number.prototype.toFixed`: on how it rounds nothing here depends.
variable (toFixed : Nat → ℚ → String)

/-- `formatPercent`. -/
def formatPercent (value : ℚ) : String := toFixed 1 value ++ "%"

/-- `formatEnergy`. -/
def formatEnergy (value : ℚ) : String := toFixed 2 value ++ " kWh"

/-- The `stats` of the page. -/
def fleetStats (summary : FleetSummary) : List Stat :=
  [⟨"Total devices", toString summary.totalDevices⟩,
    ⟨"Online", toString summary.onlineDevices⟩,
    ⟨"Offline", toString summary.offlineDevices⟩,
    ⟨"Average SOC", formatPercent toFixed summary.averageSoc⟩,
    ⟨"Available energy", formatEnergy toFixed summary.totalAvailableEnergyKwh⟩,
    ⟨"Charging", toString summary.chargingDevices⟩,
    ⟨"Discharging", toString summary.dischargingDevices⟩,
    ⟨"Idle", toString summary.idleDevices⟩,
    ⟨"Active alerts", toString summary.activeAlerts⟩,
    ⟨"Critical alerts", toString summary.criticalAlerts⟩]

/-- The page for a summary that has been loaded. -/
def summaryPage (connectionState : ConnectionState) (summary : FleetSummary) : Page :=
  .dashboard "VoltStream Fleet Dashboard" connectionState.label (fleetStats toFixed summary)

/-- `FleetDashboardPage`.  An error with an empty message is falsy. -/
def fleetDashboardPage {τ : Type} (state : RealtimeFleetSummaryState τ) : Page :=
  if state.loading then .paragraphs ["Loading fleet summary..."]
  else
    match state.error.filter fun error => error ≠ "", state.summary with
    | some error, _ =>
        .paragraphs
          ["Could not load fleet summary: " ++ error,
            "Is the backend running at http://localhost:8000?"]
    | none, none => .nothing
    | none, some snapshot => summaryPage toFixed state.connectionState snapshot.summary

end

/-! ### What a move does -/

section

variable {τ : Type}

/-- What a mounted component makes of a move. -/
def RealtimeFleetSummaryState.react (state : RealtimeFleetSummaryState τ) :
    Move τ → RealtimeFleetSummaryState τ
  | .snapshotFetched data => { state with summary := some data, loading := false }
  | .snapshotFailed err => { state with error := some err.message, loading := false }
  | .opened => { state with connectionState := .live }
  | .refetched data => { state with summary := some data }
  | .refetchFailed => state
  | .fleetUpdate payload => { state with summary := some payload }
  | .errored givenUp =>
      { state with connectionState := if givenUp then .disconnected else .reconnecting }
  | .unmounted => state

/-- The move answers the first request. -/
def Move.isAnswer : Move τ → Bool
  | .snapshotFetched _ | .snapshotFailed _ => true
  | _ => false

/-- The component is unmounted. -/
def Move.isUnmount : Move τ → Bool
  | .unmounted => true
  | _ => false

namespace Mount

/-- What a move changes, as far as the page and the first request are concerned. -/
structure Transition (before : Mount τ) (move : Move τ) (after : Mount τ) : Prop where
  state : after.state = if before.cancelled then before.state else before.state.react move
  cancelled : after.cancelled = (before.cancelled || move.isUnmount)
  snapshotPending : after.snapshotPending = (before.snapshotPending && !move.isAnswer)
  answers : move.isAnswer = true → before.snapshotPending = true

variable {before after : Mount τ} {move : Move τ}

/-- Every handler makes nothing of an event once the component is unmounted. -/
theorem transition_of_step (step : before.Step move after) : Transition before move after := by
  obtain ⟨state, connectedBefore, cancelled, readyState, pending, refetches⟩ := before
  unfold Step at step
  cases move with
  | snapshotFetched data =>
      obtain ⟨isPending, done⟩ := Option.ite_none_right_eq_some.mp step
      obtain rfl := Option.some.inj done
      obtain rfl : pending = true := isPending
      cases cancelled <;> exact ⟨rfl, rfl, rfl, fun _ => rfl⟩
  | snapshotFailed err =>
      obtain ⟨isPending, done⟩ := Option.ite_none_right_eq_some.mp step
      obtain rfl := Option.some.inj done
      obtain rfl : pending = true := isPending
      cases cancelled <;> exact ⟨rfl, rfl, rfl, fun _ => rfl⟩
  | opened =>
      obtain ⟨-, done⟩ := Option.ite_none_right_eq_some.mp step
      obtain rfl := Option.some.inj done
      cases cancelled <;> exact ⟨rfl, rfl, (Bool.and_true pending).symm, nofun⟩
  | refetched data =>
      obtain ⟨-, done⟩ := Option.ite_none_left_eq_some.mp step
      obtain rfl := Option.some.inj done
      cases cancelled <;> exact ⟨rfl, rfl, (Bool.and_true pending).symm, nofun⟩
  | refetchFailed =>
      obtain ⟨-, done⟩ := Option.ite_none_left_eq_some.mp step
      obtain rfl := Option.some.inj done
      cases cancelled <;> exact ⟨rfl, rfl, (Bool.and_true pending).symm, nofun⟩
  | fleetUpdate payload =>
      obtain ⟨-, done⟩ := Option.ite_none_right_eq_some.mp step
      obtain rfl := Option.some.inj done
      cases cancelled <;> exact ⟨rfl, rfl, (Bool.and_true pending).symm, nofun⟩
  | errored givenUp =>
      obtain ⟨-, done⟩ := Option.ite_none_left_eq_some.mp step
      obtain rfl := Option.some.inj done
      cases cancelled <;> cases givenUp <;>
        exact ⟨rfl, rfl, (Bool.and_true pending).symm, nofun⟩
  | unmounted =>
      obtain ⟨-, done⟩ := Option.ite_none_left_eq_some.mp step
      obtain rfl := Option.some.inj done
      cases cancelled <;> exact ⟨rfl, rfl, (Bool.and_true pending).symm, nofun⟩

variable {moves : List (Move τ)} {last : Mount τ}

theorem cancelled_of_run (run : Trace Step mounted moves last) :
    last.cancelled = moves.any Move.isUnmount := by
  refine run.invariant (fun moves reached => reached.cancelled = moves.any Move.isUnmount) rfl ?_
  intro moves before move after inStep step
  rw [(transition_of_step step).cancelled, inStep, List.any_append, List.any_cons, List.any_nil,
    Bool.or_false]

end Mount

/-- What happens before the component is unmounted. -/
def heard (moves : List (Move τ)) : List (Move τ) := moves.takeWhile fun move => !move.isUnmount

/-- What a mounted component picks out of one more move, it picks in addition. -/
theorem filterMap_heard_concat {β : Type} {pick : Move τ → Option β}
    (deaf : pick .unmounted = none) (moves : List (Move τ)) (move : Move τ) :
    (heard (moves ++ [move])).filterMap pick =
      (heard moves).filterMap pick ++
        (if moves.any Move.isUnmount then none else pick move).toList := by
  refine filterMap_takeWhile_concat Move.isUnmount moves move fun isUnmount => ?_
  cases move with
  | unmounted => exact deaf
  | _ => cases isUnmount

end

end VoltStream.Frontend
