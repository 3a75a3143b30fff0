/-
Module: VoltStream.Frontend.AlertsPage
Purpose: The alerts page together with the server behind it: an operator filters and
  resolves alerts while any sessions of the server run, and requests take their time.
Trusted boundary: human-reviewed spec of `AlertsPage.tsx`, `useAlerts.ts`,
  `alertService.ts` and of the two statements of `list_alerts`, each of which reads what is
  committed when it runs
Main exports: AlertsPage, AlertsPage.filters, Listing, ResolveCall, Console, Console.start,
  ConsoleMove, Console.perform, Console.Step, Console.UpToDate
-/
import VoltStream.Backend.AlertListing
import VoltStream.Backend.Sessions
import VoltStream.Frontend.UseAsync

namespace VoltStream.Frontend

open Relational Backend

/-- White space and line terminators, which `trim` removes. -/
def isWhiteSpace (character : Char) : Bool :=
  character.toNat ∈
    [0x09, 0x0A, 0x0B, 0x0C, 0x0D, 0x20, 0xA0, 0x1680, 0x2000, 0x2001, 0x2002, 0x2003, 0x2004,
      0x2005, 0x2006, 0x2007, 0x2008, 0x2009, 0x200A, 0x2028, 0x2029, 0x202F, 0x205F, 0x3000,
      0xFEFF]

/-- `String.prototype.trim`. -/
def trim (text : String) : String :=
  .ofList ((text.toList.dropWhile isWhiteSpace).rdropWhile isWhiteSpace)

/-- The choice of states to list. -/
inductive ResolvedChoice where
  | unresolved
  | resolved
  | all
deriving Repr, DecidableEq

/-- The state of `AlertsPage`.  `none` is the empty string of a choice. -/
structure AlertsPage where
  severity : Option Severity := none
  alertType : Option AlertType := none
  resolved : ResolvedChoice := .unresolved
  batteryIdInput : String := ""
  batteryIdFilter : String := ""
  refreshKey : Nat := 0
  actionError : Option String := none
  resolvingId : Option Uuid := none
deriving Repr, DecidableEq

namespace AlertsPage

variable (page : AlertsPage)

/-- `filters`. -/
def filters : AlertFilters where
  severity := page.severity
  alertType := page.alertType
  batteryId := if page.batteryIdFilter = "" then none else some page.batteryIdFilter
  resolved := match page.resolved with
    | .all => none
    | choice => some (choice = .resolved)

/-- The dependencies of `useAlerts`. -/
def deps : AlertFilters × Nat := (page.filters, page.refreshKey)

/-- `handleBatteryIdSubmit`. -/
def handleBatteryIdSubmit : AlertsPage := { page with batteryIdFilter := trim page.batteryIdInput }

/-- `handleResolve` up to its request. -/
def startResolve (alertId : Uuid) : AlertsPage :=
  { page with actionError := none, resolvingId := some alertId }

/-- `handleResolve` after the request has succeeded. -/
def resolveDone : AlertsPage :=
  { page with refreshKey := page.refreshKey + 1, resolvingId := none }

/-- `handleResolve` after the request has failed. -/
def resolveFailed (err : Rejection) : AlertsPage :=
  { page with
    actionError := some (match err with
      | .error message => message
      | .other => "Could not resolve alert")
    resolvingId := none }

end AlertsPage

/-- `AlertListResponse`. -/
structure AlertListResponse where
  alerts : List Alert
  total : Nat
  limit : Nat
  offset : Nat
deriving Repr, DecidableEq

/-- How far `list_alerts` is for one request. -/
inductive Listing where
  | requested
  | counted (total : Nat)
  | listed (response : AlertListResponse)
deriving Repr, DecidableEq

/-- One request of `handleResolve`: the session that serves it, whether `resolve_alert` has
returned, and whether the page has had the response. -/
structure ResolveCall where
  alertId : Uuid
  session : SessionId
  returned : Bool
  answered : Option Bool
deriving Repr, DecidableEq

/-- The server, the page, its `useAlerts`, the requests of that hook, one for each run of
its effect, and the requests of `handleResolve`. -/
structure Console where
  server : Server
  page : AlertsPage
  hook : Async (AlertFilters × Nat) AlertListResponse
  listings : List Listing
  calls : List ResolveCall

/-- What can happen: at the server, at the page, in React, and to the requests.  `now` is
the time that `resolve_alert` reads. -/
inductive ConsoleMove where
  | server (session : SessionId) (action : Action)
  | changeSeverity (severity : Option Severity)
  | changeAlertType (alertType : Option AlertType)
  | changeResolved (choice : ResolvedChoice)
  | changeBatteryId (input : String)
  | submitBatteryId
  | resolve (alertId : Uuid) (session : SessionId) (now : Timestamp)
  | resolved (call : Nat)
  | notResolved (call : Nat) (err : Rejection)
  | render
  | effect
  | count (fetch : Nat)
  | list (fetch : Nat) (order : List Alert)
  | respond (fetch : Nat) (response : AlertListResponse)
  | reject (fetch : Nat) (err : Rejection)
  | unmount
deriving Repr, DecidableEq

/-- The alerts that the filters select among the committed ones. -/
def selectedAlerts (server : Server) (filters : AlertFilters) : List Alert :=
  ((List.range server.alerts.size).filterMap fun alertId =>
    (server.alerts.cells alertId).committed).filter filters.selects

/-- The defaults of the query parameters that the page does not send. -/
def defaultLimit : Nat := 100
def defaultOffset : Nat := 0

/-- The response for the rows in the order that the query returns them. -/
def listResponse (total : Nat) (order : List Alert) : AlertListResponse where
  alerts := (order.drop defaultOffset).take defaultLimit
  total := total
  limit := defaultLimit
  offset := defaultOffset

/-- `resolve_alert` returns with this event: the alert it has loaded is resolved already,
or its commit has gone through. -/
def returnsWith (server : Server) (session : SessionId) : Event → Bool
  | .fetched alertId _ => ((server.alerts.cells alertId).view session).any Alert.resolved
  | .committed => true
  | _ => false

instance (order : List Alert) : Decidable (NewestFirst Alert.timestamp order) :=
  inferInstanceAs (Decidable (List.Pairwise _ _))

namespace Console

/-- The page has just been rendered for the first time, over a database at rest. -/
def start (db : Database) (programs : SessionId → List Statement) : Console where
  server := .ofDatabase db programs
  page := {}
  hook := .mount (AlertsPage.deps {})
  listings := []
  calls := []

variable (settings : Settings) (programs : SessionId → List Statement) (console : Console)

/-- What the server's event means for the requests that it serves. -/
def afterEvent (session : SessionId) (event : Event) : List ResolveCall :=
  console.calls.map fun call =>
    if call.session = session then
      { call with returned := call.returned || returnsWith console.server session event }
    else call

/-- A move of the page, which is possible until the component is unmounted. -/
def withPage (page : AlertsPage) : Option Console :=
  if console.hook.unmounted then none else some { console with page := page }

/-- The filters of the request of a fetch. -/
def requested (fetch : Nat) : Option AlertFilters :=
  console.hook.fetches[fetch]?.map fun made => made.deps.1

/-- A move of the hook. -/
def withHook (move : Async.Move (AlertFilters × Nat) AlertListResponse) : Option Console :=
  (console.hook.perform move).map fun hook => { console with hook := hook }

/-- The response to a request of `handleResolve`, or its failure, which can have any
reason.  The setters of an unmounted component do nothing, and nobody hears of it then. -/
def answer (call : Nat) (succeeds : Bool) (page : AlertsPage) : Option Console :=
  match console.calls[call]? with
  | none => none
  | some made =>
      if made.answered = none ∧ (succeeds = true → made.returned = true) then
        withPage
          { console with
            calls := console.calls.set call { made with answered := some succeeds } } page
      else none

/-- What a move does, if it is possible.  A request of `handleResolve` is served by a
session that runs `resolve_alert`, and has not begun before; it may be for any alert, since
the page that the operator sees can be an earlier one. -/
def perform : ConsoleMove → Option Console
  | .server session action =>
      (console.server.perform settings session action).map fun taken =>
        { console with server := taken.2, calls := console.afterEvent session taken.1 }
  | .changeSeverity severity => console.withPage { console.page with severity := severity }
  | .changeAlertType alertType => console.withPage { console.page with alertType := alertType }
  | .changeResolved choice => console.withPage { console.page with resolved := choice }
  | .changeBatteryId input => console.withPage { console.page with batteryIdInput := input }
  | .submitBatteryId => console.withPage console.page.handleBatteryIdSubmit
  | .resolve alertId session now =>
      if console.page.resolvingId ≠ some alertId ∧ programs session = manualResolution alertId now ∧
          (console.server.sessions session).todo = programs session ∧
          ∀ call ∈ console.calls, call.session ≠ session then
        withPage { console with calls := console.calls ++ [⟨alertId, session, false, none⟩] }
          (console.page.startResolve alertId)
      else none
  | .resolved call => console.answer call true console.page.resolveDone
  | .notResolved call err => console.answer call false (console.page.resolveFailed err)
  | .render => console.withHook (.commit console.page.deps)
  | .effect =>
      withHook { console with listings := console.listings ++ [.requested] } .effect
  | .count fetch =>
      match console.listings[fetch]?, console.requested fetch with
      | some .requested, some filters =>
          some { console with
            listings := console.listings.set fetch
              (.counted (selectedAlerts console.server filters).length) }
      | _, _ => none
  | .list fetch order =>
      match console.listings[fetch]?, console.requested fetch with
      | some (.counted total), some filters =>
          if order.Perm (selectedAlerts console.server filters) ∧
              NewestFirst Alert.timestamp order then
            some { console with
              listings := console.listings.set fetch (.listed (listResponse total order)) }
          else none
      | _, _ => none
  | .respond fetch response =>
      if console.listings[fetch]? = some (.listed response) then
        console.withHook (.settle fetch (.resolved response))
      else none
  | .reject fetch err => console.withHook (.settle fetch (.rejected err))
  | .unmount => console.withHook .unmount

/-- `perform` as a relation. -/
def Step (before : Console) (move : ConsoleMove) (after : Console) : Prop :=
  before.perform settings programs move = some after

/-- Nothing is left to render, and no effect is left to run. -/
def UpToDate : Prop :=
  console.hook.effectPending = false ∧ console.hook.deps = console.page.deps

instance : Decidable console.UpToDate := inferInstanceAs (Decidable (_ ∧ _))

end Console

end VoltStream.Frontend
