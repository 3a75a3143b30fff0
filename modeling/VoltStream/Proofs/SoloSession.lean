/-
Module: VoltStream.Proofs.SoloSession
Purpose: A session that runs alone does to the tables what the straight-line
  functions of its request do, so the two models of the backend agree where both
  apply.
Trusted boundary: none
Main exports: Statement.run, Server.Simulates, Server.RestsOver, solo_ingest,
  solo_detect, solo_resolve
-/
import VoltStream.Proofs.LatestVersions
import VoltStream.Proofs.DetectorEffect
import VoltStream.Proofs.RequestEffect

namespace VoltStream.Backend

open Relational

/-! ### The alert table as one session sees it -/

theorem Alerts.lookup_update (alerts : Alerts) (alertId : Uuid) (change : Alert → Alert)
    (keeps : KeepsIncident change) (wanted : Uuid) :
    (alerts.update alertId change keeps).table.lookup wanted =
      if alertId = wanted then (alerts.table.lookup wanted).map change
      else alerts.table.lookup wanted :=
  alerts.table.lookup_modify alertId change keeps.alertId wanted

theorem Alerts.lookup_insertNew (alerts : Alerts) (request : AlertRequest)
    (noneOpen : alerts.getUnresolvedAlert request.batteryId request.alertType = none)
    (wanted : Uuid) :
    (alerts.insertNew request noneOpen).table.lookup wanted =
      if wanted = alerts.nextAlertId then some (request.toAlert alerts.nextAlertId)
      else alerts.table.lookup wanted := by
  by_cases new : wanted = alerts.nextAlertId
  · subst new
    rw [if_pos rfl, Table.lookup_some_iff]
    exact ⟨List.mem_append_right _ List.mem_cons_self, rfl⟩
  · have other : ¬ (request.toAlert alerts.nextAlertId).alertId = wanted := Ne.symm new
    rw [if_neg new, Table.lookup, Table.lookup]
    change (alerts.rows ++ [_]).find? _ = alerts.rows.find? _
    rw [List.find?_append, List.find?_cons_of_neg (by simpa using other), List.find?_nil,
      Option.or_none]

/-- What a session sees of the alert heap is the table of `alerts`, once the
resolutions it has not flushed are carried out; they concern none of the `keys`
it has still to call for. -/
structure SeesAlerts (session : SessionId) (keys : List (BatteryId × AlertType))
    (heap : Heap Alert) (dirty : List (Uuid × Timestamp)) (alerts : Alerts) : Prop where
  free : ∀ alertId, (heap.cells alertId).lockedAgainst session = false
  clean : ∀ alertId, alertId ∉ dirty.map Prod.fst →
    (heap.cells alertId).view session = alerts.table.lookup alertId
  due : ∀ alertId resolvedAt, (alertId, resolvedAt) ∈ dirty → ∃ alert,
    (heap.cells alertId).view session = some alert ∧ alert.resolved = false ∧
      (alert.batteryId, alert.alertType) ∉ keys ∧
      alerts.table.lookup alertId = some (alert.resolve resolvedAt)
  once : (dirty.map Prod.fst).Nodup
  size : heap.size = alerts.nextAlertId

namespace SeesAlerts

variable {session : SessionId} {keys : List (BatteryId × AlertType)} {heap : Heap Alert}
  {dirty : List (Uuid × Timestamp)} {alerts : Alerts} {batteryId : BatteryId}
  {alertType : AlertType} {alertId : Uuid} {alert : Alert}

theorem of_subset (sees : SeesAlerts session keys heap dirty alerts)
    {fewer : List (BatteryId × AlertType)} (subset : fewer ⊆ keys) :
    SeesAlerts session fewer heap dirty alerts :=
  { sees with
    due := fun alertId resolvedAt member => by
      obtain ⟨alert, seen, unresolved, notKey, stored⟩ := sees.due alertId resolvedAt member
      exact ⟨alert, seen, unresolved, fun key => notKey (subset key), stored⟩ }

/-- With nothing to flush the keys to come do not matter. -/
theorem of_clean (sees : SeesAlerts session keys heap [] alerts)
    (others : List (BatteryId × AlertType)) : SeesAlerts session others heap [] alerts :=
  { sees with due := fun _ _ member => by cases member }

/-- An open alert of a key still to come is not waiting to be flushed. -/
theorem not_dirty_of_seen (sees : SeesAlerts session keys heap dirty alerts)
    (seen : (heap.cells alertId).view session = some alert)
    (isOpen : alert.OpenFor batteryId alertType) (coming : (batteryId, alertType) ∈ keys) :
    alertId ∉ dirty.map Prod.fst := by
  intro member
  obtain ⟨entry, isDue, rfl⟩ := List.mem_map.mp member
  obtain ⟨other, otherSeen, -, notKey, -⟩ := sees.due entry.1 entry.2 isDue
  obtain rfl := Option.some.inj (seen.symm.trans otherSeen)
  obtain ⟨rfl, rfl, -⟩ := isOpen
  exact notKey coming

/-- What the session finds open is the unresolved alert. -/
theorem getUnresolvedAlert_of_seen (sees : SeesAlerts session keys heap dirty alerts)
    (seen : (heap.cells alertId).view session = some alert)
    (isOpen : alert.OpenFor batteryId alertType) (coming : (batteryId, alertType) ∈ keys) :
    alerts.getUnresolvedAlert batteryId alertType = some alert ∧ alert.alertId = alertId := by
  have found := sees.clean alertId (sees.not_dirty_of_seen seen isOpen coming)
  rw [seen] at found
  obtain ⟨stored, ownId⟩ := alerts.table.lookup_some_iff.mp found.symm
  exact ⟨alerts.getUnresolvedAlert_some_iff.mpr ⟨stored, isOpen⟩, ownId⟩

/-- Where the session finds nothing open, nothing is unresolved. -/
theorem getUnresolvedAlert_of_absent (sees : SeesAlerts session keys heap dirty alerts)
    (absent : ∀ alertId, ((heap.cells alertId).view session).bind Alert.indexEntry ≠
      some (batteryId, alertType)) :
    alerts.getUnresolvedAlert batteryId alertType = none := by
  rw [Alerts.getUnresolvedAlert_none_iff]
  intro alert stored isOpen
  have found := alerts.table.lookup_of_mem stored
  by_cases member : alert.alertId ∈ dirty.map Prod.fst
  · obtain ⟨entry, isDue, same⟩ := List.mem_map.mp member
    obtain ⟨other, -, -, -, resolved⟩ := sees.due entry.1 entry.2 isDue
    rw [same, found] at resolved
    obtain rfl := Option.some.inj resolved
    cases isOpen.2.2
  · apply absent alert.alertId
    rw [sees.clean _ member, found, Option.bind_some, Alert.indexEntry_eq_some_iff.mpr isOpen]

/-- A session that sees a row at this id has drawn the id. -/
theorem ne_size_of_due (sees : SeesAlerts session keys heap dirty alerts)
    {resolvedAt : Timestamp} (isDue : (alertId, resolvedAt) ∈ dirty) : alertId ≠ heap.size := by
  obtain ⟨alert, -, -, -, stored⟩ := sees.due alertId resolvedAt isDue
  obtain ⟨member, ownId⟩ := alerts.table.lookup_some_iff.mp stored
  rw [sees.size, ← ownId]
  exact Nat.ne_of_lt (alerts.idsDrawn _ member)

/-- Replacing one row that is not waiting to be flushed, on both sides. -/
theorem write (sees : SeesAlerts session keys heap dirty alerts)
    (notDue : alertId ∉ dirty.map Prod.fst) {after : Alerts}
    (lookup : ∀ wanted, after.table.lookup wanted =
      if wanted = alertId then some alert else alerts.table.lookup wanted)
    (drawn : after.nextAlertId = alerts.nextAlertId + 1) :
    SeesAlerts session keys
      { heap.write session alertId alert with size := heap.size + 1 } dirty after where
  free other := by
    by_cases same : other = alertId
    · subst same
      simp [Heap.write]
    · simpa [Heap.write, same] using sees.free other
  clean other notMember := by
    rw [lookup]
    by_cases same : other = alertId
    · subst same
      rw [if_pos rfl]
      exact Heap.view_write other alert
    · rw [if_neg same, ← sees.clean other notMember]
      simp only [Heap.write, Function.update_of_ne same]
  due other resolvedAt isDue := by
    have different : other ≠ alertId := by
      rintro rfl
      exact notDue (List.mem_map_of_mem isDue)
    obtain ⟨version, seen, unresolved, notKey, stored⟩ := sees.due other resolvedAt isDue
    refine ⟨version, ?_, unresolved, notKey, ?_⟩
    · simpa only [Heap.write, Function.update_of_ne different] using seen
    · rw [lookup, if_neg different, stored]
  once := sees.once
  size := by rw [drawn, ← sees.size]

/-- The upsert of a session that runs alone is `createOrRetainAlert`. -/
theorem upsert {request : AlertRequest}
    (sees : SeesAlerts session ((request.batteryId, request.alertType) :: keys) heap dirty alerts)
    (places : heap.Places Alert.indexEntry session (request.batteryId, request.alertType)
      request.toAlert request.retain alertId alert) :
    SeesAlerts session keys { heap.write session alertId alert with size := heap.size + 1 } dirty
      (createOrRetainAlert request alerts) := by
  have fewer := sees.of_subset (List.subset_cons_self _ keys)
  cases places with
  | @retained _ old free seen keyed =>
      have isOpen := Alert.indexEntry_eq_some_iff.mp keyed
      obtain ⟨found, rfl⟩ := sees.getUnresolvedAlert_of_seen seen isOpen List.mem_cons_self
      apply fewer.write (sees.not_dirty_of_seen seen isOpen List.mem_cons_self)
      · intro wanted
        rw [createOrRetainAlert_of_some found]
        refine (alerts.lookup_update old.alertId _ request.retain_keeps wanted).trans ?_
        by_cases same : wanted = old.alertId
        · subst same
          rw [if_pos rfl, if_pos rfl, alerts.table.lookup_of_mem
            (alerts.getUnresolvedAlert_some_iff.mp found).1, Option.map_some]
        · rw [if_neg same, if_neg (Ne.symm same)]
      · rw [createOrRetainAlert_of_some found]
        rfl
  | inserted absent =>
      have found := sees.getUnresolvedAlert_of_absent absent
      apply fewer.write
      · intro member
        obtain ⟨entry, isDue, same⟩ := List.mem_map.mp member
        exact sees.ne_size_of_due isDue same
      · intro wanted
        rw [createOrRetainAlert_of_none found, Alerts.lookup_insertNew, sees.size]
      · rw [createOrRetainAlert_of_none found]
        rfl

/-- The query of a resolver that finds nothing. -/
theorem resolve_none {resolvedAt : Timestamp}
    (sees : SeesAlerts session ((batteryId, alertType) :: keys) heap dirty alerts)
    (absent : ∀ alertId, ((heap.cells alertId).view session).bind Alert.indexEntry ≠
      some (batteryId, alertType)) :
    SeesAlerts session keys heap dirty
      (resolveAlertIfActive batteryId alertType resolvedAt alerts) := by
  rw [resolveAlertIfActive_of_none (sees.getUnresolvedAlert_of_absent absent)]
  exact sees.of_subset (List.subset_cons_self _ keys)

/-- The query of a resolver that finds an alert: its resolution is due. -/
theorem resolve_some {resolvedAt : Timestamp}
    (sees : SeesAlerts session ((batteryId, alertType) :: keys) heap dirty alerts)
    (notAgain : (batteryId, alertType) ∉ keys)
    (seen : (heap.cells alertId).view session = some alert)
    (isOpen : alert.OpenFor batteryId alertType) :
    SeesAlerts session keys heap (dirty ++ [(alertId, resolvedAt)])
      (resolveAlertIfActive batteryId alertType resolvedAt alerts) := by
  have fewer := sees.of_subset (List.subset_cons_self _ keys)
  have notDue := sees.not_dirty_of_seen seen isOpen List.mem_cons_self
  obtain ⟨found, rfl⟩ := sees.getUnresolvedAlert_of_seen seen isOpen List.mem_cons_self
  rw [resolveAlertIfActive_of_some found]
  constructor
  case free => exact sees.free
  case clean =>
    intro other notMember
    rw [List.map_append, List.mem_append, not_or, List.map_singleton,
      List.mem_singleton] at notMember
    rw [Alerts.lookup_update, if_neg (Ne.symm notMember.2)]
    exact sees.clean other notMember.1
  case due =>
    intro other time member
    rcases List.mem_append.mp member with old | new
    · have different : alert.alertId ≠ other := by
        rintro rfl
        exact notDue (List.mem_map_of_mem old)
      rw [Alerts.lookup_update, if_neg different]
      exact fewer.due other time old
    · obtain ⟨rfl, rfl⟩ := Prod.mk.inj (List.mem_singleton.mp new)
      refine ⟨alert, seen, isOpen.2.2, ?_, ?_⟩
      · rw [isOpen.1, isOpen.2.1]
        exact notAgain
      · rw [Alerts.lookup_update, if_pos rfl, alerts.table.lookup_of_mem
          (alerts.getUnresolvedAlert_some_iff.mp found).1, Option.map_some]
  case once =>
    rw [List.map_append, List.map_singleton, List.nodup_append]
    refine ⟨sees.once, List.nodup_singleton _, ?_⟩
    rintro first firstMember second secondMember rfl
    rw [List.mem_singleton] at secondMember
    rw [secondMember] at firstMember
    exact notDue firstMember
  case size => exact sees.size

/-- Flushing a resolution that is due changes nothing but the version the session
sees. -/
theorem flush {resolvedAt : Timestamp} (sees : SeesAlerts session keys heap dirty alerts)
    (isDue : (alertId, resolvedAt) ∈ dirty)
    (seen : (heap.cells alertId).view session = some alert) :
    SeesAlerts session keys (heap.write session alertId (alert.resolve resolvedAt))
      (dirty.erase (alertId, resolvedAt)) alerts := by
  have listed : (dirty.map Prod.fst).Perm
      (alertId :: (dirty.erase (alertId, resolvedAt)).map Prod.fst) :=
    (List.perm_cons_erase isDue).map Prod.fst
  obtain ⟨onlyOnce, restOnce⟩ := List.nodup_cons.mp (listed.nodup_iff.mp sees.once)
  constructor
  case free =>
    intro other
    by_cases same : other = alertId
    · subst same
      simp [Heap.write]
    · simpa [Heap.write, same] using sees.free other
  case clean =>
    intro other notMember
    by_cases same : other = alertId
    · subst same
      obtain ⟨version, isVersion, -, -, stored⟩ := sees.due other resolvedAt isDue
      obtain rfl := Option.some.inj (seen.symm.trans isVersion)
      rw [stored]
      exact Heap.view_write other _
    · have notDue : other ∉ dirty.map Prod.fst := by
        rw [listed.mem_iff, List.mem_cons, not_or]
        exact ⟨same, notMember⟩
      rw [← sees.clean other notDue]
      simp only [Heap.write, Function.update_of_ne same]
  case due =>
    intro other time member
    have different : other ≠ alertId := by
      rintro rfl
      exact onlyOnce (List.mem_map_of_mem member)
    obtain ⟨version, isVersion, rest⟩ := sees.due other time (List.mem_of_mem_erase member)
    refine ⟨version, ?_, rest⟩
    simpa only [Heap.write, Function.update_of_ne different] using isVersion
  case once => exact restOnce
  case size => exact sees.size

end SeesAlerts

/-! ### The tables as one session sees them -/

/-- The effect of a statement on the tables if nobody interferes.  A selection
stands for the statements it schedules as well. -/
def Statement.run (settings : Settings) (db : Database) : Statement → Database
  | .upsertCurrentState row =>
      { db with
        batteryCurrentState :=
          db.batteryCurrentState.put (notNewer BatteryCurrentState.lastSeen) row }
  | .alert call => { db with alerts := call.run db.alerts }
  | .getAlert alertId now => db.step settings (.resolve now alertId)
  | .selectStale clock => offlineDetectionIteration settings clock db
  | .markOffline ids =>
      { db with batteryCurrentState := markOfflineAll ids db.batteryCurrentState }
  | .commit => db

/-- Straight-line execution. -/
def runCode (settings : Settings) (code : List Statement) (db : Database) : Database :=
  code.foldl (Statement.run settings) db

theorem runCode_append (settings : Settings) (early late : List Statement) (db : Database) :
    runCode settings (early ++ late) db = runCode settings late (runCode settings early db) :=
  List.foldl_append

theorem runCode_alerts (settings : Settings) (calls : List AlertCall) (db : Database) :
    runCode settings (calls.map .alert) db =
      { db with alerts := AlertCall.runAll calls db.alerts } := by
  induction calls generalizing db with
  | nil => rfl
  | cons call rest ih =>
      rw [List.map_cons, runCode, List.foldl_cons, ← runCode, ih, AlertCall.runAll_cons]
      rfl

theorem runCode_upserts (settings : Settings) (rows : List BatteryCurrentState) (db : Database) :
    runCode settings (rows.map .upsertCurrentState) db =
      { db with
        batteryCurrentState :=
          db.batteryCurrentState.putAll (notNewer BatteryCurrentState.lastSeen) rows } := by
  induction rows generalizing db with
  | nil => rfl
  | cons row rest ih =>
      rw [List.map_cons, runCode, List.foldl_cons, ← runCode, ih]
      rfl

/-- What a selection schedules makes up the rest of the iteration. -/
theorem runCode_detectorContinuation (settings : Settings) (clock : DetectorClock)
    (db : Database) :
    runCode settings
        (Server.detectorContinuation settings clock
          (staleIds settings clock.cutoffNow db.batteryCurrentState)) db =
      offlineDetectionIteration settings clock db := by
  unfold Server.detectorContinuation
  split
  · rename_i empty
    simp only [offlineDetectionIteration, markStaleBatteriesOffline, empty]
    rfl
  · rw [runCode_append, runCode_append, runCode_alerts]
    rfl

def Statement.alertKey : Statement → Option (BatteryId × AlertType)
  | .alert call => some call.key
  | _ => none

/-- The keys the code calls the alert helpers for. -/
def alertKeys (code : List Statement) : List (BatteryId × AlertType) :=
  code.filterMap Statement.alertKey

theorem alertKeys_alert (call : AlertCall) (todo : List Statement) :
    alertKeys (.alert call :: todo) = call.key :: alertKeys todo := rfl

theorem alertKeys_append (early late : List Statement) :
    alertKeys (early ++ late) = alertKeys early ++ alertKeys late :=
  List.filterMap_append

theorem alertKeys_alerts (calls : List AlertCall) :
    alertKeys (calls.map .alert) = calls.map AlertCall.key := by
  induction calls with
  | nil => rfl
  | cons call rest ih => rw [List.map_cons, alertKeys_alert, ih, List.map_cons]

theorem alertKeys_upserts (rows : List BatteryCurrentState) :
    alertKeys (rows.map .upsertCurrentState) = [] := by
  simp [alertKeys, Statement.alertKey, List.filterMap_eq_nil_iff]

namespace Server

variable {settings : Settings} {server after : Server} {session : SessionId} {event : Event}
  {db : Database}

/-- A session that runs alone sees the tables of `db`, up to the resolutions it
has not flushed. -/
structure Simulates (settings : Settings) (session : SessionId) (server : Server)
    (db : Database) : Prop where
  free : ∀ batteryId, (server.currentState batteryId).lockedAgainst session = false
  rows : ∀ batteryId, (server.currentState batteryId).view session = db.currentState batteryId
  alerts : SeesAlerts session (alertKeys (server.sessions session).todo) server.alerts
    (server.sessions session).dirty db.alerts
  keysOnce : (alertKeys (server.sessions session).todo).Nodup
  detects : ∀ clock, .selectStale clock ∈ (server.sessions session).todo →
    (server.sessions session).todo = [.selectStale clock] ∧
      (server.sessions session).dirty = [] ∧
      server.staleUnlocked settings clock.cutoffNow session =
        staleIds settings clock.cutoffNow db.batteryCurrentState
  alone : ∀ other, other ≠ session → server.Finished other

theorem view_writeRows (change : BatteryCurrentState → BatteryCurrentState)
    (ids : List BatteryId) (batteryId : BatteryId) :
    ((server.writeRows session change ids).currentState batteryId).view session =
      if batteryId ∈ ids then ((server.currentState batteryId).view session).map change
      else (server.currentState batteryId).view session := by
  simp only [writeRows]
  cases seen : (server.currentState batteryId).view session with
  | none => simp [seen]
  | some row => by_cases listed : batteryId ∈ ids <;> simp [listed, seen]

theorem free_writeRows {change : BatteryCurrentState → BatteryCurrentState}
    {ids : List BatteryId} {batteryId : BatteryId}
    (free : (server.currentState batteryId).lockedAgainst session = false) :
    ((server.writeRows session change ids).currentState batteryId).lockedAgainst session =
      false := by
  simp only [writeRows]
  split
  · split
    · exact Cell.free_write ..
    · exact free
  · exact free

/-- Code that has begun selects no stale rows any more. -/
theorem Simulates.no_select (simulates : server.Simulates settings session db)
    {statement : Statement} {todo : List Statement}
    (code : (server.sessions session).todo = statement :: todo) (clock : DetectorClock) :
    .selectStale clock ∉ todo := by
  intro member
  obtain ⟨whole, -⟩ := simulates.detects clock (code ▸ List.mem_cons_of_mem _ member)
  rw [(List.cons.inj (code.symm.trans whole)).2] at member
  cases member

theorem no_select_detectorContinuation (clock : DetectorClock) (ids : List BatteryId)
    (other : DetectorClock) :
    .selectStale other ∉ detectorContinuation settings clock ids := by
  unfold detectorContinuation
  split <;> simp

/-- The simulation after a statement, from what the statement did to the tables. -/
theorem Simulates.proceed (simulates : server.Simulates settings session db)
    {statement : Statement} {todo : List Statement} {dirty : List (Uuid × Timestamp)}
    {next : Database} (code : (server.sessions session).todo = statement :: todo)
    (sessions : after.sessions =
      Function.update server.sessions session { todo := todo, dirty := dirty })
    (free : ∀ batteryId, (after.currentState batteryId).lockedAgainst session = false)
    (rows : ∀ batteryId, (after.currentState batteryId).view session = next.currentState batteryId)
    (alerts : SeesAlerts session (alertKeys todo) after.alerts dirty next.alerts) :
    after.Simulates settings session next where
  free := free
  rows := rows
  alerts := by simpa only [sessions, Function.update_self] using alerts
  keysOnce := by
    have once := simulates.keysOnce
    rw [code] at once
    rw [sessions, Function.update_self]
    exact (List.Sublist.filterMap _ (List.sublist_cons_self statement todo)).nodup once
  detects clock member := by
    rw [sessions, Function.update_self] at member
    exact absurd member (simulates.no_select code clock)
  alone other different := by
    rw [Finished, sessions, Function.update_of_ne different]
    exact simulates.alone other different

/-- What the session sees of the alerts once a statement is done that is no call. -/
theorem Simulates.alerts_of_no_call (simulates : server.Simulates settings session db)
    {statement : Statement} {todo : List Statement}
    (code : (server.sessions session).todo = statement :: todo)
    (noCall : statement.alertKey = none) :
    SeesAlerts session (alertKeys todo) server.alerts (server.sessions session).dirty
      db.alerts := by
  have sees := simulates.alerts
  rwa [code, alertKeys, List.filterMap_cons_none noCall] at sees

theorem Simulates.stored {row : BatteryCurrentState} {todo : List Statement}
    (simulates : server.Simulates settings session db)
    (code : (server.sessions session).todo = .upsertCurrentState row :: todo) :
    ((server.storeRow session row).resume session todo
        (server.sessions session).dirty).Simulates settings session
      (Statement.run settings db (.upsertCurrentState row)) := by
  apply simulates.proceed code rfl
  · intro batteryId
    by_cases same : batteryId = row.batteryId
    · subst same
      simp [resume, storeRow]
    · simpa [resume, storeRow, same] using simulates.free batteryId
  · intro batteryId
    simp only [Database.currentState, Statement.run, Table.lookup_put]
    by_cases same : row.batteryId = batteryId
    · subst same
      simp only [resume, storeRow, Function.update_self, Cell.view_write, if_true,
        simulates.rows row.batteryId, Database.currentState]
    · rw [if_neg same]
      refine Eq.trans ?_ (simulates.rows batteryId)
      simp only [resume, storeRow, Function.update_of_ne (Ne.symm same)]
  · exact simulates.alerts_of_no_call code rfl

theorem Simulates.raised {request : AlertRequest} {todo : List Statement} {alertId : Uuid}
    {alert : Alert} (simulates : server.Simulates settings session db)
    (code : (server.sessions session).todo = .alert (.createOrRetainAlert request) :: todo)
    (places : server.RaisesAt session request alertId alert) :
    ({ server with
        alerts :=
          { server.alerts.write session alertId alert with
            size := server.alerts.size + 1 } }.resume session todo
      (server.sessions session).dirty).Simulates settings session
      (Statement.run settings db (.alert (.createOrRetainAlert request))) := by
  have sees := simulates.alerts
  rw [code, alertKeys_alert] at sees
  exact simulates.proceed code rfl simulates.free simulates.rows (sees.upsert places)

theorem Simulates.selectedNone {batteryId : BatteryId} {alertType : AlertType}
    {resolvedAt : Timestamp} {todo : List Statement}
    (simulates : server.Simulates settings session db)
    (code : (server.sessions session).todo =
      .alert (.resolveAlertIfActive batteryId alertType resolvedAt) :: todo)
    (absent : ∀ alertId, ((server.alerts.cells alertId).view session).bind Alert.indexEntry ≠
      some (batteryId, alertType)) :
    (server.resume session todo (server.sessions session).dirty).Simulates settings session
      (Statement.run settings db
        (.alert (.resolveAlertIfActive batteryId alertType resolvedAt))) := by
  have sees := simulates.alerts
  rw [code, alertKeys_alert] at sees
  exact simulates.proceed code rfl simulates.free simulates.rows (sees.resolve_none absent)

theorem Simulates.selectedSome {batteryId : BatteryId} {alertType : AlertType}
    {resolvedAt : Timestamp} {todo : List Statement} {alertId : Uuid} {alert : Alert}
    (simulates : server.Simulates settings session db)
    (code : (server.sessions session).todo =
      .alert (.resolveAlertIfActive batteryId alertType resolvedAt) :: todo)
    (seen : (server.alerts.cells alertId).view session = some alert)
    (isOpen : alert.OpenFor batteryId alertType) :
    (server.resume session todo
        ((server.sessions session).dirty ++ [(alertId, resolvedAt)])).Simulates settings session
      (Statement.run settings db
        (.alert (.resolveAlertIfActive batteryId alertType resolvedAt))) := by
  have sees := simulates.alerts
  have once := simulates.keysOnce
  rw [code, alertKeys_alert] at sees once
  exact simulates.proceed code rfl simulates.free simulates.rows
    (sees.resolve_some (List.nodup_cons.mp once).1 seen isOpen)

theorem Simulates.marked {ids : List BatteryId} {todo : List Statement}
    (simulates : server.Simulates settings session db)
    (code : (server.sessions session).todo = .markOffline ids :: todo) :
    ((server.writeRows session BatteryCurrentState.markOffline ids).resume session todo
        (server.sessions session).dirty).Simulates settings session
      (Statement.run settings db (.markOffline ids)) := by
  apply simulates.proceed code rfl
  · exact fun batteryId => free_writeRows (simulates.free batteryId)
  · intro batteryId
    refine (view_writeRows BatteryCurrentState.markOffline ids batteryId).trans ?_
    rw [simulates.rows batteryId]
    exact (lookup_markOfflineAll db.batteryCurrentState ids batteryId).symm
  · exact simulates.alerts_of_no_call code rfl

theorem Simulates.committed {todo : List Statement}
    (simulates : server.Simulates settings session db)
    (code : (server.sessions session).todo = .commit :: todo)
    (clean : (server.sessions session).dirty = []) :
    (server.commit session todo).Simulates settings session db := by
  have sees := simulates.alerts_of_no_call code rfl
  rw [clean] at sees
  apply simulates.proceed code rfl
  · exact fun batteryId => Cell.free_commit (simulates.free batteryId)
  · exact fun batteryId => (Cell.view_commit session _).trans (simulates.rows batteryId)
  · exact
      { free := fun alertId => Cell.free_commit (sees.free alertId)
        clean := fun alertId notMember =>
          (Cell.view_commit session _).trans (sees.clean alertId notMember)
        due := fun _ _ member => by cases member
        once := List.nodup_nil
        size := sees.size }

theorem Simulates.flushed {alertId : Uuid} {resolvedAt : Timestamp} {alert : Alert}
    (simulates : server.Simulates settings session db)
    (due : (alertId, resolvedAt) ∈ (server.sessions session).dirty)
    (seen : (server.alerts.cells alertId).view session = some alert) :
    ({ server with
        alerts := server.alerts.write session alertId (alert.resolve resolvedAt) }.resume
      session (server.sessions session).todo
      ((server.sessions session).dirty.erase (alertId, resolvedAt))).Simulates settings session
        db where
  free := simulates.free
  rows := simulates.rows
  alerts := by simpa [resume] using simulates.alerts.flush due seen
  keysOnce := by simpa [resume] using simulates.keysOnce
  detects clock member := by
    have begun : .selectStale clock ∈ (server.sessions session).todo := by
      simpa [resume] using member
    rw [(simulates.detects clock begun).2.1] at due
    cases due
  alone other different := by
    simpa [Finished, resume, different] using simulates.alone other different

theorem alertKeys_detectorContinuation (settings : Settings) (clock : DetectorClock)
    {ids : List BatteryId} (once : ids.Nodup) :
    (alertKeys (detectorContinuation settings clock ids)).Nodup := by
  unfold detectorContinuation
  split
  · exact List.nodup_nil
  · have keys : alertKeys ([.markOffline ids, .commit] ++
        (deviceOfflineCalls settings clock.alertNow ids).map .alert ++ [.commit]) =
          ids.map fun batteryId => (batteryId, AlertType.deviceOffline) := by
      rw [alertKeys_append, alertKeys_append, alertKeys_alerts, deviceOfflineCalls, List.map_map]
      exact List.append_nil _
    rw [keys]
    exact once.map fun first second same => (Prod.mk.inj same).1

theorem Simulates.lockedStale {clock : DetectorClock} {todo : List Statement}
    (simulates : server.Simulates settings session db)
    (code : (server.sessions session).todo = .selectStale clock :: todo) :
    ((server.writeRows session id
        (server.staleUnlocked settings clock.cutoffNow session)).resume session
      (detectorContinuation settings clock
        (server.staleUnlocked settings clock.cutoffNow session) ++ todo)
      (server.sessions session).dirty).Simulates settings session db := by
  obtain ⟨whole, clean, sameIds⟩ := simulates.detects clock (code ▸ List.mem_cons_self)
  obtain rfl := (List.cons.inj (code.symm.trans whole)).2
  have sees := simulates.alerts
  rw [clean] at sees
  constructor
  case free => exact fun batteryId => free_writeRows (simulates.free batteryId)
  case rows =>
    intro batteryId
    refine (view_writeRows id _ batteryId).trans ?_
    rw [Option.map_id_fun, id, ite_self]
    exact simulates.rows batteryId
  case alerts =>
    simp only [resume, Function.update_self, clean]
    exact sees.of_clean _
  case keysOnce =>
    simp only [resume, Function.update_self, List.append_nil]
    apply alertKeys_detectorContinuation
    rw [sameIds]
    exact staleIds_nodup settings clock.cutoffNow db.batteryCurrentState
  case detects =>
    intro other member
    simp only [resume, Function.update_self, List.append_nil] at member
    exact absurd member (no_select_detectorContinuation clock _ other)
  case alone =>
    intro other different
    simpa [Finished, resume, writeRows, different] using simulates.alone other different

/-- Each step of the session is a statement of the straight-line code, or none. -/
theorem Simulates.step {actor : SessionId} (simulates : server.Simulates settings session db)
    (quiet : server.Quiet) (proceeds : event.Proceeds)
    (effect : server.Effect settings actor event after) :
    ∃ next, after.Simulates settings session next ∧
      runCode settings (after.sessions session).todo next =
        runCode settings (server.sessions session).todo db := by
  obtain rfl : actor = session := by
    by_contra different
    exact effect.not_finished proceeds quiet (simulates.alone actor different)
  cases effect with
  | stored code free =>
      exact ⟨_, simulates.stored code, by simp [resume, code, runCode]⟩
  | raised code calm places isOpen =>
      exact ⟨_, simulates.raised code places, by simp [resume, code, runCode]⟩
  | selectedNone code absent =>
      exact ⟨_, simulates.selectedNone code absent, by simp [resume, code, runCode]⟩
  | selectedSome code seen isOpen =>
      exact ⟨_, simulates.selectedSome code seen isOpen, by simp [resume, code, runCode]⟩
  | fetchedOpen => exact proceeds.elim
  | fetchedDone => exact proceeds.elim
  | @lockedStale clock todo code =>
      obtain ⟨whole, -, sameIds⟩ := simulates.detects clock (code ▸ List.mem_cons_self)
      refine ⟨db, simulates.lockedStale code, ?_⟩
      simp only [resume, Function.update_self, code, sameIds]
      rw [runCode_append, runCode_detectorContinuation]
      rfl
  | marked code =>
      exact ⟨_, simulates.marked code, by simp [resume, code, runCode]⟩
  | flushed due free seen =>
      exact ⟨db, simulates.flushed due seen, by simp [resume]⟩
  | flushedNone due free gone =>
      obtain ⟨alert, seen, -⟩ := simulates.alerts.due _ _ due
      cases gone.symm.trans seen
  | committed code clean =>
      exact ⟨db, simulates.committed code clean, by simp [commit, code, runCode, Statement.run]⟩
  | failed => exact proceeds.elim

/-- Nothing is uncommitted, and what is committed are the tables of `db`. -/
structure RestsOver (server : Server) (db : Database) : Prop where
  rows : ∀ batteryId, server.currentState batteryId = Cell.settled (db.currentState batteryId)
  alerts : ∀ alertId, server.alerts.cells alertId = Cell.settled (db.alerts.table.lookup alertId)
  size : server.alerts.size = db.alerts.nextAlertId

theorem RestsOver.of_same_tables {other : Database} (rests : server.RestsOver db)
    (sameRows : db.batteryCurrentState = other.batteryCurrentState)
    (sameAlerts : db.alerts = other.alerts) : server.RestsOver other where
  rows batteryId := by
    rw [rests.rows, Database.currentState, sameRows, Database.currentState]
  alerts alertId := by rw [rests.alerts, sameAlerts]
  size := by rw [rests.size, sameAlerts]

/-- Once the session is over, what it has seen is what is committed. -/
theorem Simulates.restsOver (simulates : server.Simulates settings session db)
    (quiet : server.Quiet) (finished : server.Finished session) : server.RestsOver db := by
  have ended : ∀ other, server.Finished other := by
    intro other
    by_cases own : other = session
    · exact own ▸ finished
    · exact simulates.alone other own
  have sees := simulates.alerts
  rw [quiet.clean session finished] at sees
  constructor
  case rows =>
    intro batteryId
    rw [← simulates.rows batteryId]
    apply Cell.eq_settled_view
    cases held : (server.currentState batteryId).pending with
    | none => rfl
    | some holding => exact absurd held (quiet.states _ (ended _) batteryId holding.2)
  case alerts =>
    intro alertId
    rw [← sees.clean alertId (by simp)]
    apply Cell.eq_settled_view
    cases held : (server.alerts.cells alertId).pending with
    | none => rfl
    | some holding => exact absurd held (quiet.alerts _ (ended _) alertId holding.2)
  case size => exact sees.size

/-- Only this session has code to run. -/
def solo (session : SessionId) (code : List Statement) : SessionId → List Statement :=
  Function.update (fun _ => []) session code

/-- With no lock held and every reported battery registered, the selection is
the one of the straight-line model. -/
theorem staleUnlocked_ofDatabase (programs : SessionId → List Statement) (now : Timestamp)
    (registered : ∀ row ∈ db.batteryCurrentState.rows,
      db.batteries.lookup row.batteryId ≠ none) :
    (ofDatabase db programs).staleUnlocked settings now session =
      staleIds settings now db.batteryCurrentState := by
  have batteryIds : (ofDatabase db programs).batteryIds.Nodup :=
    (List.perm_insertionSort _ _).nodup_iff.mpr db.batteries.primaryKey
  have sorted : ((ofDatabase db programs).staleUnlocked settings now session).Pairwise
      (· ≤ ·) := (List.pairwise_insertionSort _ _).sublist List.filter_sublist
  have sameIds : ((ofDatabase db programs).staleUnlocked settings now session).Perm
      (staleIds settings now db.batteryCurrentState) := by
    have once : ((ofDatabase db programs).staleUnlocked settings now session).Nodup :=
      List.filter_sublist.nodup batteryIds
    rw [List.perm_ext_iff_of_nodup once (staleIds_nodup settings now db.batteryCurrentState)]
    intro batteryId
    have seen : ((ofDatabase db programs).currentState batteryId).view session =
        db.batteryCurrentState.lookup batteryId := rfl
    have free : ((ofDatabase db programs).currentState batteryId).lockedAgainst session =
        false := rfl
    rw [mem_staleIds_iff, staleUnlocked, List.mem_filter]
    simp only [seen, free, Bool.not_false, Bool.true_and, Option.any_eq_true]
    constructor
    · rintro ⟨-, row, found, stale⟩
      exact ⟨row, found, of_decide_eq_true stale⟩
    · rintro ⟨row, found, stale⟩
      refine ⟨?_, row, found, decide_eq_true stale⟩
      obtain ⟨stored, rfl⟩ := db.batteryCurrentState.lookup_some_iff.mp found
      obtain ⟨battery, known⟩ := Option.ne_none_iff_exists'.mp (registered row stored)
      obtain ⟨listed, same⟩ := db.batteries.lookup_some_iff.mp known
      exact (List.mem_insertionSort _).mpr (List.mem_map.mpr ⟨battery, listed, same⟩)
  exact sameIds.eq_of_pairwise' sorted (List.pairwise_insertionSort _ _)

theorem simulates_ofDatabase {code : List Statement} (calls : (alertKeys code).Nodup)
    (detects : ∀ clock, .selectStale clock ∈ code → code = [.selectStale clock] ∧
      ∀ row ∈ db.batteryCurrentState.rows, db.batteries.lookup row.batteryId ≠ none) :
    (ofDatabase db (solo session code)).Simulates settings session db := by
  have own : (ofDatabase db (solo session code)).sessions session =
      { todo := code, dirty := [] } := by
    simp [ofDatabase, solo]
  constructor
  case free => exact fun _ => rfl
  case rows => exact fun _ => rfl
  case alerts =>
    rw [own]
    exact
      { free := fun _ => rfl
        clean := fun _ _ => rfl
        due := fun _ _ member => by cases member
        once := List.nodup_nil
        size := rfl }
  case keysOnce => rwa [own]
  case detects =>
    intro clock member
    rw [own] at member ⊢
    obtain ⟨whole, registered⟩ := detects clock member
    exact ⟨whole, rfl, staleUnlocked_ofDatabase _ _ registered⟩
  case alone =>
    intro other different
    simp [Finished, ofDatabase, solo, different]

/-- A session that calls the alert helpers once for each key, alone: once it is
over, the tables are what straight-line execution of its code makes them. -/
theorem solo_run {code : List Statement} (calls : (alertKeys code).Nodup)
    (automatic : ∀ alertId now, .getAlert alertId now ∉ code)
    (ends : ∀ early last, code = early ++ [last] → last.Ends)
    (detects : ∀ clock, .selectStale clock ∈ code → code = [.selectStale clock] ∧
      ∀ row ∈ db.batteryCurrentState.rows, db.batteries.lookup row.batteryId ≠ none)
    {labels : List Label} {last : Server}
    (run : Trace (Step settings) (ofDatabase db (solo session code)) labels last)
    (completed : ∀ label ∈ labels, label.2 ≠ .failed) (finished : last.Finished session) :
    last.RestsOver (runCode settings code db) := by
  have quiet : (ofDatabase db (solo session code)).Quiet := by
    apply quiet_ofDatabase
    · intro other alertId now
      by_cases own : other = session
      · simpa [solo, own] using automatic alertId now
      · simp [solo, own]
    · intro other early final split
      by_cases own : other = session
      · exact ends early final (by simpa [solo, own] using split)
      · simp [solo, own] at split
  obtain ⟨lastQuiet, reached, simulates, same⟩ := completed_run_induction
    (fun _ server => ∃ reached, server.Simulates settings session reached ∧
      runCode settings (server.sessions session).todo reached = runCode settings code db)
    run completed (sound_ofDatabase db _) (follows_ofDatabase db _) quiet
    ⟨db, simulates_ofDatabase calls detects, by simp [ofDatabase, solo]⟩
    (by
      rintro labels server actor event after - - quiet proceeds ⟨reached, simulates, same⟩ effect
      obtain ⟨next, nextSimulates, nextSame⟩ := simulates.step quiet proceeds effect
      exact ⟨next, nextSimulates, nextSame.trans same⟩)
  rw [finished] at same
  obtain rfl : reached = runCode settings code db := same
  exact simulates.restsOver lastQuiet finished

end Server

section Requests

variable {settings : Settings} {db : Database} {session : SessionId} {labels : List Label}
  {last : Server}

/-- The rule pass of a request calls the helpers once for each key. -/
theorem rulePass_keys_nodup {request : Request} (registered : db.Registers request) :
    ((rulePassCalls settings (db.store request).telemetry.rows db.batteries
      (sortedLatest (db.newlyInserted request))).map AlertCall.key).Nodup := by
  rw [List.nodup_iff_count_le_one]
  rintro ⟨batteryId, alertType⟩
  have single := Database.rulePass_filter settings registered batteryId alertType
  rw [List.count_eq_countP, List.countP_map, List.countP_eq_length_filter]
  have sameTest : ((fun key => key == (batteryId, alertType)) ∘ AlertCall.key) =
      fun call => decide (call.key = (batteryId, alertType)) := by
    funext call
    rw [Function.comp_apply, Bool.eq_iff_iff, beq_iff_eq, decide_eq_true_iff]
  rw [sameTest, single]
  cases db.decidingCall settings request batteryId alertType <;> simp

/-- The statements of a request after its telemetry insert. -/
def requestCode (settings : Settings) (db : Database) (request : Request) : List Statement :=
  if db.newlyInserted request = [] then [.commit]
  else
    match request with
    | .single event =>
        singleIngestion settings (db.store request).telemetry.rows db.batteries event
    | .batch _ =>
        batchIngestion settings (db.store request).telemetry.rows db.batteries
          (db.newlyInserted request)

variable (settings) in
/-- The upserts, for a batch a commit, the rule pass, a commit. -/
theorem requestCode_eq {request : Request} (accepted : db.newlyInserted request ≠ []) :
    ∃ between, (between = [] ∨ between = [.commit]) ∧
      requestCode settings db request =
        ((sortedLatest (db.newlyInserted request)).map TelemetryEvent.toCurrentState).map
            .upsertCurrentState ++ between ++
          (rulePassCalls settings (db.store request).telemetry.rows db.batteries
            (sortedLatest (db.newlyInserted request))).map .alert ++ [.commit] := by
  unfold requestCode
  rw [if_neg accepted]
  cases request with
  | single event =>
      rw [Database.newlyInserted_single] at accepted ⊢
      have fresh : db.Fresh event := by
        by_contra stored
        exact accepted (if_neg stored)
      rw [if_pos fresh]
      exact ⟨[], Or.inl rfl, by rw [List.append_nil]; rfl⟩
  | batch batch =>
      refine ⟨[.commit], Or.inr rfl, ?_⟩
      rw [List.map_map]
      rfl

theorem mem_requestCode {request : Request} {statement : Statement}
    (member : statement ∈ requestCode settings db request) :
    (∃ row, statement = .upsertCurrentState row) ∨ (∃ call, statement = .alert call) ∨
      statement = .commit := by
  by_cases nothing : db.newlyInserted request = []
  · unfold requestCode at member
    rw [if_pos nothing, List.mem_singleton] at member
    exact Or.inr (Or.inr member)
  · obtain ⟨between, commits, code⟩ := requestCode_eq settings nothing
    have onlyCommits : ∀ other ∈ between, other = .commit := by
      rcases commits with rfl | rfl <;> simp
    simp only [code, List.mem_append, List.mem_map, List.mem_singleton] at member
    rcases member with ((⟨row, -, rfl⟩ | inBetween) | ⟨call, -, rfl⟩) | rfl
    · exact Or.inl ⟨row, rfl⟩
    · exact Or.inr (Or.inr (onlyCommits statement inBetween))
    · exact Or.inr (Or.inl ⟨call, rfl⟩)
    · exact Or.inr (Or.inr rfl)

theorem requestCode_ends {request : Request} {early : List Statement} {final : Statement}
    (split : requestCode settings db request = early ++ [final]) : final.Ends := by
  have commits : ∃ front, requestCode settings db request = front ++ [.commit] := by
    by_cases nothing : db.newlyInserted request = []
    · unfold requestCode
      rw [if_pos nothing]
      exact ⟨[], rfl⟩
    · obtain ⟨between, -, code⟩ := requestCode_eq settings nothing
      exact ⟨_, code⟩
  obtain ⟨front, code⟩ := commits
  obtain rfl := List.singleton_inj.mp (List.append_inj' (code.symm.trans split) rfl).2
  trivial

theorem alertKeys_requestCode {request : Request} (registered : db.Registers request) :
    (alertKeys (requestCode settings db request)).Nodup := by
  by_cases nothing : db.newlyInserted request = []
  · unfold requestCode
    rw [if_pos nothing]
    exact List.nodup_nil
  · obtain ⟨between, commits, code⟩ := requestCode_eq settings nothing
    have silent : alertKeys between = [] := by
      rcases commits with rfl | rfl <;> rfl
    have last : alertKeys [.commit] = [] := rfl
    rw [code, alertKeys_append, alertKeys_append, alertKeys_append, alertKeys_upserts, silent,
      alertKeys_alerts, last, List.append_nil, List.append_nil, List.nil_append]
    exact rulePass_keys_nodup registered

variable (settings) in
theorem runCode_requestCode {request : Request} (registered : db.Registers request) :
    (runCode settings (requestCode settings db request) db).batteryCurrentState =
        (db.ingest settings request).batteryCurrentState ∧
      (runCode settings (requestCode settings db request) db).alerts =
        (db.ingest settings request).alerts := by
  rw [Database.ingest_of_registers registered]
  by_cases nothing : db.newlyInserted request = []
  · rw [nothing, Database.applyAccepted_nil]
    unfold requestCode
    rw [if_pos nothing]
    exact ⟨rfl, rfl⟩
  · obtain ⟨between, commits, code⟩ := requestCode_eq settings nothing
    have silent : ∀ middle : Database, runCode settings between middle = middle := by
      rcases commits with rfl | rfl <;> exact fun _ => rfl
    rw [code, runCode_append, runCode_append, runCode_append, runCode_upserts, silent,
      runCode_alerts]
    exact ⟨rfl, rfl⟩

/-- An ingestion request that runs alone leaves the tables of `Database.ingest`. -/
theorem solo_ingest {request : Request} (registered : db.Registers request)
    (run : Trace (Server.Step settings)
      (Server.ofDatabase db (Server.solo session (requestCode settings db request))) labels last)
    (completed : ∀ label ∈ labels, label.2 ≠ .failed) (finished : last.Finished session) :
    last.RestsOver (db.ingest settings request) := by
  have rests : last.RestsOver (runCode settings (requestCode settings db request) db) := by
    apply Server.solo_run (alertKeys_requestCode registered) ?_ (fun _ _ => requestCode_ends) ?_
      run completed finished
    · intro alertId now member
      rcases mem_requestCode member with ⟨_, other⟩ | ⟨_, other⟩ | other <;> cases other
    · intro clock member
      rcases mem_requestCode member with ⟨_, other⟩ | ⟨_, other⟩ | other <;> cases other
  obtain ⟨sameRows, sameAlerts⟩ := runCode_requestCode settings registered
  exact rests.of_same_tables sameRows sameAlerts

/-- A detector iteration that runs alone leaves the tables of
`offlineDetectionIteration`. -/
theorem solo_detect {clock : DetectorClock}
    (registered : ∀ row ∈ db.batteryCurrentState.rows,
      db.batteries.lookup row.batteryId ≠ none)
    (run : Trace (Server.Step settings)
      (Server.ofDatabase db (Server.solo session (detectorIteration clock))) labels last)
    (completed : ∀ label ∈ labels, label.2 ≠ .failed) (finished : last.Finished session) :
    last.RestsOver (offlineDetectionIteration settings clock db) := by
  have noKeys : (alertKeys (detectorIteration clock)).Nodup := List.nodup_nil
  apply Server.solo_run noKeys ?_ ?_ ?_ run completed finished
  · simp [detectorIteration]
  · intro early final split
    have whole : [] ++ [Statement.selectStale clock] = early ++ [final] := split
    obtain rfl := List.singleton_inj.mp (List.append_inj' whole rfl).2
    trivial
  · intro other member
    obtain rfl := Statement.selectStale.inj (List.mem_singleton.mp member)
    exact ⟨rfl, registered⟩

/-! ### Manual resolution -/

/-- A step is the flush of a resolution that is due, or a statement. -/
theorem Server.Effect.acts {server after : Server} {actor : SessionId} {event : Event}
    (effect : server.Effect settings actor event after) (running : event ≠ .failed) :
    (∃ alertId resolvedAt, event = .flushed alertId resolvedAt ∧
        (alertId, resolvedAt) ∈ (server.sessions actor).dirty) ∨
      ∃ statement todo, (server.sessions actor).todo = statement :: todo ∧
        statement.Yields event := by
  cases effect with
  | stored code => exact Or.inr ⟨_, _, code, _, rfl⟩
  | raised code => exact Or.inr ⟨_, _, code, rfl⟩
  | selectedNone code => exact Or.inr ⟨_, _, code, rfl⟩
  | selectedSome code => exact Or.inr ⟨_, _, code, rfl⟩
  | fetchedOpen code => exact Or.inr ⟨_, _, code, rfl⟩
  | fetchedDone code => exact Or.inr ⟨_, _, code, rfl⟩
  | lockedStale code => exact Or.inr ⟨_, _, code, _, rfl⟩
  | marked code => exact Or.inr ⟨_, _, code, rfl⟩
  | flushed due => exact Or.inl ⟨_, _, rfl, due⟩
  | flushedNone due => exact Or.inl ⟨_, _, rfl, due⟩
  | committed code => exact Or.inr ⟨_, _, code, rfl⟩
  | failed => exact absurd rfl running

/-- A session that acts has something to do. -/
theorem Server.Effect.not_idle {server after : Server} {actor : SessionId} {event : Event}
    (effect : server.Effect settings actor event after) (running : event ≠ .failed) :
    server.sessions actor ≠ { todo := [], dirty := [] } := by
  intro idle
  rcases effect.acts running with ⟨_, _, -, due⟩ | ⟨statement, todo, code, -⟩
  · rw [idle] at due
    cases due
  · rw [idle] at code
    cases code

/-- How far a manual resolution that runs alone has come. -/
inductive Resolving (settings : Settings) (db : Database) (session : SessionId) (alertId : Uuid)
    (now : Timestamp) (server : Server) : Prop where
  | asked (same : server = Server.ofDatabase db
      (Server.solo session (manualResolution alertId now)))
  | loaded {alert : Alert} (stored : db.alerts.table.lookup alertId = some alert)
      (unresolved : alert.resolved = false)
      (same : server = (Server.ofDatabase db fun _ => []).resume session [.commit]
        [(alertId, now)])
  | written {alert : Alert} (stored : db.alerts.table.lookup alertId = some alert)
      (unresolved : alert.resolved = false)
      (same : server =
        { Server.ofDatabase db fun _ => [] with
          alerts := (Server.ofDatabase db fun _ => []).alerts.write session alertId
            (alert.resolve now) }.resume session [.commit] [])
  | ended (idle : ∀ other, server.sessions other = { todo := [], dirty := [] })
      (rests : server.RestsOver (db.step settings (.resolve now alertId)))

section Resolution

variable {alertId : Uuid} {now : Timestamp} {server after : Server} {actor : SessionId}
  {event : Event}

theorem alerts_step_of_unresolved {alert : Alert}
    (stored : db.alerts.table.lookup alertId = some alert) (unresolved : alert.resolved = false) :
    (db.step settings (.resolve now alertId)).alerts =
      db.alerts.update alertId (Alert.resolve now) (Alert.resolve_keeps now) := by
  simp [Database.step, resolveAlert, stored, unresolved]

theorem step_of_nothing_open
    (nothingOpen : ∀ alert, db.alerts.table.lookup alertId = some alert →
      alert.resolved = true) :
    db.step settings (.resolve now alertId) = db := by
  cases stored : db.alerts.table.lookup alertId with
  | none => simp [Database.step, resolveAlert, stored]
  | some alert => simp [Database.step, resolveAlert, stored, nothingOpen alert stored]

/-- A resolution that found nothing to resolve leaves the tables as they were. -/
theorem rests_after_rollback (programs : SessionId → List Statement)
    (nothingOpen : ∀ alert, db.alerts.table.lookup alertId = some alert →
      alert.resolved = true) :
    ((Server.ofDatabase db programs).rollback session).RestsOver
      (db.step settings (.resolve now alertId)) := by
  rw [step_of_nothing_open nothingOpen]
  exact { rows := fun _ => rfl, alerts := fun _ => rfl, size := rfl }

/-- The commit of the written resolution. -/
theorem rests_after_commit {alert : Alert} (dirty : List (Uuid × Timestamp))
    (stored : db.alerts.table.lookup alertId = some alert) (unresolved : alert.resolved = false) :
    (({ Server.ofDatabase db fun _ => [] with
        alerts := (Server.ofDatabase db fun _ => []).alerts.write session alertId
          (alert.resolve now) }.resume session [.commit] dirty).commit session []).RestsOver
      (db.step settings (.resolve now alertId)) := by
  constructor
  case rows =>
    intro batteryId
    rw [currentState_step_resolve]
    rfl
  case alerts =>
    intro other
    rw [alerts_step_of_unresolved stored unresolved, Alerts.lookup_update]
    by_cases same : alertId = other
    · subst same
      simp [Server.commit, Server.resume, Heap.commit, Heap.write, Cell.commit, Cell.write, stored]
    · rw [if_neg same]
      simp [Server.commit, Server.resume, Heap.commit, Heap.write, Ne.symm same,
        Server.ofDatabase, Cell.commit, Cell.settled]
  case size =>
    rw [alerts_step_of_unresolved stored unresolved]
    rfl

theorem resume_solo (code todo : List Statement) (dirty : List (Uuid × Timestamp)) :
    (Server.ofDatabase db (Server.solo session code)).resume session todo dirty =
      (Server.ofDatabase db fun _ => []).resume session todo dirty := by
  have sessions : Function.update (Server.ofDatabase db (Server.solo session code)).sessions
      session { todo := todo, dirty := dirty } =
        Function.update (Server.ofDatabase db fun _ => []).sessions session
          { todo := todo, dirty := dirty } := by
    funext other
    by_cases own : other = session
    · simp [own]
    · simp [own, Server.ofDatabase, Server.solo]
  simp only [Server.resume, sessions]
  rfl

/-- In all its stages the other sessions have nothing to do. -/
theorem Resolving.idle (resolving : Resolving settings db session alertId now server)
    {other : SessionId} (different : other ≠ session) :
    server.sessions other = { todo := [], dirty := [] } := by
  cases resolving with
  | asked same => simp [same, Server.ofDatabase, Server.solo, different]
  | loaded _ _ same => simp [same, Server.ofDatabase, Server.resume, different]
  | written _ _ same => simp [same, Server.ofDatabase, Server.resume, different]
  | ended idle => exact idle other

/-- One step of a manual resolution that runs alone. -/
theorem Resolving.step (resolving : Resolving settings db session alertId now server)
    (effect : server.Effect settings actor event after) (running : event ≠ .failed) :
    Resolving settings db session alertId now after := by
  obtain rfl : actor = session := by
    by_contra different
    exact effect.not_idle running (resolving.idle different)
  cases resolving with
  | asked same =>
      subst same
      rcases effect.acts running with ⟨_, _, -, due⟩ | ⟨statement, todo, code, yields⟩
      · cases due
      simp only [Server.ofDatabase, Server.solo, Function.update_self, manualResolution,
        List.cons.injEq] at code
      obtain ⟨rfl, rfl⟩ := code
      obtain rfl : event = .fetched alertId now := yields
      cases effect with
      | fetchedOpen ownCode seen unresolved =>
          simp only [Server.ofDatabase, Server.solo, Function.update_self, manualResolution,
            List.cons.injEq, true_and] at ownCode
          subst ownCode
          exact .loaded seen unresolved (resume_solo _ _ _)
      | fetchedDone ownCode nothingOpen =>
          refine .ended (fun other => ?_) (rests_after_rollback _ nothingOpen)
          by_cases own : other = actor
          · simp [Server.rollback, own]
          · simp [Server.rollback, own, Server.ofDatabase, Server.solo]
  | loaded stored unresolved same =>
      subst same
      rcases effect.acts running with
        ⟨flushed, resolvedAt, rfl, due⟩ | ⟨statement, todo, code, yields⟩
      · simp only [Server.resume, Function.update_self, List.mem_singleton,
          Prod.mk.injEq] at due
        obtain ⟨rfl, rfl⟩ := due
        cases effect with
        | flushed due free seen =>
            obtain rfl := Option.some.inj (seen.symm.trans stored)
            refine .written stored unresolved ?_
            simp [Server.resume]
        | flushedNone due free gone => cases gone.symm.trans stored
      · simp only [Server.resume, Function.update_self, List.cons.injEq] at code
        obtain ⟨rfl, rfl⟩ := code
        obtain rfl : event = .committed := yields
        cases effect with
        | committed ownCode clean => simp [Server.resume] at clean
  | written stored unresolved same =>
      subst same
      rcases effect.acts running with ⟨_, _, -, due⟩ | ⟨statement, todo, code, yields⟩
      · simp [Server.resume] at due
      simp only [Server.resume, Function.update_self, List.cons.injEq] at code
      obtain ⟨rfl, rfl⟩ := code
      obtain rfl : event = .committed := yields
      cases effect with
      | committed ownCode clean =>
          simp only [Server.resume, Function.update_self, List.cons.injEq, true_and] at ownCode
          subst ownCode
          refine .ended (fun other => ?_) (rests_after_commit [] stored unresolved)
          by_cases own : other = actor
          · simp [Server.commit, own]
          · simp [Server.commit, Server.resume, Server.ofDatabase]
  | ended idle rests => exact absurd (idle actor) (effect.not_idle running)

/-- `resolve_alert`, alone, leaves the tables of the straight-line model. -/
theorem solo_resolve
    (run : Trace (Server.Step settings)
      (Server.ofDatabase db (Server.solo session (manualResolution alertId now))) labels last)
    (completed : ∀ label ∈ labels, label.2 ≠ .failed) (finished : last.Finished session) :
    last.RestsOver (db.step settings (.resolve now alertId)) := by
  obtain ⟨-, reached⟩ := Server.run_induction
    (fun labels server => (∀ label ∈ labels, label.2 ≠ .failed) →
      Resolving settings db session alertId now server)
    run (Server.sound_ofDatabase db _) (fun _ => .asked rfl)
    (by
      intro labels server actor event after _ ih effect running
      exact (ih fun label member => running label (List.mem_append_left _ member)).step effect
        (running (actor, event) (List.mem_append_right _ List.mem_cons_self)))
  cases reached completed with
  | asked same => simp [same, Server.Finished, Server.ofDatabase, Server.solo,
      manualResolution] at finished
  | loaded _ _ same => simp [same, Server.Finished, Server.resume] at finished
  | written _ _ same => simp [same, Server.Finished, Server.resume] at finished
  | ended _ rests => exact rests

end Resolution

end Requests

end VoltStream.Backend
