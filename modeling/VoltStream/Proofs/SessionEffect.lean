/-
Module: VoltStream.Proofs.SessionEffect
Purpose: What one step of a session can do to the server, and induction over the
  interleavings of any number of sessions.
Trusted boundary: none
Main exports: Server.Effect, Server.effect_of_step, Server.run_induction,
  Server.sound_ofDatabase
-/
import VoltStream.Backend.Sessions

namespace VoltStream.Backend

open Relational

/-- Where the upsert of an alert request that goes through writes. -/
abbrev Server.RaisesAt (server : Server) (session : SessionId) (request : AlertRequest) :
    Uuid → Alert → Prop :=
  server.alerts.Places Alert.indexEntry session (request.batteryId, request.alertType)
    request.toAlert request.retain

/-- Everything a step can do, with what it needs. -/
inductive Server.Effect (settings : Settings) (server : Server) (session : SessionId) :
    Event → Server → Prop where
  | stored {row : BatteryCurrentState} {todo : List Statement}
      (code : (server.sessions session).todo = .upsertCurrentState row :: todo)
      (free : (server.currentState row.batteryId).lockedAgainst session = false) :
      Effect settings server session
        (.stored row (admitted ((server.currentState row.batteryId).view session) row))
        ((server.storeRow session row).resume session todo (server.sessions session).dirty)
  | raised {request : AlertRequest} {todo : List Statement} {alertId : Uuid} {alert : Alert}
      (code : (server.sessions session).todo = .alert (.createOrRetainAlert request) :: todo)
      (calm : server.alerts.contended Alert.indexEntry session
        (request.batteryId, request.alertType) = false)
      (places : server.RaisesAt session request alertId alert)
      (isOpen : alert.OpenFor request.batteryId request.alertType) :
      Effect settings server session (.raised request)
        ({ server with
            alerts :=
              { server.alerts.write session alertId alert with
                size := server.alerts.size + 1 } }.resume session todo
          (server.sessions session).dirty)
  | selectedNone {batteryId : BatteryId} {alertType : AlertType} {resolvedAt : Timestamp}
      {todo : List Statement}
      (code : (server.sessions session).todo =
        .alert (.resolveAlertIfActive batteryId alertType resolvedAt) :: todo)
      (absent : ∀ alertId, ((server.alerts.cells alertId).view session).bind Alert.indexEntry ≠
        some (batteryId, alertType)) :
      Effect settings server session (.selected batteryId alertType resolvedAt)
        (server.resume session todo (server.sessions session).dirty)
  | selectedSome {batteryId : BatteryId} {alertType : AlertType} {resolvedAt : Timestamp}
      {todo : List Statement} {alertId : Uuid} {alert : Alert}
      (code : (server.sessions session).todo =
        .alert (.resolveAlertIfActive batteryId alertType resolvedAt) :: todo)
      (seen : (server.alerts.cells alertId).view session = some alert)
      (isOpen : alert.OpenFor batteryId alertType) :
      Effect settings server session (.selected batteryId alertType resolvedAt)
        (server.resume session todo ((server.sessions session).dirty ++ [(alertId, resolvedAt)]))
  | fetchedOpen {alertId : Uuid} {now : Timestamp} {todo : List Statement} {alert : Alert}
      (code : (server.sessions session).todo = .getAlert alertId now :: todo)
      (seen : (server.alerts.cells alertId).view session = some alert)
      (unresolved : alert.resolved = false) :
      Effect settings server session (.fetched alertId now)
        (server.resume session todo ((server.sessions session).dirty ++ [(alertId, now)]))
  | fetchedDone {alertId : Uuid} {now : Timestamp} {todo : List Statement}
      (code : (server.sessions session).todo = .getAlert alertId now :: todo)
      (nothingOpen : ∀ alert, (server.alerts.cells alertId).view session = some alert →
        alert.resolved = true) :
      Effect settings server session (.fetched alertId now) (server.rollback session)
  | lockedStale {clock : DetectorClock} {todo : List Statement}
      (code : (server.sessions session).todo = .selectStale clock :: todo) :
      Effect settings server session
        (.lockedStale (server.staleUnlocked settings clock.cutoffNow session))
        ((server.writeRows session id (server.staleUnlocked settings clock.cutoffNow
            session)).resume session
          (Server.detectorContinuation settings clock
            (server.staleUnlocked settings clock.cutoffNow session) ++ todo)
          (server.sessions session).dirty)
  | marked {ids : List BatteryId} {todo : List Statement}
      (code : (server.sessions session).todo = .markOffline ids :: todo) :
      Effect settings server session (.marked ids)
        ((server.writeRows session BatteryCurrentState.markOffline ids).resume session todo
          (server.sessions session).dirty)
  | flushed {alertId : Uuid} {resolvedAt : Timestamp} {alert : Alert}
      (due : (alertId, resolvedAt) ∈ (server.sessions session).dirty)
      (free : (server.alerts.cells alertId).lockedAgainst session = false)
      (seen : (server.alerts.cells alertId).view session = some alert) :
      Effect settings server session (.flushed alertId resolvedAt)
        ({ server with
            alerts := server.alerts.write session alertId (alert.resolve resolvedAt) }.resume
          session (server.sessions session).todo
          ((server.sessions session).dirty.erase (alertId, resolvedAt)))
  | flushedNone {alertId : Uuid} {resolvedAt : Timestamp}
      (due : (alertId, resolvedAt) ∈ (server.sessions session).dirty)
      (free : (server.alerts.cells alertId).lockedAgainst session = false)
      (gone : (server.alerts.cells alertId).view session = none) :
      Effect settings server session (.flushed alertId resolvedAt)
        (server.resume session (server.sessions session).todo
          ((server.sessions session).dirty.erase (alertId, resolvedAt)))
  | committed {todo : List Statement} (code : (server.sessions session).todo = .commit :: todo)
      (clean : (server.sessions session).dirty = []) :
      Effect settings server session .committed (server.commit session todo)
  | failed : Effect settings server session .failed (server.rollback session)

theorem Alert.indexEntry_eq_some_iff {alert : Alert} {batteryId : BatteryId}
    {alertType : AlertType} :
    alert.indexEntry = some (batteryId, alertType) ↔ alert.OpenFor batteryId alertType := by
  unfold indexEntry OpenFor
  cases alert.resolved <;> simp

theorem Alert.indexEntry_resolve (resolvedAt : Timestamp) (alert : Alert) :
    (alert.resolve resolvedAt).indexEntry = none := rfl

theorem AlertRequest.indexEntry_toAlert (request : AlertRequest) (alertId : Uuid) :
    (request.toAlert alertId).indexEntry = some (request.batteryId, request.alertType) := rfl

theorem AlertRequest.indexEntry_retain (request : AlertRequest) (existing : Alert) :
    (request.retain existing).indexEntry = existing.indexEntry := rfl

namespace Server

variable {settings : Settings}

theorem effect_of_execute {server after : Server} {session : SessionId} {statement : Statement}
    {todo : List Statement} {event : Event} (sound : server.alerts.Sound Alert.indexEntry)
    (code : (server.sessions session).todo = statement :: todo)
    (executed : server.execute settings session todo statement = some (event, after)) :
    server.Effect settings session event after := by
  cases statement with
  | upsertCurrentState row =>
      simp only [execute] at executed
      split at executed
      · cases executed
      · rename_i free
        cases executed
        exact .stored code (by simpa using free)
  | alert call =>
      cases call with
      | createOrRetainAlert request =>
          simp only [execute] at executed
          rcases Heap.upsert_cases session sound
            (fun old keyed => (request.indexEntry_retain old).trans keyed)
            request.indexEntry_toAlert with waits | ⟨alertId, alert, calm, places, keyed, done⟩
          · rw [waits] at executed
            cases executed
          · rw [done] at executed
            cases executed
            exact .raised code calm places (Alert.indexEntry_eq_some_iff.mp keyed)
      | resolveAlertIfActive batteryId alertType resolvedAt =>
          simp only [execute] at executed
          split at executed
          · rename_i absent
            cases executed
            exact .selectedNone code (Heap.find_none sound absent)
          · rename_i found
            cases executed
            obtain ⟨seen, keyed⟩ := Heap.find_some found
            exact .selectedSome code seen (Alert.indexEntry_eq_some_iff.mp keyed)
  | getAlert alertId now =>
      simp only [execute] at executed
      split at executed
      · rename_i gone
        cases executed
        exact .fetchedDone code fun alert seen => by cases gone.symm.trans seen
      · rename_i alert seen
        split at executed
        · rename_i resolved
          cases executed
          refine .fetchedDone code fun other otherSeen => ?_
          obtain rfl := Option.some.inj (seen.symm.trans otherSeen)
          exact resolved
        · rename_i unresolved
          cases executed
          exact .fetchedOpen code seen (by simpa using unresolved)
  | selectStale clock =>
      cases executed
      exact .lockedStale code
  | markOffline ids =>
      cases executed
      exact .marked code
  | commit =>
      simp only [execute] at executed
      split at executed
      · rename_i clean
        cases executed
        exact .committed code clean
      · cases executed

/-- The inversion of a step. -/
theorem effect_of_step {server after : Server} {label : Label}
    (sound : server.alerts.Sound Alert.indexEntry) (step : server.Step settings label after) :
    server.Effect settings label.1 label.2 after := by
  obtain ⟨action, performed⟩ := step
  cases action with
  | proceed =>
      simp only [perform] at performed
      split at performed
      · cases performed
      · rename_i code
        exact effect_of_execute sound code performed
  | flush alertId resolvedAt =>
      simp only [perform] at performed
      split at performed
      · rename_i due
        rcases Heap.update_cases label.1 server.alerts alertId
          (Alert.indexEntry_resolve resolvedAt) with waits | ⟨free, gone, done⟩ |
            ⟨alert, free, seen, done⟩
        · rw [waits] at performed
          cases performed
        · rw [done] at performed
          simp only [Option.some.injEq, Prod.mk.injEq] at performed
          obtain ⟨same, rfl⟩ := performed
          rw [← same]
          exact .flushedNone due free gone
        · rw [done] at performed
          simp only [Option.some.injEq, Prod.mk.injEq] at performed
          obtain ⟨same, rfl⟩ := performed
          rw [← same]
          exact .flushed due free seen
      · cases performed
  | fail =>
      simp only [perform, Option.some.injEq, Prod.mk.injEq] at performed
      obtain ⟨same, rfl⟩ := performed
      rw [← same]
      exact .failed

/-- Every step keeps the unique index sound. -/
theorem Effect.sound {server after : Server} {session : SessionId} {event : Event}
    (effect : server.Effect settings session event after)
    (sound : server.alerts.Sound Alert.indexEntry) : after.alerts.Sound Alert.indexEntry := by
  cases effect with
  | stored => exact sound
  | raised code calm places isOpen =>
      exact sound.upsert calm places (Alert.indexEntry_eq_some_iff.mpr isOpen)
  | selectedNone => exact sound
  | selectedSome => exact sound
  | fetchedOpen => exact sound
  | fetchedDone => exact sound.rollback session
  | lockedStale => exact sound
  | marked => exact sound
  | flushed due free seen => exact sound.remove free seen (Alert.indexEntry_resolve _ _)
  | flushedNone => exact sound
  | committed => exact sound.commit session
  | failed => exact sound.rollback session

/-- Induction over interleavings: what every effect keeps, with the index sound,
holds at the end of every run. -/
theorem run_induction (Good : List Label → Server → Prop) {first last : Server}
    {labels : List Label} (run : Trace (Step settings) first labels last)
    (sound : first.alerts.Sound Alert.indexEntry) (start : Good [] first)
    (kept : ∀ labels server session event after, server.alerts.Sound Alert.indexEntry →
      Good labels server → server.Effect settings session event after →
      Good (labels ++ [(session, event)]) after) :
    last.alerts.Sound Alert.indexEntry ∧ Good labels last := by
  apply Trace.invariant
    (fun labels server => server.alerts.Sound Alert.indexEntry ∧ Good labels server) run
  · exact ⟨sound, start⟩
  · rintro labels server label after ⟨middleSound, good⟩ step
    have effect := effect_of_step middleSound step
    exact ⟨effect.sound middleSound, kept _ _ _ _ _ middleSound good effect⟩

/-- A server at rest over a database starts with a sound index. -/
theorem sound_ofDatabase (db : Database) (programs : SessionId → List Statement) :
    (ofDatabase db programs).alerts.Sound Alert.indexEntry where
  drawn alertId undrawn := by
    have absent : db.alerts.table.lookup alertId = none := by
      rw [Table.lookup_none_iff]
      intro alert stored same
      exact absurd (db.alerts.idsDrawn alert stored) (not_lt.mpr (same ▸ undrawn))
    simp only [ofDatabase, absent]
  unique commits first second key firstKey secondKey := by
    obtain ⟨one, isOne, oneKey⟩ := Option.bind_eq_some_iff.mp firstKey
    obtain ⟨two, isTwo, twoKey⟩ := Option.bind_eq_some_iff.mp secondKey
    obtain ⟨oneStored, rfl⟩ := db.alerts.table.lookup_some_iff.mp isOne
    obtain ⟨twoStored, rfl⟩ := db.alerts.table.lookup_some_iff.mp isTwo
    rw [db.alerts.unresolvedUnique key.1 key.2 one oneStored two twoStored
      (Alert.indexEntry_eq_some_iff.mp oneKey) (Alert.indexEntry_eq_some_iff.mp twoKey)]

end Server

end VoltStream.Backend
