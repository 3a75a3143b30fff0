/-
Module: VoltStream.Proofs.AlertInterleaving
Purpose: What holds of the alert table in every interleaving of statements,
  flushes, commits and failures of any number of sessions, and when a committed
  resolution is final.
Trusted boundary: none
Main exports: Server.AlertsSafe, alerts_interleaving_safe, Server.TimelyStep,
  resolution_final, stale_resolver_moves_resolvedAt
-/
import VoltStream.Proofs.AlertEvolution
import VoltStream.Proofs.SessionEffect

namespace VoltStream.Backend

open Relational

/-- Resolving an alert is an evolution of it, even when it is resolved
already. -/
theorem Alert.Evolves.of_resolve (resolvedAt : Timestamp) (alert : Alert) :
    alert.Evolves (alert.resolve resolvedAt) :=
  ⟨rfl, rfl, rfl, rfl, fun _ => ⟨rfl, rfl⟩⟩

/-- An alert stored at its own id, with `resolved` set exactly if `resolved_at`
is. -/
structure Alert.WellFormed (alertId : Uuid) (alert : Alert) : Prop where
  ownId : alert.alertId = alertId
  flags : alert.resolved = true ↔ alert.resolvedAt ≠ none

/-- Whatever open transactions commit: at most one alert of a battery and type
is unresolved, and every alert is well formed. -/
structure Server.AlertsSafe (server : Server) : Prop where
  oneUnresolved : ∀ commits batteryId alertType first second one two,
    (server.alerts.cells first).outcome commits = some one →
    (server.alerts.cells second).outcome commits = some two →
    one.OpenFor batteryId alertType → two.OpenFor batteryId alertType → first = second
  wellFormed : server.alerts.Every Alert.WellFormed

namespace Server

variable {settings : Settings}

/-- Only a commit changes a committed alert, and it makes the session's version
visible. -/
theorem Effect.committed_alert {server after : Server} {session : SessionId} {event : Event}
    (effect : server.Effect settings session event after) (alertId : Uuid) :
    (after.alerts.cells alertId).committed = (server.alerts.cells alertId).committed ∨
      event = .committed ∧
        (after.alerts.cells alertId).committed = (server.alerts.cells alertId).view session := by
  cases effect with
  | stored => exact Or.inl rfl
  | raised code calm places isOpen => exact Or.inl (Heap.committed_write _ _ _)
  | selectedNone => exact Or.inl rfl
  | selectedSome => exact Or.inl rfl
  | fetchedOpen => exact Or.inl rfl
  | fetchedDone => exact Or.inl (Cell.committed_rollback _ _)
  | lockedStale => exact Or.inl rfl
  | marked => exact Or.inl rfl
  | flushed due free seen => exact Or.inl (Heap.committed_write _ _ _)
  | flushedNone => exact Or.inl rfl
  | committed => exact Or.inr ⟨rfl, Cell.committed_commit _ _⟩
  | failed => exact Or.inl (Cell.committed_rollback _ _)

theorem Effect.committed_of_commit {server after : Server} {session : SessionId}
    (effect : server.Effect settings session .committed after) (alertId : Uuid) :
    (after.alerts.cells alertId).committed = (server.alerts.cells alertId).view session := by
  cases effect with
  | committed => exact Cell.committed_commit _ _

/-- Every version stays well formed. -/
theorem Effect.wellFormed {server after : Server} {session : SessionId} {event : Event}
    (sound : server.alerts.Sound Alert.indexEntry)
    (effect : server.Effect settings session event after)
    (every : server.alerts.Every Alert.WellFormed) : after.alerts.Every Alert.WellFormed := by
  cases effect with
  | stored => exact every
  | raised code calm places isOpen =>
      apply Heap.Every.write every (places.free sound)
      cases places with
      | retained free seen keyed =>
          obtain ⟨ownId, flags⟩ := every _ _ _ seen
          exact ⟨ownId, flags⟩
      | inserted absent => exact ⟨rfl, by simp [AlertRequest.toAlert]⟩
  | selectedNone => exact every
  | selectedSome => exact every
  | fetchedOpen => exact every
  | fetchedDone => exact every.rollback session
  | lockedStale => exact every
  | marked => exact every
  | flushed due free seen =>
      apply every.write free
      exact ⟨(every _ _ _ seen).ownId, by simp [Alert.resolve]⟩
  | flushedNone => exact every
  | committed => exact every.commit session
  | failed => exact every.rollback session

/-- Every version stays an evolution of the committed one. -/
theorem Effect.follows {server after : Server} {session : SessionId} {event : Event}
    (sound : server.alerts.Sound Alert.indexEntry)
    (effect : server.Effect settings session event after)
    (follows : server.alerts.Follows Alert.Evolves) : after.alerts.Follows Alert.Evolves := by
  cases effect with
  | stored => exact follows
  | raised code calm places isOpen =>
      apply Heap.Follows.write follows (places.free sound)
      apply follows.through_view Alert.Evolves.trans
      intro seen isSeen
      cases places with
      | retained free isOld keyed =>
          obtain rfl := Option.some.inj (isOld.symm.trans isSeen)
          exact .of_unresolved (AlertRequest.retain_keeps _)
            (Alert.indexEntry_eq_some_iff.mp keyed).2.2
      | inserted absent =>
          rw [sound.drawn _ le_rfl] at isSeen
          cases isSeen
  | selectedNone => exact follows
  | selectedSome => exact follows
  | fetchedOpen => exact follows
  | fetchedDone => exact follows.rollback session
  | lockedStale => exact follows
  | marked => exact follows
  | flushed due free isOld =>
      apply follows.write free
      apply follows.through_view Alert.Evolves.trans
      intro seen isSeen
      obtain rfl := Option.some.inj (isOld.symm.trans isSeen)
      exact .of_resolve ..
  | flushedNone => exact follows
  | committed => exact follows.commit Alert.Evolves.refl session
  | failed => exact follows.rollback session

/-- No step violates the unique index. -/
theorem Effect.not_refused {server after : Server} {session : SessionId} {event : Event}
    (effect : server.Effect settings session event after) (request : AlertRequest) :
    event ≠ .refused request := by
  cases effect <;> simp

/-- A step lets every committed alert evolve. -/
theorem Effect.committed_evolves {server after : Server} {session : SessionId} {event : Event}
    (effect : server.Effect settings session event after)
    (follows : server.alerts.Follows Alert.Evolves) {alertId : Uuid} {old : Alert}
    (present : (server.alerts.cells alertId).committed = some old) :
    ∃ new, (after.alerts.cells alertId).committed = some new ∧ old.Evolves new := by
  rcases effect.committed_alert alertId with same | ⟨-, view⟩
  · exact ⟨old, same.trans present, .refl old⟩
  · obtain ⟨new, isNew⟩ := Cell.outcome_isSome_of_committed present fun other => other = session
    exact ⟨new, view.trans isNew, follows _ _ old new present isNew⟩

end Server

/-- In every interleaving of single statements, flushes, commits and failures of
any number of sessions running any code over a fresh database: at most one
alert of a battery and type is unresolved and every alert is well formed,
whichever open transactions commit; no statement has violated the unique index;
and whatever happens later, a committed alert keeps its identity and start and
is frozen once it is resolved. -/
theorem alerts_interleaving_safe (settings : Settings)
    (batteries : Table Battery Battery.batteryId) (programs : SessionId → List Statement)
    {labels : List Label} {server : Server}
    (run : Trace (Server.Step settings)
      (Server.ofDatabase (Database.registered batteries) programs) labels server) :
    server.AlertsSafe ∧
      (∀ label ∈ labels, ∀ request, label.2 ≠ .refused request) ∧
      ∀ {more : List Label} {later : Server}, Trace (Server.Step settings) server more later →
        ∀ alertId old, (server.alerts.cells alertId).committed = some old →
          ∃ new, (later.alerts.cells alertId).committed = some new ∧ old.Evolves new := by
  have start := Server.sound_ofDatabase (Database.registered batteries) programs
  obtain ⟨sound, every, follows, accepted⟩ := Server.run_induction
    (fun labels server => server.alerts.Every Alert.WellFormed ∧
      server.alerts.Follows Alert.Evolves ∧
      ∀ label ∈ labels, ∀ request, label.2 ≠ .refused request)
    run start
    ⟨by rintro alertId commits alert ⟨⟩, by rintro alertId commits old new ⟨⟩, by simp⟩
    (by
      rintro labels server session event after sound ⟨every, follows, accepted⟩ effect
      refine ⟨effect.wellFormed sound every, effect.follows sound follows, ?_⟩
      intro label member request
      rcases List.mem_append.mp member with old | new
      · exact accepted label old request
      · rw [List.mem_singleton.mp new]
        exact effect.not_refused request)
  refine ⟨⟨?_, every⟩, accepted, ?_⟩
  · intro commits batteryId alertType first second one two isOne isTwo oneOpen twoOpen
    apply sound.unique commits first second (batteryId, alertType)
    · rw [isOne, Option.bind_some, Alert.indexEntry_eq_some_iff.mpr oneOpen]
    · rw [isTwo, Option.bind_some, Alert.indexEntry_eq_some_iff.mpr twoOpen]
  · intro more later continued alertId old present
    obtain ⟨-, -, evolved⟩ := Server.run_induction
      (fun _ reached => reached.alerts.Follows Alert.Evolves ∧
        ∃ new, (reached.alerts.cells alertId).committed = some new ∧ old.Evolves new)
      continued sound
      ⟨follows, old, present, .refl old⟩
      (by
        rintro _ reached session event after reachedSound ⟨reachedFollows, new, isNew, sofar⟩ effect
        obtain ⟨newer, isNewer, evolves⟩ := effect.committed_evolves reachedFollows isNew
        exact ⟨effect.follows reachedSound reachedFollows, newer, isNewer, sofar.trans evolves⟩)
    exact evolved

/-! ### Two resolvers of one alert -/

/-- A low reading, the hand resolution of the alert it raises, a healthy reading
a second later, and a low one two seconds after that. -/
def resolverPrograms : SessionId → List Statement
  | 0 => singleIngestion Settings.default [] sampleBatteries (sampleEvent 1 0 15)
  | 1 => manualResolution 0 2000000
  | 2 => singleIngestion Settings.default [] sampleBatteries (sampleEvent 2 1000000 50)
  | 3 => singleIngestion Settings.default [] sampleBatteries (sampleEvent 3 3000000 15)
  | _ => []

/-- The low reading is ingested; then both resolvers read the open alert, and
the manual one writes and commits. -/
def resolversRace : List (SessionId × Action) :=
  List.replicate 6 (0, .proceed) ++
    [(1, .proceed), (2, .proceed), (2, .proceed), (1, .flush 0 2000000), (1, .proceed)]

/-- The other resolver goes on. -/
def lateResolver : List (SessionId × Action) :=
  [(2, .flush 0 1000000), (2, .proceed), (2, .proceed), (2, .flush 1 1000000), (2, .proceed),
    (2, .proceed)]

theorem resolversRace_safe :
    ∃ labels server, Server.play Settings.default (resolversRace ++ lateResolver)
        (Server.ofDatabase (Database.registered sampleBatteries) resolverPrograms) =
          some (labels, server) ∧
      server.AlertsSafe := by
  have plays : (Server.play Settings.default (resolversRace ++ lateResolver)
      (Server.ofDatabase (Database.registered sampleBatteries) resolverPrograms)).isSome =
        true := by
    decide +kernel
  obtain ⟨⟨labels, server⟩, played⟩ := Option.isSome_iff_exists.mp plays
  exact ⟨labels, server, played, (alerts_interleaving_safe Settings.default sampleBatteries
    resolverPrograms (Server.trace_of_play played)).1⟩

/-- A resolution stays as it is. -/
def Alert.KeepsResolution (old new : Alert) : Prop :=
  old.resolved = true → new.resolved = true ∧ new.resolvedAt = old.resolvedAt

theorem Alert.KeepsResolution.trans {first second third : Alert}
    (one : first.KeepsResolution second) (two : second.KeepsResolution third) :
    first.KeepsResolution third := by
  intro resolved
  obtain ⟨stillResolved, sameTime⟩ := one resolved
  obtain ⟨finallyResolved, finalTime⟩ := two stillResolved
  exact ⟨finallyResolved, finalTime.trans sameTime⟩

/-- The event is a resolver's `UPDATE`. -/
def Event.isFlush : Event → Bool
  | .flushed _ _ => true
  | _ => false

namespace Server

variable {settings : Settings}

/-- An `UPDATE` of a resolver is timely: the last committed version of the alert
is still unresolved, or was resolved with the same time. -/
def Timely (before : Server) (label : Label) : Prop :=
  ∀ alertId resolvedAt, label.2 = .flushed alertId resolvedAt →
    ∀ alert, (before.alerts.cells alertId).committed = some alert → alert.resolved = true →
      alert.resolvedAt = some resolvedAt

/-- A step whose `UPDATE`, if it is one, is timely. -/
def TimelyStep (settings : Settings) (before : Server) (label : Label) (after : Server) : Prop :=
  before.Step settings label after ∧ before.Timely label

theorem Effect.keepsResolution {server after : Server} {session : SessionId} {event : Event}
    (sound : server.alerts.Sound Alert.indexEntry)
    (effect : server.Effect settings session event after) (timely : server.Timely (session, event))
    (follows : server.alerts.Follows Alert.KeepsResolution) :
    after.alerts.Follows Alert.KeepsResolution := by
  cases effect with
  | stored => exact follows
  | raised code calm places isOpen =>
      apply Heap.Follows.write follows (places.free sound)
      apply follows.through_view Alert.KeepsResolution.trans
      intro seen isSeen resolved
      cases places with
      | retained free isOld keyed =>
          obtain rfl := Option.some.inj (isOld.symm.trans isSeen)
          rw [(Alert.indexEntry_eq_some_iff.mp keyed).2.2] at resolved
          cases resolved
      | inserted absent =>
          rw [sound.drawn _ le_rfl] at isSeen
          cases isSeen
  | selectedNone => exact follows
  | selectedSome => exact follows
  | fetchedOpen => exact follows
  | fetchedDone => exact follows.rollback session
  | lockedStale => exact follows
  | marked => exact follows
  | flushed due free isOld =>
      apply follows.write free
      intro old present resolved
      exact ⟨rfl, (timely _ _ rfl old present resolved).symm⟩
  | flushedNone => exact follows
  | committed => exact follows.commit (fun _ resolved => ⟨resolved, rfl⟩) session
  | failed => exact follows.rollback session

/-- A run in which no resolver writes is timely. -/
theorem timely_of_unflushed {first last : Server} {labels : List Label}
    (run : Trace (Step settings) first labels last)
    (unflushed : labels.any (fun label => label.2.isFlush) = false) :
    Trace (TimelyStep settings) first labels last := by
  induction run with
  | nil => exact .nil _
  | snoc _ step ih =>
      rw [List.any_append, Bool.or_eq_false_iff] at unflushed
      refine .snoc (ih unflushed.1) ⟨step, ?_⟩
      intro alertId resolvedAt flushes
      rw [List.any_cons, flushes] at unflushed
      exact absurd unflushed.2 (by simp [Event.isFlush])

/-- In a run of timely steps every version of an alert keeps its committed
resolution. -/
theorem keepsResolution_run {first last : Server} {labels : List Label}
    (run : Trace (TimelyStep settings) first labels last)
    (sound : first.alerts.Sound Alert.indexEntry)
    (follows : first.alerts.Follows Alert.KeepsResolution) :
    last.alerts.Sound Alert.indexEntry ∧ last.alerts.Follows Alert.KeepsResolution ∧
      ∀ alertId old, (first.alerts.cells alertId).committed = some old →
        ∃ new, (last.alerts.cells alertId).committed = some new ∧ old.KeepsResolution new := by
  apply Trace.invariant
    (fun _ last => last.alerts.Sound Alert.indexEntry ∧ last.alerts.Follows Alert.KeepsResolution ∧
      ∀ alertId old, (first.alerts.cells alertId).committed = some old →
        ∃ new, (last.alerts.cells alertId).committed = some new ∧ old.KeepsResolution new) run
  · exact ⟨sound, follows, fun _ old present => ⟨old, present, fun resolved => ⟨resolved, rfl⟩⟩⟩
  · rintro labels server label after ⟨middleSound, middleFollows, sofar⟩ step
    have effect := effect_of_step middleSound step.1
    refine ⟨effect.sound middleSound, effect.keepsResolution middleSound step.2 middleFollows, ?_⟩
    intro alertId old present
    obtain ⟨middle, isMiddle, kept⟩ := sofar alertId old present
    rcases effect.committed_alert alertId with same | ⟨-, view⟩
    · exact ⟨middle, same.trans isMiddle, kept⟩
    · obtain ⟨new, isNew⟩ := Cell.outcome_isSome_of_committed isMiddle fun other => other = label.1
      exact ⟨new, view.trans isNew, kept.trans (middleFollows _ _ middle new isMiddle isNew)⟩

/-- An untimely `UPDATE` moves the resolution time as soon as its session
commits. -/
theorem untimely_update_moves {server written after : Server} {session : SessionId}
    {alertId : Uuid} {resolvedAt : Timestamp} (sound : server.alerts.Sound Alert.indexEntry)
    (update : server.Step settings (session, .flushed alertId resolvedAt) written)
    (commits : written.Step settings (session, .committed) after) {old : Alert}
    (present : (server.alerts.cells alertId).committed = some old)
    (untimely : old.resolvedAt ≠ some resolvedAt) :
    ∃ new, (after.alerts.cells alertId).committed = some new ∧
      new.resolvedAt ≠ old.resolvedAt := by
  have writing := effect_of_step sound update
  have published := (effect_of_step (writing.sound sound) commits).committed_of_commit alertId
  cases writing with
  | flushed due free seen =>
      exact ⟨_, published.trans (Heap.view_write alertId _), fun moved => untimely moved.symm⟩
  | flushedNone due free gone =>
      obtain ⟨seen, isSeen⟩ := Cell.outcome_isSome_of_committed present fun other => other = session
      rw [Cell.view, isSeen] at gone
      cases gone

end Server

/-- In every interleaving whose resolver `UPDATE`s are all timely, a committed
resolution is final: whatever commits later, the alert stays resolved with the
same time. -/
theorem resolution_final (settings : Settings) (batteries : Table Battery Battery.batteryId)
    (programs : SessionId → List Statement) {early late : List Label} {middle last : Server}
    (run : Trace (Server.TimelyStep settings)
      (Server.ofDatabase (Database.registered batteries) programs) early middle)
    (continued : Trace (Server.TimelyStep settings) middle late last) (alertId : Uuid)
    (old : Alert) (present : (middle.alerts.cells alertId).committed = some old)
    (resolved : old.resolved = true) :
    ∃ new, (last.alerts.cells alertId).committed = some new ∧ new.resolved = true ∧
      new.resolvedAt = old.resolvedAt := by
  obtain ⟨sound, follows, -⟩ := Server.keepsResolution_run run (Server.sound_ofDatabase _ _)
    (by rintro id commits one two ⟨⟩)
  obtain ⟨-, -, kept⟩ := Server.keepsResolution_run continued sound follows
  obtain ⟨new, isNew, keeps⟩ := kept alertId old present
  exact ⟨new, isNew, keeps resolved⟩

/-- The hand resolution reads, writes in time and commits, and the low reading
that is ingested next leaves its time alone. -/
theorem prompt_resolution_kept :
    ∃ middle late last old new,
      Trace (Server.Step Settings.default) middle late last ∧ (3, .committed) ∈ late ∧
      (middle.alerts.cells 0).committed = some old ∧ old.resolvedAt = some 2000000 ∧
      (last.alerts.cells 0).committed = some new ∧ new.resolvedAt = old.resolvedAt := by
  have plays : ((Server.play Settings.default (List.replicate 6 (0, .proceed) ++ [(1, .proceed)])
      (Server.ofDatabase (Database.registered sampleBatteries) resolverPrograms)).bind fun read =>
        (read.2.perform Settings.default 1 (.flush 0 2000000)).bind fun written =>
          (Server.play Settings.default [(1, .proceed)] written.2).bind fun middle =>
            (Server.play Settings.default (List.replicate 6 (3, .proceed)) middle.2).map
              fun last =>
                decide ((read.1 ++ middle.1 ++ last.1).any (fun label => label.2.isFlush) = false ∧
                  (3, .committed) ∈ last.1 ∧ written.1 = .flushed 0 2000000 ∧
                  (read.2.alerts.cells 0).committed.map Alert.resolved = some false ∧
                  (middle.2.alerts.cells 0).committed.map
                    (fun alert => (alert.resolved, alert.resolvedAt)) =
                      some (true, some 2000000))) = some true := by decide +kernel
  obtain ⟨⟨readLabels, read⟩, playedRead, afterRead⟩ := Option.bind_eq_some_iff.mp plays
  obtain ⟨⟨event, written⟩, flushes, afterFlush⟩ := Option.bind_eq_some_iff.mp afterRead
  obtain ⟨⟨commitLabels, middle⟩, playedCommit, afterCommit⟩ :=
    Option.bind_eq_some_iff.mp afterFlush
  obtain ⟨⟨late, last⟩, playedLate, observed⟩ := Option.map_eq_some_iff.mp afterCommit
  obtain ⟨calm, ends, rfl, unresolved, resolution⟩ := of_decide_eq_true observed
  simp only [List.any_append, Bool.or_eq_false_iff] at calm
  obtain ⟨old, present, isOld⟩ := Option.map_eq_some_iff.mp resolution
  obtain ⟨resolved, time⟩ := Prod.mk.injEq .. ▸ isOld
  have timely : read.Timely (1, .flushed 0 2000000) := by
    rintro _ _ ⟨⟩ alert committed isResolved
    rw [committed, Option.map_some, isResolved] at unresolved
    cases unresolved
  have early := (Trace.snoc
    (Server.timely_of_unflushed (Server.trace_of_play playedRead) calm.1.1)
    ⟨⟨.flush 0 2000000, flushes⟩, timely⟩).append
      (Server.timely_of_unflushed (Server.trace_of_play playedCommit) calm.1.2)
  have continued := Server.trace_of_play playedLate
  obtain ⟨new, isNew, -, kept⟩ := resolution_final Settings.default sampleBatteries
    resolverPrograms early (Server.timely_of_unflushed continued calm.2) 0 old present resolved
  exact ⟨middle, late, last, old, new, continued, ends, present, time, isNew, kept⟩

/-- The manual resolution has been committed, and the automatic one that had
read the alert before then overwrites its time. -/
theorem stale_resolver_moves_resolvedAt :
    ¬ ∀ (programs : SessionId → List Statement) (early late : List Label) (middle last : Server),
      Trace (Server.Step Settings.default)
        (Server.ofDatabase (Database.registered sampleBatteries) programs) early middle →
      Trace (Server.Step Settings.default) middle late last →
      ∀ alertId old, (middle.alerts.cells alertId).committed = some old → old.resolved = true →
        ∃ new, (last.alerts.cells alertId).committed = some new ∧
          new.resolvedAt = old.resolvedAt := by
  intro final
  have plays : ((Server.play Settings.default resolversRace
      (Server.ofDatabase (Database.registered sampleBatteries) resolverPrograms)).bind
        fun first => (Server.play Settings.default lateResolver first.2).map fun second =>
          ((first.2.alerts.cells 0).committed.map fun alert => (alert.resolved, alert.resolvedAt),
            (second.2.alerts.cells 0).committed.map Alert.resolvedAt)) =
      some (some (true, some 2000000), some (some 1000000)) := by decide +kernel
  obtain ⟨⟨early, middle⟩, played, continued⟩ := Option.bind_eq_some_iff.mp plays
  obtain ⟨⟨late, last⟩, playedLate, observed⟩ := Option.map_eq_some_iff.mp continued
  simp only [Prod.mk.injEq] at observed
  obtain ⟨old, present, before⟩ := Option.map_eq_some_iff.mp observed.1
  simp only [Prod.mk.injEq] at before
  obtain ⟨new, isNew, sameTime⟩ := final resolverPrograms early late middle last
    (Server.trace_of_play played) (Server.trace_of_play playedLate) 0 old present before.1
  rw [isNew, Option.map_some, sameTime, before.2] at observed
  exact absurd observed.2 (by decide)

end VoltStream.Backend
