/-
Module: VoltStream.Proofs.OverlappingBatches
Purpose: Two overlapping batch requests with readings of one battery: which
  alerts of the battery are open once both have finished, in every interleaving
  of their statements, flushes and commits.
Trusted boundary: none
Main exports: Server.Overwrites, Server.NewerWritesLast, overlapping_batches_iff,
  older_rule_pass_last
-/
import VoltStream.Proofs.LatestVersions
import VoltStream.Proofs.IncidentHistory

namespace VoltStream.Backend

open Relational

/-- The call a statement makes about one battery and type. -/
def Statement.callAbout (batteryId : BatteryId) (alertType : AlertType) :
    Statement → Option AlertCall
  | .alert call => if call.key = (batteryId, alertType) then some call else none
  | _ => none

theorem Statement.callAbout_eq_some_iff {batteryId : BatteryId} {alertType : AlertType}
    {statement : Statement} {call : AlertCall} :
    statement.callAbout batteryId alertType = some call ↔
      statement = .alert call ∧ call.key = (batteryId, alertType) := by
  cases statement with
  | alert other =>
      simp only [callAbout, Option.ite_none_right_eq_some, Option.some.injEq, alert.injEq]
      constructor
      · rintro ⟨keyed, rfl⟩
        exact ⟨rfl, keyed⟩
      · rintro ⟨rfl, keyed⟩
        exact ⟨keyed, rfl⟩
  | _ => simp [callAbout]

/-- Only the statement of a call yields its event. -/
theorem Statement.Yields.isCall {statement : Statement} {event : Event} {call : AlertCall}
    (yields : statement.Yields event) (isEvent : event = call.event) : statement = .alert call := by
  subst isEvent
  cases statement with
  | alert other => rw [AlertCall.event_injective yields]
  | _ => cases call <;> simp [Yields, AlertCall.event] at yields

namespace Server

/-- The calls about one battery and type that the session has still to make. -/
def due (server : Server) (batteryId : BatteryId) (alertType : AlertType) (session : SessionId) :
    List AlertCall :=
  (server.sessions session).todo.filterMap (Statement.callAbout batteryId alertType)

variable {settings : Settings} {server after : Server} {session : SessionId} {event : Event}
  {batteryId : BatteryId} {alertType : AlertType} {alertId : Uuid} {labels : List Label}

/-- A step carries out the session's next call about the key, or has nothing to
do with the key. -/
theorem Effect.due (effect : server.Effect settings session event after)
    (batteryId : BatteryId) (alertType : AlertType) (proceeds : event.Proceeds)
    (noDetector : ∀ clock, .selectStale clock ∉ (server.sessions session).todo) :
    (∃ call : AlertCall, call.key = (batteryId, alertType) ∧ event = call.event ∧
        server.due batteryId alertType session = call :: after.due batteryId alertType session) ∨
      (∀ call : AlertCall, call.key = (batteryId, alertType) → event ≠ call.event) ∧
        after.due batteryId alertType session = server.due batteryId alertType session := by
  rcases effect.todo proceeds with
    ⟨_, _, rfl, -, same⟩ | ⟨statement, todo, code, yields, rest⟩
  · refine Or.inr ⟨fun call _ => ?_, by rw [Server.due, Server.due, same]⟩
    cases call <;> simp [AlertCall.event]
  obtain ⟨rest, -⟩ | ⟨clock, rfl, -⟩ := rest
  swap
  · exact absurd (code ▸ List.mem_cons_self) (noDetector clock)
  cases made : statement.callAbout batteryId alertType with
  | some call =>
      obtain ⟨rfl, keyed⟩ := Statement.callAbout_eq_some_iff.mp made
      refine Or.inl ⟨call, keyed, yields, ?_⟩
      rw [Server.due, Server.due, code, rest, List.filterMap_cons_some made]
  | none =>
      refine Or.inr ⟨fun call keyed isEvent => ?_, ?_⟩
      · rw [Statement.callAbout_eq_some_iff.mpr ⟨yields.isCall isEvent, keyed⟩] at made
        cases made
      · rw [Server.due, Server.due, code, rest, List.filterMap_cons_none made]

/-- Every session makes its one call about the key once, and no detector runs. -/
structure OnDuty (call : SessionId → Option AlertCall) (batteryId : BatteryId)
    (alertType : AlertType) (labels : List Label) (server : Server) : Prop where
  noDetector : ∀ session clock, .selectStale clock ∉ (server.sessions session).todo
  phase : ∀ session,
    server.due batteryId alertType session = (call session).toList ∧
        (∀ made : AlertCall, made.key = (batteryId, alertType) → (session, made.event) ∉ labels) ∨
      server.due batteryId alertType session = [] ∧
        ∀ made, call session = some made → (session, made.event) ∈ labels

section Duty

variable {call : SessionId → Option AlertCall}

/-- The call a step makes about the key is its session's, made for the first
time. -/
theorem OnDuty.of_event (duty : server.OnDuty call batteryId alertType labels)
    (proceeds : event.Proceeds) (effect : server.Effect settings session event after)
    {made : AlertCall} (keyed : made.key = (batteryId, alertType)) (isEvent : event = made.event) :
    call session = some made ∧ server.due batteryId alertType session = [made] ∧
      after.due batteryId alertType session = [] ∧
      ∀ other : AlertCall, other.key = (batteryId, alertType) →
        (session, other.event) ∉ labels := by
  rcases effect.due batteryId alertType proceeds (duty.noDetector session) with
    ⟨other, -, otherEvent, due⟩ | ⟨silent, -⟩
  · obtain rfl := AlertCall.event_injective (isEvent.symm.trans otherEvent)
    rcases duty.phase session with ⟨whole, unmade⟩ | ⟨none, -⟩
    · rw [due] at whole
      cases has : call session with
      | none => simp [has] at whole
      | some mine =>
          simp only [has, Option.toList_some, List.cons.injEq] at whole
          obtain ⟨rfl, rest⟩ := whole
          exact ⟨rfl, by rw [due, rest], rest, unmade⟩
    · rw [due] at none
      cases none
  · exact absurd isEvent (silent made keyed)

theorem Effect.noDetector (proceeds : event.Proceeds)
    (effect : server.Effect settings session event after)
    (before : ∀ clock, .selectStale clock ∉ (server.sessions session).todo)
    (clock : DetectorClock) : .selectStale clock ∉ (after.sessions session).todo := by
  intro member
  rcases effect.todo proceeds with ⟨_, _, -, -, same⟩ | ⟨statement, todo, code, -, rest⟩
  · exact before clock (same ▸ member)
  · rcases rest with ⟨rest, -⟩ | ⟨other, rfl, -⟩
    · apply before clock
      rw [code, ← rest]
      exact List.mem_cons_of_mem _ member
    · exact before other (code ▸ List.mem_cons_self)

/-- Duties are carried out one step at a time. -/
theorem OnDuty.step (duty : server.OnDuty call batteryId alertType labels)
    (proceeds : event.Proceeds) (effect : server.Effect settings session event after) :
    after.OnDuty call batteryId alertType (labels ++ [(session, event)]) where
  noDetector other clock := by
    by_cases own : other = session
    · subst own
      exact effect.noDetector proceeds (duty.noDetector other) clock
    · rw [effect.sessions_of_ne own]
      exact duty.noDetector other clock
  phase other := by
    by_cases own : other = session
    · subst own
      rcases effect.due batteryId alertType proceeds (duty.noDetector other) with
        ⟨made, keyed, isEvent, -⟩ | ⟨silent, same⟩
      · obtain ⟨mine, -, none, -⟩ := duty.of_event proceeds effect keyed isEvent
        refine Or.inr ⟨none, ?_⟩
        rintro others isMine
        obtain rfl := Option.some.inj (mine.symm.trans isMine)
        rw [isEvent]
        exact List.mem_append_right _ List.mem_cons_self
      · rw [same]
        rcases duty.phase other with ⟨whole, unmade⟩ | ⟨none, made⟩
        · refine Or.inl ⟨whole, ?_⟩
          intro others keyed member
          rcases List.mem_append.mp member with old | new
          · exact unmade others keyed old
          · exact silent others keyed (Prod.mk.inj (List.mem_singleton.mp new)).2.symm
        · exact Or.inr ⟨none, fun others mine => List.mem_append_left _ (made others mine)⟩
    · have sameDue :
          after.due batteryId alertType other = server.due batteryId alertType other := by
        rw [Server.due, Server.due, effect.sessions_of_ne own]
      rw [sameDue]
      rcases duty.phase other with ⟨whole, unmade⟩ | ⟨none, made⟩
      · refine Or.inl ⟨whole, ?_⟩
        intro others keyed member
        rcases List.mem_append.mp member with old | new
        · exact unmade others keyed old
        · exact own (Prod.mk.inj (List.mem_singleton.mp new)).1
      · exact Or.inr ⟨none, fun others mine => List.mem_append_left _ (made others mine)⟩

/-- A session that is over has made its call. -/
theorem OnDuty.made_of_finished (duty : server.OnDuty call batteryId alertType labels)
    (finished : server.Finished session) {made : AlertCall} (mine : call session = some made) :
    (session, made.event) ∈ labels := by
  rcases duty.phase session with ⟨whole, -⟩ | ⟨-, all⟩
  · rw [Server.due, finished, mine] at whole
    cases whole
  · exact all made mine

end Duty

/-! ### One resolver -/

/-- `clearer` is the only session that resolves alerts of this battery and type:
the alert it has selected stays open until it flushes it, and the versions the
others write are open. -/
structure SoleClearer (clearer : SessionId) (batteryId : BatteryId) (alertType : AlertType)
    (server : Server) : Prop where
  present : ∀ session entry, entry ∈ (server.sessions session).dirty →
    ∃ alert, server.latestAlert entry.1 = some alert
  selected : ∀ session entry, entry ∈ (server.sessions session).dirty →
    server.Concerns entry.1 batteryId alertType →
      session = clearer ∧ server.OpenAt entry.1 batteryId alertType ∧
        server.due batteryId alertType clearer = []
  once : (server.sessions clearer).dirty.Pairwise fun first second =>
    ¬ (server.Concerns first.1 batteryId alertType ∧ server.Concerns second.1 batteryId alertType)
  writesOpen : ∀ session alertId alert,
    (server.alerts.cells alertId).pending = some (session, alert) →
      alert.batteryId = batteryId → alert.alertType = alertType → session ≠ clearer →
        alert.resolved = false

section SoleClearer

variable {call : SessionId → Option AlertCall} {clearer : SessionId}

/-- What a session selects as open for the key is open in its newest version: the
others only write open versions. -/
theorem SoleClearer.openAt_of_seen (sole : server.SoleClearer clearer batteryId alertType)
    (follows : server.alerts.Follows Alert.Evolves) {seen : Alert}
    (isSeen : (server.alerts.cells alertId).view clearer = some seen)
    (isOpen : seen.OpenFor batteryId alertType) : server.OpenAt alertId batteryId alertType := by
  obtain ⟨latest, isLatest⟩ := latestAlert_of_seen isSeen
  obtain ⟨battery, type⟩ := same_incident_of_seen follows isSeen isLatest
  refine ⟨latest, isLatest, battery.trans isOpen.1, type.trans isOpen.2.1, ?_⟩
  by_cases locked : (server.alerts.cells alertId).lockedAgainst clearer = true
  · cases held : (server.alerts.cells alertId).pending with
    | none => simp [Cell.lockedAgainst, held] at locked
    | some holding =>
        obtain ⟨holder, version⟩ := holding
        rw [latestAlert, Cell.outcome_of_pending held, if_pos rfl, Option.some.injEq] at isLatest
        subst isLatest
        apply sole.writesOpen holder alertId version held (battery.trans isOpen.1)
          (type.trans isOpen.2.1)
        simpa [Cell.lockedAgainst, held] using locked
  · rw [latestAlert_of_free (by simpa using locked), isSeen, Option.some.injEq] at isLatest
    exact isLatest ▸ isOpen.2.2

/-- What a session selects is of the key it asks for. -/
theorem key_of_selected (follows : server.alerts.Follows Alert.Evolves) {seen : Alert}
    {battery : BatteryId} {type : AlertType}
    (isSeen : (server.alerts.cells alertId).view session = some seen)
    (isOpen : seen.OpenFor battery type)
    (concerns : server.Concerns alertId batteryId alertType) :
    battery = batteryId ∧ type = alertType := by
  obtain ⟨latest, isLatest, latestBattery, latestType⟩ := concerns
  obtain ⟨sameBattery, sameType⟩ := same_incident_of_seen follows isSeen isLatest
  exact ⟨isOpen.1.symm.trans (sameBattery.symm.trans latestBattery),
    isOpen.2.1.symm.trans (sameType.symm.trans latestType)⟩

/-- The clearer has at most one entry of the key. -/
theorem SoleClearer.not_concerns_of_erase (sole : server.SoleClearer clearer batteryId alertType)
    {flushed entry : Uuid × Timestamp} (due : flushed ∈ (server.sessions clearer).dirty)
    (left : entry ∈ (server.sessions clearer).dirty.erase flushed)
    (concerns : server.Concerns entry.1 batteryId alertType) :
    ¬ server.Concerns flushed.1 batteryId alertType := by
  intro both
  have apart := ((List.perm_cons_erase due).pairwise_iff
    (fun different => fun pair => different ⟨pair.2, pair.1⟩)).mp sole.once
  exact (List.pairwise_cons.mp apart).1 entry left ⟨both, concerns⟩

theorem OnDuty.due_nil (duty : server.OnDuty call batteryId alertType labels)
    (proceeds : event.Proceeds) (effect : server.Effect settings session event after)
    {holder : SessionId} (none : server.due batteryId alertType holder = []) :
    after.due batteryId alertType holder = [] := by
  by_cases own : holder = session
  · subst own
    rcases effect.due batteryId alertType proceeds (duty.noDetector holder) with
      ⟨made, -, -, due⟩ | ⟨-, same⟩
    · rw [due] at none
      cases none
    · exact same.trans none
  · rw [Server.due, effect.sessions_of_ne own]
    exact none

/-- A session that selects an open alert of the key is the clearer, doing its
duty. -/
theorem SoleClearer.of_selected (sole : server.SoleClearer clearer batteryId alertType)
    (duty : server.OnDuty call batteryId alertType labels)
    (only : ∀ session resolvedAt,
      call session = some (.resolveAlertIfActive batteryId alertType resolvedAt) →
        session = clearer)
    (sound : server.alerts.Sound Alert.indexEntry) (follows : server.alerts.Follows Alert.Evolves)
    {battery : BatteryId} {type : AlertType} {resolvedAt : Timestamp}
    (effect : server.Effect settings session (.selected battery type resolvedAt) after)
    {seen : Alert} (isSeen : (server.alerts.cells alertId).view session = some seen)
    (isOpen : seen.OpenFor battery type) (concerns : after.Concerns alertId batteryId alertType) :
    session = clearer ∧ server.OpenAt alertId batteryId alertType ∧
      server.due batteryId alertType clearer ≠ [] ∧ after.due batteryId alertType clearer = [] := by
  obtain ⟨latest, present⟩ := latestAlert_of_seen isSeen
  have proceeds : (Event.selected battery type resolvedAt).Proceeds := trivial
  have before := effect.concerns_of_present proceeds sound present concerns
  obtain ⟨rfl, rfl⟩ := key_of_selected follows isSeen isOpen before
  obtain ⟨mine, due, done, -⟩ := duty.of_event proceeds effect
    (rfl : (AlertCall.resolveAlertIfActive battery type resolvedAt).key = (battery, type)) rfl
  obtain rfl := only session resolvedAt mine
  refine ⟨rfl, sole.openAt_of_seen follows isSeen isOpen, ?_, done⟩
  rw [due]
  exact List.cons_ne_nil _ _

theorem SoleClearer.step (sole : server.SoleClearer clearer batteryId alertType)
    (duty : server.OnDuty call batteryId alertType labels)
    (only : ∀ session resolvedAt,
      call session = some (.resolveAlertIfActive batteryId alertType resolvedAt) →
        session = clearer)
    (sound : server.alerts.Sound Alert.indexEntry) (follows : server.alerts.Follows Alert.Evolves)
    (proceeds : event.Proceeds) (effect : server.Effect settings session event after) :
    after.SoleClearer clearer batteryId alertType := by
  have backward : ∀ {holder entry}, entry ∈ (server.sessions holder).dirty →
      after.Concerns entry.1 batteryId alertType →
        server.Concerns entry.1 batteryId alertType := by
    intro holder entry member concerns
    obtain ⟨alert, present⟩ := sole.present holder entry member
    exact effect.concerns_of_present proceeds sound present concerns
  refine ⟨?_, ?_, ?_, ?_⟩
  · intro holder entry member
    rcases effect.mem_dirty proceeds member with old | ⟨-, -, -, seen, -, isSeen, -⟩
    · obtain ⟨alert, present⟩ := sole.present holder entry old
      obtain ⟨new, later, -⟩ := effect.latestAlert_present proceeds sound present
      exact ⟨new, later⟩
    · obtain ⟨alert, present⟩ := latestAlert_of_seen isSeen
      obtain ⟨new, later, -⟩ := effect.latestAlert_present proceeds sound present
      exact ⟨new, later⟩
  · intro holder entry member concerns
    rcases effect.mem_dirty proceeds member with old | ⟨rfl, _, _, seen, rfl, isSeen, isOpen⟩
    · have before := backward old concerns
      obtain ⟨rfl, isOpen, none⟩ := sole.selected holder entry old before
      refine ⟨rfl, ?_, duty.due_nil proceeds effect none⟩
      rcases Event.alert_cases event with ⟨request, rfl⟩ | ⟨flushed, resolvedAt, rfl⟩ | ⟨one, two⟩
      · exact effect.openAt_raised sound isOpen
      · refine effect.openAt_flushed.mpr ⟨?_, isOpen⟩
        rintro rfl
        obtain ⟨due, rest⟩ := effect.flushed_dirty
        obtain ⟨rfl, -, -⟩ := sole.selected session _ due before
        exact sole.not_concerns_of_erase due (rest ▸ member) before before
      · exact (effect.openAt_kept proceeds one two).mpr isOpen
    · obtain ⟨isClearer, open', -, done⟩ :=
        sole.of_selected duty only sound follows effect isSeen isOpen concerns
      exact ⟨isClearer, (effect.openAt_kept proceeds (by simp) (by simp)).mpr open', done⟩
  · have kept : (server.sessions clearer).dirty.Pairwise fun first second =>
        ¬ (after.Concerns first.1 batteryId alertType ∧
          after.Concerns second.1 batteryId alertType) := by
      apply sole.once.imp_of_mem
      rintro first second inFirst inSecond apart ⟨one, two⟩
      exact apart ⟨backward inFirst one, backward inSecond two⟩
    by_cases own : clearer = session
    swap
    · rw [effect.sessions_of_ne own]
      exact kept
    subst own
    rcases effect.dirty proceeds with
      same | ⟨_, _, entry, seen, rfl, isSeen, isOpen, grown⟩ | ⟨entry, -, shrunk⟩
    · rw [same]
      exact kept
    · rw [grown, List.pairwise_append]
      refine ⟨kept, List.pairwise_singleton _ _, ?_⟩
      rintro first inFirst second inSecond ⟨one, two⟩
      obtain rfl := List.mem_singleton.mp inSecond
      obtain ⟨-, -, none⟩ := sole.selected clearer first inFirst (backward inFirst one)
      obtain ⟨-, -, due, -⟩ := sole.of_selected duty only sound follows effect isSeen isOpen two
      exact due none
    · rw [shrunk]
      exact kept.sublist List.erase_sublist
  · intro holder written version held battery type other
    rcases effect.alert_pending proceeds held with ⟨old, -⟩ |
      ⟨own, ⟨request, -, isOpen⟩ | ⟨resolvedAt, seen, rfl, latest, rfl⟩⟩
    · exact sole.writesOpen holder written version old battery type other
    · exact isOpen.2.2
    · obtain ⟨due, -⟩ := effect.flushed_dirty
      obtain ⟨isClearer, -⟩ := sole.selected session _ due ⟨seen, latest, battery, type⟩
      exact absurd (own.trans isClearer) other

end SoleClearer

/-- After the raiser's upsert the clearer's `UPDATE` of an alert of the key. -/
def Overwrites (server : Server) (labels : List Label) (raiser clearer : SessionId)
    (batteryId : BatteryId) (alertType : AlertType) : Prop :=
  ∃ request alertId resolvedAt, request.batteryId = batteryId ∧ request.alertType = alertType ∧
    server.Concerns alertId batteryId alertType ∧
    InOrder [(raiser, .raised request), (clearer, .flushed alertId resolvedAt)] labels

section OneOfEach

variable {call : SessionId → Option AlertCall} {raiser clearer : SessionId}

/-- Unless a step is the clearer's `UPDATE` of an alert of the key or an upsert for
the key, it does not change what has been overwritten. -/
theorem Effect.overwrites_kept (proceeds : event.Proceeds)
    (sound : server.alerts.Sound Alert.indexEntry)
    (effect : server.Effect settings session event after)
    (notRaised : ∀ request, event = .raised request →
      ¬ (request.batteryId = batteryId ∧ request.alertType = alertType))
    (notFlushed : ∀ alertId resolvedAt, event = .flushed alertId resolvedAt →
      ¬ server.Concerns alertId batteryId alertType) :
    after.Overwrites (labels ++ [(session, event)]) raiser clearer batteryId alertType ↔
      server.Overwrites labels raiser clearer batteryId alertType := by
  constructor
  · rintro ⟨request, alertId, resolvedAt, battery, type, concerns, order⟩
    have before := effect.concerns_back proceeds sound notRaised concerns
    rcases inOrder_pair_concat.mp order with earlier | ⟨-, last⟩
    · exact ⟨request, alertId, resolvedAt, battery, type, before, earlier⟩
    · exact absurd before (notFlushed alertId resolvedAt (Prod.mk.inj last).2.symm)
  · rintro ⟨request, alertId, resolvedAt, battery, type, concerns, order⟩
    exact ⟨request, alertId, resolvedAt, battery, type, effect.concerns proceeds sound concerns,
      inOrder_pair_concat.mpr (Or.inl order)⟩

/-- Once the one raiser has raised, an alert is open exactly if the one clearer
has not overwritten it. -/
def LastWriteDecides (raiser clearer : SessionId) (batteryId : BatteryId) (alertType : AlertType)
    (labels : List Label) (server : Server) : Prop :=
  (∃ request : AlertRequest, request.batteryId = batteryId ∧ request.alertType = alertType ∧
      (raiser, .raised request) ∈ labels) →
    (server.LatestOpen batteryId alertType ↔
      ¬ server.Overwrites labels raiser clearer batteryId alertType)

theorem LastWriteDecides.step
    (decides : server.LastWriteDecides raiser clearer batteryId alertType labels)
    (duty : server.OnDuty call batteryId alertType labels)
    (sole : server.SoleClearer clearer batteryId alertType)
    (onlyRaiser : ∀ session request, call session = some (.createOrRetainAlert request) →
      session = raiser)
    (sound : server.alerts.Sound Alert.indexEntry) (proceeds : event.Proceeds)
    (effect : server.Effect settings session event after) :
    after.LastWriteDecides raiser clearer batteryId alertType (labels ++ [(session, event)]) := by
  -- A step that has nothing to do with the key.
  have keeps : (∀ request, event = .raised request →
        ¬ (request.batteryId = batteryId ∧ request.alertType = alertType)) →
      (∀ alertId resolvedAt, event = .flushed alertId resolvedAt →
        ¬ server.Concerns alertId batteryId alertType) →
      (after.LatestOpen batteryId alertType ↔ server.LatestOpen batteryId alertType) →
      after.LastWriteDecides raiser clearer batteryId alertType (labels ++ [(session, event)]) := by
    rintro notRaised notFlushed same ⟨request, battery, type, member⟩
    rw [same, effect.overwrites_kept proceeds sound notRaised notFlushed]
    apply decides
    rcases List.mem_append.mp member with old | new
    · exact ⟨request, battery, type, old⟩
    · exact absurd ⟨battery, type⟩
        (notRaised request (Prod.mk.inj (List.mem_singleton.mp new)).2.symm)
  rcases Event.alert_cases event with ⟨request, rfl⟩ | ⟨flushed, resolvedAt, rfl⟩ | ⟨one, two⟩
  · by_cases keyed : request.batteryId = batteryId ∧ request.alertType = alertType
    · -- The raise itself: the alert is open, and nothing has overwritten it yet.
      intro _
      have made : (AlertCall.createOrRetainAlert request).key = (batteryId, alertType) :=
        Prod.ext keyed.1 keyed.2
      obtain ⟨mine, -, -, unmade⟩ := duty.of_event proceeds effect made rfl
      obtain rfl := onlyRaiser session request mine
      refine iff_of_true ((effect.latestOpen_raised sound).mpr (Or.inl keyed)) ?_
      rintro ⟨other, alertId, resolvedAt, battery, type, -, order⟩
      rcases inOrder_pair_concat.mp order with earlier | ⟨-, last⟩
      · exact unmade (.createOrRetainAlert other) (Prod.ext battery type)
          (earlier.subset List.mem_cons_self)
      · cases last
    · apply keeps
      · rintro _ ⟨⟩
        exact keyed
      · simp
      · rw [effect.latestOpen_raised sound]
        simp [keyed]
  · by_cases concerns : server.Concerns flushed batteryId alertType
    · -- The clearer's write closes the alert, and is an overwrite if the raise came before.
      rintro ⟨request, battery, type, member⟩
      obtain ⟨due, -⟩ := effect.flushed_dirty
      obtain ⟨rfl, isOpen, -⟩ := sole.selected session _ due concerns
      refine iff_of_false ?_ (not_not.mpr ?_)
      · rw [effect.latestOpen_flushed sound]
        exact fun both => both.2 isOpen
      · refine ⟨request, flushed, resolvedAt, battery, type,
          effect.concerns proceeds sound concerns, inOrder_pair_concat.mpr (Or.inr ⟨?_, rfl⟩)⟩
        rcases List.mem_append.mp member with old | new
        · exact old
        · cases List.mem_singleton.mp new
    · apply keeps
      · simp
      · rintro _ _ ⟨⟩
        exact concerns
      · rw [effect.latestOpen_flushed sound, and_iff_left_iff_imp]
        exact fun _ isOpen => concerns isOpen.concerns
  · exact keeps (fun request same => absurd same (one request))
      (fun alertId resolvedAt same => absurd same (two alertId resolvedAt))
      (effect.latestOpen_kept proceeds one two)

end OneOfEach

/-! ### Equal verdicts -/

section SameVerdict

variable {call : SessionId → Option AlertCall}

/-- Where nobody resolves (`idle` has no code), what was raised is open. -/
def RaisedStaysOpen (batteryId : BatteryId) (alertType : AlertType) (labels : List Label)
    (server : Server) : Prop :=
  ∀ session request, (session, .raised request) ∈ labels → request.batteryId = batteryId →
    request.alertType = alertType → server.LatestOpen batteryId alertType

theorem RaisedStaysOpen.step {idle : SessionId}
    (stays : server.RaisedStaysOpen batteryId alertType labels)
    (sole : server.SoleClearer idle batteryId alertType) (quiet : server.Quiet)
    (isIdle : server.Finished idle) (sound : server.alerts.Sound Alert.indexEntry)
    (proceeds : event.Proceeds) (effect : server.Effect settings session event after) :
    after.RaisedStaysOpen batteryId alertType (labels ++ [(session, event)]) := by
  have kept : server.LatestOpen batteryId alertType → after.LatestOpen batteryId alertType := by
    intro isOpen
    rcases Event.alert_cases event with ⟨request, rfl⟩ | ⟨flushed, resolvedAt, rfl⟩ | ⟨one, two⟩
    · exact (effect.latestOpen_raised sound).mpr (Or.inr isOpen)
    · refine (effect.latestOpen_flushed sound).mpr ⟨isOpen, fun openAt => ?_⟩
      obtain ⟨due, -⟩ := effect.flushed_dirty
      obtain ⟨rfl, -, -⟩ := sole.selected session _ due openAt.concerns
      rw [quiet.clean session isIdle] at due
      cases due
    · exact (effect.latestOpen_kept proceeds one two).mpr isOpen
  intro raiser request member battery type
  rcases List.mem_append.mp member with old | new
  · exact kept (stays raiser request old battery type)
  · obtain ⟨-, rfl⟩ := Prod.mk.inj (List.mem_singleton.mp new)
    exact (effect.latestOpen_raised sound).mpr (Or.inl ⟨battery, type⟩)

/-- Where nobody raises: uncommitted versions are resolved ones, and a session that
has selected has an open alert, if there is one, on its list. -/
structure OnlyCleared (batteryId : BatteryId) (alertType : AlertType) (labels : List Label)
    (server : Server) : Prop where
  writesResolved : ∀ session alertId alert,
    (server.alerts.cells alertId).pending = some (session, alert) →
      alert.batteryId = batteryId → alert.alertType = alertType → alert.resolved = true
  selected : ∀ session resolvedAt, (session, .selected batteryId alertType resolvedAt) ∈ labels →
    server.LatestOpen batteryId alertType →
      ∃ entry ∈ (server.sessions session).dirty, server.OpenAt entry.1 batteryId alertType

/-- Everyone sees the open alert. -/
theorem OnlyCleared.seen_of_openAt (cleared : server.OnlyCleared batteryId alertType labels)
    (isOpen : server.OpenAt alertId batteryId alertType) (session : SessionId) :
    ∃ seen, (server.alerts.cells alertId).view session = some seen ∧
      seen.OpenFor batteryId alertType := by
  obtain ⟨alert, latest, battery, type, unresolved⟩ := isOpen
  refine ⟨alert, ?_, battery, type, unresolved⟩
  cases held : (server.alerts.cells alertId).pending with
  | none =>
      rw [latestAlert, Cell.outcome_of_not_pending held] at latest
      rw [Cell.view, Cell.outcome_of_not_pending held]
      exact latest
  | some holding =>
      obtain ⟨holder, version⟩ := holding
      rw [latestAlert, Cell.outcome_of_pending held, if_pos rfl, Option.some.injEq] at latest
      subst latest
      rw [cleared.writesResolved holder alertId version held battery type] at unresolved
      cases unresolved

theorem OnlyCleared.step (cleared : server.OnlyCleared batteryId alertType labels)
    (duty : server.OnDuty call batteryId alertType labels)
    (noRaiser : ∀ session request, call session ≠ some (.createOrRetainAlert request))
    (sound : server.alerts.Sound Alert.indexEntry) (proceeds : event.Proceeds)
    (effect : server.Effect settings session event after) :
    after.OnlyCleared batteryId alertType (labels ++ [(session, event)]) := by
  have notRaised : ∀ request, event = .raised request →
      ¬ (request.batteryId = batteryId ∧ request.alertType = alertType) := by
    rintro request isEvent ⟨battery, type⟩
    have made : (AlertCall.createOrRetainAlert request).key = (batteryId, alertType) :=
      Prod.ext battery type
    exact noRaiser session request (duty.of_event proceeds effect made isEvent).1
  refine ⟨?_, ?_⟩
  · intro holder written version held battery type
    rcases effect.alert_pending proceeds held with ⟨old, -⟩ |
      ⟨-, ⟨request, isEvent, isOpen⟩ | ⟨_, _, -, -, rfl⟩⟩
    · exact cleared.writesResolved holder written version old battery type
    · exact absurd ⟨isOpen.1.symm.trans battery, isOpen.2.1.symm.trans type⟩
        (notRaised request isEvent)
    · rfl
  · rintro holder resolvedAt member ⟨opened, isOpen⟩
    have before := effect.openAt_back proceeds sound notRaised isOpen
    rcases List.mem_append.mp member with old | new
    · obtain ⟨entry, due, entryOpen⟩ := cleared.selected holder resolvedAt old ⟨opened, before⟩
      obtain rfl := entryOpen.unique sound before
      refine ⟨entry, ?_, isOpen⟩
      by_cases own : holder = session
      swap
      · rw [effect.sessions_of_ne own]
        exact due
      subst own
      rcases effect.dirty proceeds with
        same | ⟨_, _, other, _, -, -, -, grown⟩ | ⟨other, rfl, shrunk⟩
      · exact same ▸ due
      · rw [grown]
        exact List.mem_append_left _ due
      · rw [shrunk]
        refine (List.mem_erase_of_ne ?_).mpr due
        rintro rfl
        exact (effect.openAt_flushed.mp isOpen).1 rfl
    · -- The query has just run: it has found the open alert.
      obtain ⟨rfl, rfl⟩ := Prod.mk.inj (List.mem_singleton.mp new)
      obtain ⟨visible, isVisible, visibleOpen⟩ := cleared.seen_of_openAt before holder
      have visibleKey := Alert.indexEntry_eq_some_iff.mpr visibleOpen
      cases effect with
      | selectedNone code absent =>
          apply absurd visibleKey
          simpa [isVisible] using absent opened
      | @selectedSome _ _ _ _ found alert code seen foundOpen =>
          have same : opened = found := by
            apply sound.unique (fun other => other = holder) opened found (batteryId, alertType)
            · rw [← Cell.view, isVisible, Option.bind_some, visibleKey]
            · rw [← Cell.view, seen, Option.bind_some, Alert.indexEntry_eq_some_iff.mpr foundOpen]
          subst same
          exact ⟨(opened, resolvedAt), by simp [resume], isOpen⟩

end SameVerdict

/-! ### Whole runs -/

section Runs

variable {call : SessionId → Option AlertCall} {programs : SessionId → List Statement}
  {db : Database} {last : Server}

/-- The code of the sessions: automatic, ending with a commit, and with one call
about the key each. -/
structure CallsOnce (call : SessionId → Option AlertCall) (batteryId : BatteryId)
    (alertType : AlertType) (programs : SessionId → List Statement) : Prop where
  automatic : ∀ session alertId now, .getAlert alertId now ∉ programs session
  noDetector : ∀ session clock, .selectStale clock ∉ programs session
  ends : ∀ session early last, programs session = early ++ [last] → last.Ends
  calls : ∀ session,
    (programs session).filterMap (Statement.callAbout batteryId alertType) = (call session).toList

theorem CallsOnce.onDuty (once : CallsOnce call batteryId alertType programs) (db : Database) :
    (ofDatabase db programs).OnDuty call batteryId alertType [] where
  noDetector := once.noDetector
  phase session := Or.inl ⟨once.calls session, fun _ _ => List.not_mem_nil⟩

/-- Induction over completed interleavings of sessions that do their duty. -/
theorem CallsOnce.run_induction (once : CallsOnce call batteryId alertType programs)
    (Good : List Label → Server → Prop)
    (run : Trace (Step settings) (ofDatabase db programs) labels last)
    (completed : ∀ label ∈ labels, label.2 ≠ .failed) (start : Good [] (ofDatabase db programs))
    (kept : ∀ labels server session event after, server.alerts.Sound Alert.indexEntry →
      server.alerts.Follows Alert.Evolves → server.Quiet →
      (∀ session, programs session = [] → server.Finished session) →
      server.OnDuty call batteryId alertType labels → event.Proceeds → Good labels server →
      server.Effect settings session event after → Good (labels ++ [(session, event)]) after) :
    last.Quiet ∧ (∀ session, programs session = [] → last.Finished session) ∧
      last.OnDuty call batteryId alertType labels ∧ Good labels last := by
  apply completed_run_induction
    (fun labels server => (∀ session, programs session = [] → server.Finished session) ∧
      server.OnDuty call batteryId alertType labels ∧ Good labels server)
    run completed (sound_ofDatabase db programs) (follows_ofDatabase db programs)
    (quiet_ofDatabase once.automatic once.ends)
  · exact ⟨fun _ empty => empty, once.onDuty db, start⟩
  · rintro labels server session event after sound follows quiet proceeds ⟨idle, duty, good⟩ effect
    exact ⟨fun other empty => effect.finished_kept proceeds quiet (idle other empty),
      duty.step proceeds effect,
      kept labels server session event after sound follows quiet idle duty proceeds good effect⟩

theorem soleClearer_ofDatabase (db : Database) (programs : SessionId → List Statement)
    (clearer : SessionId) (batteryId : BatteryId) (alertType : AlertType) :
    (ofDatabase db programs).SoleClearer clearer batteryId alertType where
  present _ _ member := by cases member
  selected _ _ member := by cases member
  once := List.Pairwise.nil
  writesOpen _ _ _ held := by cases held

/-- Two sessions with the same verdict leave the alert as it says. -/
theorem CallsOnce.open_of_all_raise (once : CallsOnce call batteryId alertType programs)
    (run : Trace (Step settings) (ofDatabase db programs) labels last)
    (completed : ∀ label ∈ labels, label.2 ≠ .failed)
    (noClearer : ∀ session resolvedAt,
      call session ≠ some (.resolveAlertIfActive batteryId alertType resolvedAt))
    {idle raiser : SessionId} (isIdle : programs idle = []) (finished : last.Finished raiser)
    {request : AlertRequest} (raises : call raiser = some (.createOrRetainAlert request))
    (keyed : (AlertCall.createOrRetainAlert request).key = (batteryId, alertType)) :
    last.LatestOpen batteryId alertType := by
  obtain ⟨-, -, duty, -, stays⟩ := once.run_induction
    (fun labels server => server.SoleClearer idle batteryId alertType ∧
      server.RaisedStaysOpen batteryId alertType labels)
    run completed
    ⟨soleClearer_ofDatabase db programs idle batteryId alertType, by simp [RaisedStaysOpen]⟩
    (by
      rintro labels server session event after sound follows quiet ended duty proceeds
        ⟨sole, stays⟩ effect
      refine ⟨sole.step duty ?_ sound follows proceeds effect,
        stays.step sole quiet (ended idle isIdle) sound proceeds effect⟩
      exact fun session resolvedAt resolves => absurd resolves (noClearer session resolvedAt))
  obtain ⟨battery, type⟩ := Prod.mk.inj keyed
  exact stays raiser request (duty.made_of_finished finished raises) battery type

theorem CallsOnce.closed_of_all_clear (once : CallsOnce call batteryId alertType programs)
    (run : Trace (Step settings) (ofDatabase db programs) labels last)
    (completed : ∀ label ∈ labels, label.2 ≠ .failed)
    (noRaiser : ∀ session request, call session ≠ some (.createOrRetainAlert request))
    {clearer : SessionId} (finished : last.Finished clearer) {resolvedAt : Timestamp}
    (clears : call clearer = some (.resolveAlertIfActive batteryId alertType resolvedAt)) :
    ¬ last.LatestOpen batteryId alertType := by
  obtain ⟨quiet, -, duty, cleared⟩ := once.run_induction
    (fun labels server => server.OnlyCleared batteryId alertType labels) run completed
    ⟨fun _ _ _ held => (by cases held), fun _ _ member => (by cases member)⟩
    (by
      intro labels server session event after sound follows quiet ended duty proceeds cleared effect
      exact cleared.step duty noRaiser sound proceeds effect)
  intro isOpen
  obtain ⟨entry, due, -⟩ := cleared.selected clearer resolvedAt
    (duty.made_of_finished finished clears) isOpen
  rw [quiet.clean clearer finished] at due
  cases due

/-- With one raiser and one clearer the last of their two writes decides. -/
theorem CallsOnce.open_iff_not_overwritten (once : CallsOnce call batteryId alertType programs)
    (run : Trace (Step settings) (ofDatabase db programs) labels last)
    (completed : ∀ label ∈ labels, label.2 ≠ .failed) {raiser clearer : SessionId}
    (onlyRaiser : ∀ session request, call session = some (.createOrRetainAlert request) →
      session = raiser)
    (onlyClearer : ∀ session resolvedAt,
      call session = some (.resolveAlertIfActive batteryId alertType resolvedAt) →
        session = clearer)
    (finished : last.Finished raiser) {request : AlertRequest}
    (raises : call raiser = some (.createOrRetainAlert request))
    (keyed : (AlertCall.createOrRetainAlert request).key = (batteryId, alertType)) :
    last.LatestOpen batteryId alertType ↔
      ¬ last.Overwrites labels raiser clearer batteryId alertType := by
  obtain ⟨-, -, duty, -, decides⟩ := once.run_induction
    (fun labels server => server.SoleClearer clearer batteryId alertType ∧
      server.LastWriteDecides raiser clearer batteryId alertType labels)
    run completed
    ⟨soleClearer_ofDatabase db programs clearer batteryId alertType,
      by rintro ⟨_, -, -, member⟩; cases member⟩
    (by
      rintro labels server session event after sound follows quiet ended duty proceeds
        ⟨sole, decides⟩ effect
      exact ⟨sole.step duty onlyClearer sound follows proceeds effect,
        decides.step duty sole onlyRaiser sound proceeds effect⟩)
  obtain ⟨battery, type⟩ := Prod.mk.inj keyed
  exact decides ⟨request, battery, type, duty.made_of_finished finished raises⟩

end Runs

end Server

/-! ### Two batches -/

/-- The code of two batch requests, session 0 with the older reading and session 1
with the newer one; the others are idle. -/
def overlappingBatches (settings : Settings) (batteries : Table Battery Battery.batteryId)
    (older newer : List Telemetry × List TelemetryEvent) : SessionId → List Statement
  | 0 => batchIngestion settings older.1 batteries older.2
  | 1 => batchIngestion settings newer.1 batteries newer.2
  | _ => []

/-- The rules agree on the two readings, or the newer request writes last: its
`UPDATE` of the alert comes after the older one's upsert, or the older one's
does not come after its own upsert. -/
def Server.NewerWritesLast (server : Server) (labels : List Label) (batteryId : BatteryId)
    (alertType : AlertType) (older newer : AlertCall) : Prop :=
  (older.opens = none ↔ newer.opens = none) ∨
    (newer.opens = none ∧ server.Overwrites labels 0 1 batteryId alertType) ∨
    (newer.opens ≠ none ∧ ¬ server.Overwrites labels 1 0 batteryId alertType)

section Batches

variable {settings : Settings} {telemetry : List Telemetry}
  {batteries : Table Battery Battery.batteryId} {events : List TelemetryEvent}
  {batteryId : BatteryId} {battery : Battery} {alertType : AlertType} {event : TelemetryEvent}

/-- A batch makes one call about each key of a battery it has a reading of. -/
theorem callAbout_batchIngestion (known : batteries.lookup batteryId = some battery)
    (newest : newestEvent events batteryId = some event) :
    (batchIngestion settings telemetry batteries events).filterMap
        (Statement.callAbout batteryId alertType) =
      (ruleCall settings telemetry battery event alertType).toList := by
  have only := sortedLatest_filter events batteryId
  rw [newest, Option.toList_some] at only
  have stores : ∀ latest : List TelemetryEvent,
      (latest.map fun event => Statement.upsertCurrentState event.toCurrentState).filterMap
        (Statement.callAbout batteryId alertType) = [] := by
    intro latest
    simp [List.filterMap_eq_nil_iff, Statement.callAbout]
  have commits : [Statement.commit].filterMap (Statement.callAbout batteryId alertType) = [] := rfl
  have calls : Statement.callAbout batteryId alertType ∘ Statement.alert =
      Option.guard fun call => decide (call.key = (batteryId, alertType)) := by
    funext call
    simp [Statement.callAbout, Option.guard]
  rw [← rulePassCalls_filter only known, ← List.filterMap_eq_filter, ← calls]
  simp only [batchIngestion, List.filterMap_append, stores, commits, List.filterMap_map,
    List.nil_append, List.append_nil]

theorem batchIngestion_ends {early : List Statement} {last : Statement}
    (split : batchIngestion settings telemetry batteries events = early ++ [last]) :
    last.Ends := by
  obtain rfl := List.singleton_inj.mp (List.append_inj' split rfl).2
  trivial

/-- The pointwise rules abstain, if at all, because of the battery. -/
theorem ruleCall_pointwise_isSome (pointwise : alertType.Pointwise)
    (other : List Telemetry) (first second : TelemetryEvent) :
    (ruleCall settings telemetry battery first alertType).isSome =
      (ruleCall settings other battery second alertType).isSome := by
  have sign : ∀ event : TelemetryEvent,
      expectedVoltage battery.nominalVoltage event.stateOfCharge ≤ 0 ↔
        battery.nominalVoltage ≤ 0 := by
    intro event
    have charge := event.stateOfChargeBounds.1
    have factor : (0 : ℚ) < 9 / 10 + 2 / 10 * (event.stateOfCharge / 100) := by positivity
    rw [expectedVoltage, ← not_lt, ← not_lt, mul_pos_iff_of_pos_right factor]
  rcases pointwise with rfl | rfl | rfl
  · rfl
  · rfl
  · simp only [ruleCall, evaluateVoltageAnomaly, sign]
    split <;> rfl

variable {older newer : List Telemetry × List TelemetryEvent}
  {olderEvent newerEvent : TelemetryEvent} {olderCall newerCall : AlertCall}

/-- The calls of the two requests about one key. -/
def overlappingCalls (olderCall newerCall : AlertCall) : SessionId → Option AlertCall
  | 0 => some olderCall
  | 1 => some newerCall
  | _ => none

theorem callsOnce_overlappingBatches (known : batteries.lookup batteryId = some battery)
    (isOlder : newestEvent older.2 batteryId = some olderEvent)
    (isNewer : newestEvent newer.2 batteryId = some newerEvent)
    (olderMade : ruleCall settings older.1 battery olderEvent alertType = some olderCall)
    (newerMade : ruleCall settings newer.1 battery newerEvent alertType = some newerCall) :
    Server.CallsOnce (overlappingCalls olderCall newerCall) batteryId alertType
      (overlappingBatches settings batteries older newer) where
  automatic session alertId now := by
    rcases session with _ | _ | _ <;> simp [overlappingBatches, batchIngestion]
  noDetector session clock := by
    rcases session with _ | _ | _ <;> simp [overlappingBatches, batchIngestion]
  ends session early last split := by
    rcases session with _ | _ | _
    · exact batchIngestion_ends split
    · exact batchIngestion_ends split
    · simp [overlappingBatches] at split
  calls session := by
    rcases session with _ | _ | _
    · exact (callAbout_batchIngestion known isOlder).trans (by rw [olderMade]; rfl)
    · exact (callAbout_batchIngestion known isNewer).trans (by rw [newerMade]; rfl)
    · rfl

/-- One key of two overlapping batches. -/
theorem open_after_overlap_iff {db : Database} {labels : List Label} {last : Server}
    (known : db.batteries.lookup batteryId = some battery)
    (isOlder : newestEvent older.2 batteryId = some olderEvent)
    (isNewer : newestEvent newer.2 batteryId = some newerEvent)
    (olderMade : ruleCall settings older.1 battery olderEvent alertType = some olderCall)
    (newerMade : ruleCall settings newer.1 battery newerEvent alertType = some newerCall)
    (run : Trace (Server.Step settings)
      (Server.ofDatabase db (overlappingBatches settings db.batteries older newer)) labels last)
    (completed : ∀ label ∈ labels, label.2 ≠ .failed)
    (olderDone : last.Finished 0) (newerDone : last.Finished 1) :
    (last.CommittedOpen batteryId alertType ↔ newerCall.opens ≠ none) ↔
      last.NewerWritesLast labels batteryId alertType olderCall newerCall := by
  have once := callsOnce_overlappingBatches known isOlder isNewer olderMade newerMade
  have olderKey := ruleCall_key olderMade
  have newerKey := ruleCall_key newerMade
  rw [(newestEvent_batteryId isOlder).2] at olderKey
  rw [(newestEvent_batteryId isNewer).2] at newerKey
  obtain ⟨quiet, idle, -⟩ := once.run_induction (fun _ _ => True) run completed trivial
    (fun _ _ _ _ _ _ _ _ _ _ _ _ _ => trivial)
  have finished : ∀ session, last.Finished session := by
    intro session
    rcases session with _ | _ | session
    · exact olderDone
    · exact newerDone
    · exact idle (session + 2) rfl
  rw [quiet.committedOpen_iff finished]
  have calls : ∀ session call, overlappingCalls olderCall newerCall session = some call →
      session = 0 ∧ call = olderCall ∨ session = 1 ∧ call = newerCall := by
    intro session call makes
    rcases session with _ | _ | session
    · exact Or.inl ⟨rfl, (Option.some.inj makes).symm⟩
    · exact Or.inr ⟨rfl, (Option.some.inj makes).symm⟩
    · cases makes
  have isIdle : overlappingBatches settings db.batteries older newer 2 = [] := rfl
  cases olderCall with
  | createOrRetainAlert olderRequest =>
      cases newerCall with
      | createOrRetainAlert newerRequest =>
          have isOpen : last.LatestOpen batteryId alertType := by
            apply once.open_of_all_raise run completed ?_ isIdle newerDone rfl newerKey
            intro session resolvedAt makes
            rcases calls session _ makes with ⟨-, same⟩ | ⟨-, same⟩ <;> cases same
          simp [isOpen, AlertCall.opens, Server.NewerWritesLast]
      | resolveAlertIfActive battery type resolvedAt =>
          have decided : last.LatestOpen batteryId alertType ↔
              ¬ last.Overwrites labels 0 1 batteryId alertType := by
            apply once.open_iff_not_overwritten run completed ?_ ?_ olderDone rfl olderKey
            · intro session request makes
              rcases calls session _ makes with ⟨same, -⟩ | ⟨-, same⟩
              · exact same
              · cases same
            · intro session resolvedAt makes
              rcases calls session _ makes with ⟨-, same⟩ | ⟨same, -⟩
              · cases same
              · exact same
          simp [decided, AlertCall.opens, Server.NewerWritesLast]
  | resolveAlertIfActive battery type resolvedAt =>
      cases newerCall with
      | createOrRetainAlert newerRequest =>
          have decided : last.LatestOpen batteryId alertType ↔
              ¬ last.Overwrites labels 1 0 batteryId alertType := by
            apply once.open_iff_not_overwritten run completed ?_ ?_ newerDone rfl newerKey
            · intro session request makes
              rcases calls session _ makes with ⟨-, same⟩ | ⟨same, -⟩
              · cases same
              · exact same
            · intro session resolvedAt makes
              rcases calls session _ makes with ⟨same, -⟩ | ⟨-, same⟩
              · exact same
              · cases same
          simp [decided, AlertCall.opens, Server.NewerWritesLast]
      | resolveAlertIfActive newerBattery newerType newerResolvedAt =>
          obtain ⟨rfl, rfl⟩ := Prod.mk.inj newerKey
          have closed : ¬ last.LatestOpen newerBattery newerType := by
            apply once.closed_of_all_clear run completed ?_ newerDone rfl
            intro session request makes
            rcases calls session _ makes with ⟨-, same⟩ | ⟨-, same⟩ <;> cases same
          simp [closed, AlertCall.opens, Server.NewerWritesLast]

end Batches

/-- The committed pointwise alerts of the battery are open or closed as the rules
say for the reading. -/
def Server.FollowsRules (settings : Settings) (telemetry : List Telemetry) (battery : Battery)
    (event : TelemetryEvent) (server : Server) : Prop :=
  ∀ alertType call, alertType.Pointwise →
    ruleCall settings telemetry battery event alertType = some call →
      (server.CommittedOpen event.batteryId alertType ↔ call.opens ≠ none)

/-- For each of the three types, the rules agree on the two readings or the newer
request writes last. -/
def Server.WritesInOrder (settings : Settings) (battery : Battery)
    (older newer : List Telemetry × TelemetryEvent) (labels : List Label) (server : Server) :
    Prop :=
  ∀ alertType olderCall newerCall, alertType.Pointwise →
    ruleCall settings older.1 battery older.2 alertType = some olderCall →
      ruleCall settings newer.1 battery newer.2 alertType = some newerCall →
        server.NewerWritesLast labels newer.2.batteryId alertType olderCall newerCall

/-- Two batch requests with readings of one battery, in every interleaving that
ends with both finished without error: the alerts are what the rules say for the
newer reading exactly if the writes are in order. -/
theorem overlapping_batches_iff (settings : Settings) (db : Database) {batteryId : BatteryId}
    {battery : Battery} (known : db.batteries.lookup batteryId = some battery)
    (older newer : List Telemetry × List TelemetryEvent) {olderEvent newerEvent : TelemetryEvent}
    (isOlder : newestEvent older.2 batteryId = some olderEvent)
    (isNewer : newestEvent newer.2 batteryId = some newerEvent) {labels : List Label}
    {last : Server}
    (run : Trace (Server.Step settings)
      (Server.ofDatabase db (overlappingBatches settings db.batteries older newer)) labels last)
    (completed : ∀ label ∈ labels, label.2 ≠ .failed)
    (olderDone : last.Finished 0) (newerDone : last.Finished 1) :
    last.FollowsRules settings newer.1 battery newerEvent ↔
      last.WritesInOrder settings battery (older.1, olderEvent) (newer.1, newerEvent) labels := by
  obtain rfl := (newestEvent_batteryId isNewer).2
  constructor
  · intro follows alertType olderCall newerCall pointwise olderMade newerMade
    exact (open_after_overlap_iff known isOlder isNewer olderMade newerMade run completed olderDone
      newerDone).mp (follows alertType newerCall pointwise newerMade)
  · intro ordered alertType newerCall pointwise newerMade
    have both := @ruleCall_pointwise_isSome settings older.1 battery alertType pointwise newer.1
      olderEvent newerEvent
    rw [newerMade] at both
    obtain ⟨olderCall, olderMade⟩ := Option.isSome_iff_exists.mp both
    exact (open_after_overlap_iff known isOlder isNewer olderMade newerMade run completed olderDone
      newerDone).mpr (ordered alertType olderCall newerCall pointwise olderMade newerMade)

/-- A low reading and, a second later, a healthy one, in a batch each. -/
def lowThenHealthy : SessionId → List Statement :=
  overlappingBatches Settings.default sampleBatteries ([], [sampleEvent 1 0 15])
    ([], [sampleEvent 2 1000000 50])

/-- One batch after the other. -/
def inTurn : List (SessionId × Action) :=
  List.replicate 7 (0, .proceed) ++ List.replicate 3 (1, .proceed) ++ [(1, .flush 0 1000000)] ++
    List.replicate 3 (1, .proceed) ++ [(1, .flush 1 1000000), (1, .proceed)]

theorem inTurn_writes_in_order :
    ∃ battery labels last, sampleBatteries.lookup sampleBatteryId = some battery ∧
      Server.play Settings.default inTurn
        (Server.ofDatabase (Database.registered sampleBatteries) lowThenHealthy) =
          some (labels, last) ∧
      (last.FollowsRules Settings.default [] battery (sampleEvent 2 1000000 50) ↔
        last.WritesInOrder Settings.default battery ([], sampleEvent 1 0 15)
          ([], sampleEvent 2 1000000 50) labels) := by
  have plays : ((Server.play Settings.default inTurn
      (Server.ofDatabase (Database.registered sampleBatteries) lowThenHealthy)).map fun played =>
        (played.1.all (fun label => label.2 ≠ .failed), (played.2.sessions 0).todo,
          (played.2.sessions 1).todo)) = some (true, [], []) := by decide +kernel
  have registered : (sampleBatteries.lookup sampleBatteryId).isSome = true := by decide +kernel
  obtain ⟨battery, known⟩ := Option.isSome_iff_exists.mp registered
  obtain ⟨⟨labels, last⟩, played, observed⟩ := Option.map_eq_some_iff.mp plays
  simp only [Prod.mk.injEq] at observed
  obtain ⟨completed, olderDone, newerDone⟩ := observed
  refine ⟨battery, labels, last, known, played, ?_⟩
  apply overlapping_batches_iff Settings.default (Database.registered sampleBatteries) known
    ([], [sampleEvent 1 0 15]) ([], [sampleEvent 2 1000000 50]) (by decide +kernel)
    (by decide +kernel) (Server.trace_of_play played) ?_ olderDone newerDone
  simpa using completed

/-- The newer batch runs as a whole between the two transactions of the older
one. -/
def olderPassLast : List (SessionId × Action) :=
  List.replicate 2 (0, .proceed) ++ List.replicate 7 (1, .proceed) ++ List.replicate 5 (0, .proceed)

/-- The older rule pass comes last and raises the alert for a battery whose
newest reading is healthy. -/
theorem older_rule_pass_last :
    ¬ ∀ (older newer : TelemetryEvent) (labels : List Label) (last : Server),
      older.batteryId = sampleBatteryId → newer.batteryId = sampleBatteryId →
      older.timestamp < newer.timestamp →
      Trace (Server.Step Settings.default)
        (Server.ofDatabase (Database.registered sampleBatteries)
          (overlappingBatches Settings.default sampleBatteries ([], [older]) ([], [newer])))
        labels last →
      (∀ label ∈ labels, label.2 ≠ .failed) → last.Finished 0 → last.Finished 1 →
        (last.CommittedOpen sampleBatteryId .lowSoc ↔
          lowSocGrade Settings.default newer.stateOfCharge ≠ none) := by
  intro follows
  have plays : ((Server.play Settings.default olderPassLast
      (Server.ofDatabase (Database.registered sampleBatteries) lowThenHealthy)).map fun played =>
        (played.1.all (fun label => label.2 ≠ .failed), (played.2.sessions 0).todo,
          (played.2.sessions 1).todo, (played.2.alerts.cells 0).committed.map fun alert =>
            decide (alert.OpenFor sampleBatteryId .lowSoc))) =
      some (true, [], [], some true) := by decide +kernel
  obtain ⟨⟨labels, last⟩, played, observed⟩ := Option.map_eq_some_iff.mp plays
  simp only [Prod.mk.injEq] at observed
  obtain ⟨completed, olderDone, newerDone, alertOpen⟩ := observed
  obtain ⟨alert, committed, isOpen⟩ := Option.map_eq_some_iff.mp alertOpen
  have raised := (follows (sampleEvent 1 0 15) (sampleEvent 2 1000000 50) labels last rfl rfl
    (by decide) (Server.trace_of_play played) (by simpa using completed) olderDone newerDone).mp
    ⟨0, alert, committed, of_decide_eq_true isOpen⟩
  exact absurd raised (by decide +kernel)

end VoltStream.Backend
