/-
Module: VoltStream.Proofs.AlertsFreshness
Purpose: What the alerts page shows over every run of the page and of any sessions behind
  it: alerts of the filters that are chosen, and none as unresolved that the operator has
  been told is resolved.
Trusted boundary: human-reviewed statement of what the page shows
  (`Console.ShowsResolutions`)
Main exports: Server.Resolving, Server.Resolving.of_self, Console.Consistent,
  Console.consistent_of_run, Console.ShowsResolutions, Console.shows_resolutions
-/
import VoltStream.Frontend.AlertsPage
import VoltStream.Proofs.AlertInterleaving
import VoltStream.Proofs.AsyncState
import VoltStream.Proofs.LatestVersions

namespace VoltStream.Backend.Server

open Relational Frontend

variable {settings : Settings} {server after : Server} {session holder : SessionId} {event : Event}
  {alertId : Uuid} {now : Timestamp}

/-- A step leaves the uncommitted versions of the other sessions alone. -/
theorem Effect.pending_of_ne (sound : server.alerts.Sound Alert.indexEntry)
    (effect : server.Effect settings session event after) (other : holder ≠ session)
    {alert : Alert} :
    (after.alerts.cells alertId).pending = some (holder, alert) ↔
      (server.alerts.cells alertId).pending = some (holder, alert) := by
  have written : ∀ (placed : Uuid) (version : Alert),
      (server.alerts.cells placed).lockedAgainst session = false →
        (((server.alerts.write session placed version).cells alertId).pending =
            some (holder, alert) ↔
          (server.alerts.cells alertId).pending = some (holder, alert)) := by
    intro placed version free
    constructor
    · intro held
      rcases pending_write held with ⟨own, -⟩ | old
      · exact absurd own other
      · exact old
    · intro held
      have elsewhere : alertId ≠ placed := by
        rintro rfl
        exact other (Cell.holder_of_free free held)
      exact (congrArg Cell.pending (Function.update_of_ne elsewhere ..)).trans held
  cases effect with
  | stored => exact Iff.rfl
  | raised code calm places isOpen => exact written _ _ (places.free sound)
  | selectedNone => exact Iff.rfl
  | selectedSome => exact Iff.rfl
  | fetchedOpen => exact Iff.rfl
  | fetchedDone => exact Cell.pending_rollback.trans (and_iff_left other)
  | lockedStale => exact Iff.rfl
  | marked => exact Iff.rfl
  | flushed due free seen => exact written _ _ free
  | flushedNone => exact Iff.rfl
  | committed => exact Cell.pending_commit.trans (and_iff_left other)
  | failed => exact Cell.pending_rollback.trans (and_iff_left other)

/-- The committed version of the alert is resolved. -/
def ResolvedIn (server : Server) (alertId : Uuid) : Prop :=
  ∃ alert, (server.alerts.cells alertId).committed = some alert ∧ alert.resolved = true

/-- It stays so. -/
theorem ResolvedIn.step (resolved : server.ResolvedIn alertId)
    (follows : server.alerts.Follows Alert.Evolves)
    (effect : server.Effect settings session event after) : after.ResolvedIn alertId := by
  obtain ⟨alert, present, isResolved⟩ := resolved
  obtain ⟨later, isLater, evolves⟩ := effect.committed_evolves follows present
  exact ⟨later, isLater, (evolves.frozen isResolved).1⟩

/-- How far a session is that runs `resolve_alert`, and what holds of its alert then. -/
inductive Resolving (server : Server) (session : SessionId) (alertId : Uuid) (now : Timestamp) :
    Prop where
  | untouched (code : server.sessions session = ⟨manualResolution alertId now, []⟩)
      (idle : ∀ id alert, (server.alerts.cells id).pending ≠ some (session, alert))
  | loaded (code : server.sessions session = ⟨[.commit], [(alertId, now)]⟩)
      (present : ∃ alert, (server.alerts.cells alertId).committed = some alert)
  | written (code : server.sessions session = ⟨[.commit], []⟩)
      (held : ∃ alert, (server.alerts.cells alertId).pending = some (session, alert) ∧
        alert.resolved = true)
  | ended (code : server.sessions session = ⟨[], []⟩)

/-- A step of another session. -/
theorem Resolving.of_ne (phase : server.Resolving holder alertId now)
    (sound : server.alerts.Sound Alert.indexEntry)
    (follows : server.alerts.Follows Alert.Evolves)
    (effect : server.Effect settings session event after) (other : holder ≠ session) :
    after.Resolving holder alertId now := by
  have same := effect.sessions_of_ne other
  cases phase with
  | untouched code idle =>
      refine .untouched (same.trans code) fun id alert held => idle id alert ?_
      exact (effect.pending_of_ne sound other).mp held
  | loaded code present =>
      obtain ⟨alert, isPresent⟩ := present
      obtain ⟨later, isLater, -⟩ := effect.committed_evolves follows isPresent
      exact .loaded (same.trans code) ⟨later, isLater⟩
  | written code held =>
      obtain ⟨alert, isHeld, resolved⟩ := held
      exact .written (same.trans code)
        ⟨alert, (effect.pending_of_ne sound other).mpr isHeld, resolved⟩
  | ended code => exact .ended (same.trans code)

theorem resume_sessions (todo : List Statement) (dirty : List (Uuid × Timestamp)) :
    (server.resume session todo dirty).sessions session = ⟨todo, dirty⟩ := Function.update_self ..

theorem rollback_sessions : (server.rollback session).sessions session = ⟨[], []⟩ :=
  Function.update_self ..

/-- A step of the session itself: the alert is resolved once `resolve_alert` returns. -/
theorem Resolving.of_self (phase : server.Resolving session alertId now)
    (effect : server.Effect settings session event after) :
    after.Resolving session alertId now ∧
      (returnsWith server session event = true → after.ResolvedIn alertId) := by
  cases phase with
  | untouched code idle =>
      have unwritten : (server.alerts.cells alertId).view session =
          (server.alerts.cells alertId).committed := Cell.view_of_not_holder (idle alertId)
      cases effect with
      | fetchedOpen isCode seen unresolved =>
          rw [code] at isCode
          cases isCode
          refine ⟨.loaded ?_ ⟨_, unwritten.symm.trans seen⟩, fun returned => ?_⟩
          · rw [resume_sessions, code]
            rfl
          · rw [returnsWith, seen, Option.any_some, unresolved] at returned
            exact absurd returned Bool.false_ne_true
      | fetchedDone isCode nothingOpen =>
          rw [code] at isCode
          cases isCode
          refine ⟨.ended rollback_sessions, fun returned => ?_⟩
          obtain ⟨alert, seen, resolved⟩ := (Option.any_eq_true ..).mp returned
          exact ⟨alert, (Cell.committed_rollback ..).trans (unwritten.symm.trans seen), resolved⟩
      | failed => exact ⟨.ended rollback_sessions, nofun⟩
      | flushed due => simp [code] at due
      | flushedNone due => simp [code] at due
      | _ isCode => simp [code, manualResolution] at isCode
  | loaded code present =>
      cases effect with
      | @flushed _ _ alert due free seen =>
          rw [code, List.mem_singleton] at due
          cases due
          refine ⟨.written ?_ ⟨alert.resolve now, ?_, rfl⟩, nofun⟩
          · simp [resume_sessions, code]
          · change (Function.update server.alerts.cells alertId _ alertId).pending = _
            rw [Function.update_self]
            rfl
      | flushedNone due free gone =>
          rw [code, List.mem_singleton] at due
          cases due
          obtain ⟨alert, isPresent⟩ := present
          obtain ⟨seen, isSeen⟩ := Cell.outcome_isSome_of_committed isPresent
            fun other => other = session
          exact absurd (gone.symm.trans isSeen) nofun
      | failed => exact ⟨.ended rollback_sessions, nofun⟩
      | committed isCode clean => simp [code] at clean
      | _ isCode => simp [code] at isCode
  | written code held =>
      cases effect with
      | committed isCode clean =>
          rw [code] at isCode
          cases isCode
          refine ⟨.ended (Function.update_self ..), fun _ => ?_⟩
          obtain ⟨alert, isHeld, resolved⟩ := held
          refine ⟨alert, ?_, resolved⟩
          exact congrArg Cell.committed (Cell.commit_of_holder isHeld)
      | failed => exact ⟨.ended rollback_sessions, nofun⟩
      | flushed due => simp [code] at due
      | flushedNone due => simp [code] at due
      | _ isCode => simp [code] at isCode
  | ended code =>
      cases effect with
      | failed => exact ⟨.ended rollback_sessions, nofun⟩
      | flushed due => simp [code] at due
      | flushedNone due => simp [code] at due
      | _ isCode => simp [code] at isCode

end VoltStream.Backend.Server

namespace VoltStream.Frontend.Console

open Relational Backend

variable {settings : Settings} {programs : SessionId → List Statement}
  {before after console : Console}

/-- The page has been told that the alert is resolved. -/
def Told (console : Console) (alertId : Uuid) : Prop :=
  ∃ call ∈ console.calls, call.answered = some true ∧ call.alertId = alertId

/-- What is known of the server and of the requests of `handleResolve`. -/
structure Backed (programs : SessionId → List Statement) (console : Console) : Prop where
  sound : console.server.alerts.Sound Alert.indexEntry
  formed : console.server.alerts.Every Alert.WellFormed
  follows : console.server.alerts.Follows Alert.Evolves
  resolving : ∀ session alertId now, programs session = manualResolution alertId now →
    console.server.Resolving session alertId now
  serving : ∀ call ∈ console.calls, ∃ now, programs call.session = manualResolution call.alertId now
  returned : ∀ call ∈ console.calls, call.returned = true → console.server.ResolvedIn call.alertId
  answered : ∀ call ∈ console.calls, call.answered = some true → call.returned = true

/-- A request of the hook for these dependencies has this response. -/
def Lists (console : Console) (deps : AlertFilters × Nat) (response : AlertListResponse) : Prop :=
  ∃ fetch : Nat, console.hook.asked[fetch]? = some deps ∧
    console.listings[fetch]? = some (.listed response)

/-- What is known of the requests of the hook, of which there is one for each run of its
effect: a response holds alerts that its filters select, and the response to a request for
the current `refreshKey` no unresolved one that the page has been told is resolved. -/
structure Listed (console : Console) : Prop where
  length : console.listings.length = console.hook.asked.length
  committed : console.hook.deps.2 ≤ console.page.refreshKey
  keys : ∀ deps ∈ console.hook.asked, deps.2 ≤ console.page.refreshKey
  selected : ∀ deps response, console.Lists deps response →
    ∀ alert ∈ response.alerts, deps.1.selects alert = true
  fresh : ∀ deps response, console.Lists deps response → deps.2 = console.page.refreshKey →
    ∀ alert ∈ response.alerts, console.Told alert.alertId → alert.resolved = true

/-- The answers that the hook has had are the responses to its requests. -/
def Answered (console : Console) : Prop :=
  ∃ history, Trace Async.Step (Async.mount (AlertsPage.deps {})) history console.hook ∧
    ∀ fetch response, .settle fetch (.resolved response) ∈ history →
      console.listings[fetch]? = some (.listed response)

/-- What every step keeps. -/
structure Consistent (programs : SessionId → List Statement) (console : Console) : Prop where
  backed : console.Backed programs
  listed : console.Listed
  answered : console.Answered

/-! ### The server -/

theorem Backed.told (backed : console.Backed programs) {alertId : Uuid}
    (told : console.Told alertId) : console.server.ResolvedIn alertId := by
  obtain ⟨call, inCalls, answered, rfl⟩ := told
  exact backed.returned call inCalls (backed.answered call inCalls answered)

/-- The committed alerts that a query of `list_alerts` reads are the versions of their ids. -/
theorem Backed.committed_of_selected (backed : console.Backed programs) {filters : AlertFilters}
    {alert : Alert} (selected : alert ∈ selectedAlerts console.server filters) :
    (console.server.alerts.cells alert.alertId).committed = some alert ∧
      filters.selects alert = true := by
  obtain ⟨inRows, selects⟩ := List.mem_filter.mp selected
  obtain ⟨alertId, -, committed⟩ := List.mem_filterMap.mp inRows
  have own := (backed.formed alertId (fun _ => false) alert
    ((Cell.outcome_none _).trans committed)).ownId
  exact ⟨own ▸ committed, selects⟩

/-- What a query of `list_alerts` reads does not have an alert as unresolved that the page
has been told is resolved. -/
theorem Backed.resolved_of_selected (backed : console.Backed programs) {filters : AlertFilters}
    {alert : Alert} (selected : alert ∈ selectedAlerts console.server filters)
    (told : console.Told alert.alertId) : alert.resolved = true := by
  obtain ⟨current, isCurrent, resolved⟩ := backed.told told
  have same := (backed.committed_of_selected selected).1.symm.trans isCurrent
  rw [Option.some.inj same]
  exact resolved

theorem Told.afterEvent {server : Server} {session : SessionId} {event : Event} {alertId : Uuid}
    (told : Told { console with
      server := server, calls := console.afterEvent session event } alertId) :
    console.Told alertId := by
  obtain ⟨call, inCalls, answered, rfl⟩ := told
  obtain ⟨old, inOld, rfl⟩ := List.mem_map.mp inCalls
  refine ⟨old, inOld, ?_⟩
  split at answered
  · rename_i own
    exact ⟨answered, by rw [if_pos own]⟩
  · rename_i other
    exact ⟨answered, by rw [if_neg other]⟩

/-- A step of the server. -/
theorem Backed.server (backed : console.Backed programs) {session : SessionId} {event : Event}
    {server : Server} (effect : console.server.Effect settings session event server) :
    Backed programs { console with
      server := server, calls := console.afterEvent session event } where
  sound := effect.sound backed.sound
  formed := effect.wellFormed backed.sound backed.formed
  follows := effect.follows backed.sound backed.follows
  resolving holder alertId now isProgram := by
    have phase := backed.resolving holder alertId now isProgram
    by_cases own : holder = session
    · subst own
      exact (phase.of_self effect).1
    · exact phase.of_ne backed.sound backed.follows effect own
  serving call inCalls := by
    obtain ⟨old, inOld, rfl⟩ := List.mem_map.mp inCalls
    obtain ⟨now, isProgram⟩ := backed.serving old inOld
    refine ⟨now, ?_⟩
    split <;> exact isProgram
  returned call inCalls := by
    obtain ⟨old, inOld, rfl⟩ := List.mem_map.mp inCalls
    have kept : old.returned = true → server.ResolvedIn old.alertId := fun returned =>
      (backed.returned old inOld returned).step backed.follows effect
    split
    · rename_i own
      intro returned
      rcases Bool.or_eq_true_iff.mp returned with before | now
      · exact kept before
      · obtain ⟨time, isProgram⟩ := backed.serving old inOld
        have phase := backed.resolving old.session old.alertId time isProgram
        rw [own] at phase
        exact (phase.of_self effect).2 now
    · exact kept
  answered call inCalls := by
    obtain ⟨old, inOld, rfl⟩ := List.mem_map.mp inCalls
    have known := backed.answered old inOld
    split
    · exact fun answered => Bool.or_eq_true_iff.mpr (Or.inl (known answered))
    · exact known

/-- A move that leaves the server alone. -/
theorem Backed.of_calls (backed : before.Backed programs) (server : after.server = before.server)
    (calls : ∀ call ∈ after.calls,
      (∃ now, programs call.session = manualResolution call.alertId now) ∧
        (call.returned = true → before.server.ResolvedIn call.alertId) ∧
        (call.answered = some true → call.returned = true)) : after.Backed programs where
  sound := server ▸ backed.sound
  formed := server ▸ backed.formed
  follows := server ▸ backed.follows
  resolving := server ▸ backed.resolving
  serving call inCalls := (calls call inCalls).1
  returned := by
    rw [server]
    exact fun call inCalls => (calls call inCalls).2.1
  answered call inCalls := (calls call inCalls).2.2

/-- A move that leaves the requests of `handleResolve` alone as well. -/
theorem Backed.of_same (backed : before.Backed programs) (server : after.server = before.server)
    (calls : after.calls = before.calls) : after.Backed programs := by
  refine backed.of_calls server fun call inCalls => ?_
  rw [calls] at inCalls
  exact ⟨backed.serving call inCalls, backed.returned call inCalls, backed.answered call inCalls⟩

/-! ### The requests of the hook -/

/-- A move that leaves `refreshKey` alone and tells the page nothing; a response that is
new with it has been read after what the page had been told. -/
theorem Listed.of_lists (listed : before.Listed)
    (length : after.listings.length = after.hook.asked.length)
    (committed : after.hook.deps.2 ≤ before.page.refreshKey)
    (keys : ∀ deps ∈ after.hook.asked, deps ∈ before.hook.asked ∨ deps = before.hook.deps)
    (sameKey : after.page.refreshKey = before.page.refreshKey)
    (told : ∀ alertId, after.Told alertId → before.Told alertId)
    (lists : ∀ deps response, after.Lists deps response → before.Lists deps response ∨
      ∀ alert ∈ response.alerts, deps.1.selects alert = true ∧
        (before.Told alert.alertId → alert.resolved = true)) : after.Listed where
  length := length
  committed := sameKey ▸ committed
  keys deps isAsked := by
    rw [sameKey]
    rcases keys deps isAsked with old | rfl
    · exact listed.keys deps old
    · exact listed.committed
  selected deps response isListed alert inAlerts := by
    rcases lists deps response isListed with old | new
    · exact listed.selected deps response old alert inAlerts
    · exact (new alert inAlerts).1
  fresh deps response isListed current alert inAlerts isTold := by
    rcases lists deps response isListed with old | new
    · exact listed.fresh deps response old (current.trans sameKey) alert inAlerts
        (told alert.alertId isTold)
    · exact (new alert inAlerts).2 (told alert.alertId isTold)

/-- A move that leaves the requests of the hook alone as well. -/
theorem Listed.of_same (listed : before.Listed) (hook : after.hook = before.hook)
    (listings : after.listings = before.listings)
    (sameKey : after.page.refreshKey = before.page.refreshKey)
    (told : ∀ alertId, after.Told alertId → before.Told alertId) : after.Listed := by
  refine listed.of_lists ?_ ?_ ?_ sameKey told fun deps response isListed => Or.inl ?_
  · rw [listings, hook, listed.length]
  · rw [hook]
    exact listed.committed
  · rw [hook]
    exact fun deps isAsked => Or.inl isAsked
  · rwa [Lists, hook, listings] at isListed

/-- A new `refreshKey`, for which there is no request yet. -/
theorem Listed.of_next (listed : before.Listed) (hook : after.hook = before.hook)
    (listings : after.listings = before.listings)
    (nextKey : after.page.refreshKey = before.page.refreshKey + 1) : after.Listed := by
  have same : ∀ deps response, after.Lists deps response → before.Lists deps response := by
    intro deps response isListed
    rwa [Lists, hook, listings] at isListed
  refine ⟨?_, ?_, ?_, ?_, ?_⟩
  · rw [listings, hook, listed.length]
  · rw [hook, nextKey]
    exact Nat.le_succ_of_le listed.committed
  · rw [hook, nextKey]
    exact fun deps isAsked => Nat.le_succ_of_le (listed.keys deps isAsked)
  · exact fun deps response isListed => listed.selected deps response (same deps response isListed)
  · rintro deps response ⟨fetch, isAsked, -⟩ current
    rw [hook] at isAsked
    have below := listed.keys deps (List.mem_of_getElem? isAsked)
    omega

/-- The request of a fetch comes further: what it lists is read now. -/
theorem Listed.set (listed : console.Listed) (backed : console.Backed programs) {fetch : Nat}
    {filters : AlertFilters} (isRequested : console.requested fetch = some filters)
    {listing : Listing}
    (reads : ∀ response, listing = .listed response →
      ∀ alert ∈ response.alerts, alert ∈ selectedAlerts console.server filters) :
    Listed { console with listings := console.listings.set fetch listing } := by
  refine listed.of_lists ?_ listed.committed (fun deps isAsked => Or.inl isAsked) rfl
    (fun _ isTold => isTold) ?_
  · exact (List.length_set ..).trans listed.length
  · rintro deps response ⟨position, isAsked, isListed⟩
    by_cases own : fetch = position
    · subst own
      refine Or.inr fun alert inAlerts => ?_
      have placed : listing = .listed response := by
        have inside : fetch < console.listings.length := by
          have bound := (List.getElem?_eq_some_iff.mp isListed).1
          rwa [List.length_set] at bound
        rw [List.getElem?_set_self inside] at isListed
        exact Option.some.inj isListed
      have selected := reads response placed alert inAlerts
      have sameFilters : deps.1 = filters := by
        rw [Async.asked, List.getElem?_map] at isAsked
        obtain ⟨made, isMade, rfl⟩ := Option.map_eq_some_iff.mp isAsked
        rw [Console.requested, isMade] at isRequested
        exact Option.some.inj isRequested
      exact ⟨sameFilters ▸ (backed.committed_of_selected selected).2,
        backed.resolved_of_selected selected⟩
    · rw [List.getElem?_set_ne own] at isListed
      exact Or.inl ⟨position, isAsked, isListed⟩

/-- The hook goes on, and an answer that it has is the response to a request. -/
theorem Answered.step (answered : before.Answered)
    {move : Async.Move (AlertFilters × Nat) AlertListResponse}
    (step : before.hook.Step move after.hook)
    (kept : ∀ (fetch : Nat) response, before.listings[fetch]? = some (.listed response) →
      after.listings[fetch]? = some (.listed response))
    (settles : ∀ fetch response, move = .settle fetch (.resolved response) →
      after.listings[fetch]? = some (.listed response)) : after.Answered := by
  obtain ⟨history, run, known⟩ := answered
  refine ⟨history ++ [move], run.snoc step, fun fetch response settled => ?_⟩
  rcases List.mem_append.mp settled with early | last
  · exact kept fetch response (known fetch response early)
  · exact settles fetch response (List.mem_singleton.mp last).symm

/-- The hook stays where it is. -/
theorem Answered.of_same (answered : before.Answered) (hook : after.hook = before.hook)
    (kept : ∀ (fetch : Nat) response, before.listings[fetch]? = some (.listed response) →
      after.listings[fetch]? = some (.listed response)) : after.Answered := by
  obtain ⟨history, run, known⟩ := answered
  refine ⟨history, hook ▸ run, fun fetch response settled => ?_⟩
  exact kept fetch response (known fetch response settled)

/-! ### Every step -/

theorem consistent_start (db : Database) (programs : SessionId → List Statement)
    (formed : ∀ alert ∈ db.alerts.rows, alert.resolved = true ↔ alert.resolvedAt ≠ none) :
    (start db programs).Consistent programs where
  backed := by
    have settled : ∀ alertId commits alert,
        ((start db programs).server.alerts.cells alertId).outcome commits = some alert →
          alert ∈ db.alerts.rows ∧ alert.alertId = alertId := fun alertId commits alert left =>
      db.alerts.table.lookup_some_iff.mp left
    refine ⟨Server.sound_ofDatabase db programs, ?_, ?_, ?_, List.forall_mem_nil _,
      List.forall_mem_nil _, List.forall_mem_nil _⟩
    · intro alertId commits alert left
      obtain ⟨stored, ownId⟩ := settled alertId commits alert left
      exact ⟨ownId, formed alert stored⟩
    · intro alertId commits old new committed left
      obtain rfl := Option.some.inj (committed.symm.trans left)
      exact .refl old
    · exact fun session alertId now isProgram =>
        .untouched (congrArg (Session.mk · []) isProgram) fun _ _ => nofun
  listed := by
    refine ⟨rfl, le_rfl, List.forall_mem_nil _, ?_, ?_⟩
    · rintro deps response ⟨fetch, isAsked, -⟩
      exact absurd isAsked nofun
    · rintro deps response ⟨fetch, isAsked, -⟩
      exact absurd isAsked nofun
  answered := ⟨[], .nil _, fun _ _ settled => absurd settled (List.not_mem_nil)⟩

theorem of_withPage {page : AlertsPage} (done : console.withPage page = some after) :
    after = { console with page := page } :=
  (Option.some.inj (Option.ite_none_left_eq_some.mp done).2).symm

/-- A move of the page alone. -/
theorem Consistent.withPage (consistent : before.Consistent programs) {page : AlertsPage}
    (done : before.withPage page = some after)
    (sameKey : page.refreshKey = before.page.refreshKey) : after.Consistent programs := by
  obtain rfl := of_withPage done
  exact ⟨consistent.backed.of_same rfl rfl,
    consistent.listed.of_same rfl rfl sameKey fun _ told => told,
    consistent.answered.of_same rfl fun _ _ isListed => isListed⟩

/-- The page requests that an alert be resolved. -/
theorem Consistent.request (consistent : before.Consistent programs) {alertId : Uuid}
    {session : SessionId} {now : Timestamp}
    (isProgram : programs session = manualResolution alertId now)
    (done : Console.withPage
      { before with calls := before.calls ++ [⟨alertId, session, false, none⟩] }
      (before.page.startResolve alertId) = some after) : after.Consistent programs := by
  obtain rfl := of_withPage done
  have backed := consistent.backed
  refine ⟨backed.of_calls rfl fun call inCalls => ?_, consistent.listed.of_same rfl rfl rfl ?_,
    consistent.answered.of_same rfl fun _ _ isListed => isListed⟩
  · rcases List.mem_append.mp inCalls with old | new
    · exact ⟨backed.serving call old, backed.returned call old, backed.answered call old⟩
    · obtain rfl := List.mem_singleton.mp new
      exact ⟨⟨now, isProgram⟩, nofun, nofun⟩
  · rintro told ⟨call, inCalls, answered, isAlert⟩
    rcases List.mem_append.mp inCalls with old | new
    · exact ⟨call, old, answered, isAlert⟩
    · obtain rfl := List.mem_singleton.mp new
      exact absurd answered nofun

/-- The page has a response to such a request, which makes a new `refreshKey` if it says
that the alert is resolved. -/
theorem Consistent.answer (consistent : before.Consistent programs) {call : Nat} {succeeds : Bool}
    {page : AlertsPage} (done : before.answer call succeeds page = some after)
    (key : page.refreshKey = before.page.refreshKey + if succeeds then 1 else 0) :
    after.Consistent programs := by
  rw [Console.answer] at done
  split at done
  · exact absurd done nofun
  · rename_i made isMade
    obtain ⟨⟨-, returned⟩, done⟩ := Option.ite_none_right_eq_some.mp done
    obtain rfl := of_withPage done
    have backed := consistent.backed
    have inCalls := List.mem_of_getElem? isMade
    refine ⟨backed.of_calls rfl fun other inSet => ?_, ?_,
      consistent.answered.of_same rfl fun _ _ isListed => isListed⟩
    · rcases List.mem_or_eq_of_mem_set inSet with old | rfl
      · exact ⟨backed.serving other old, backed.returned other old, backed.answered other old⟩
      · exact ⟨backed.serving made inCalls, backed.returned made inCalls,
          fun answered => returned (Option.some.inj answered)⟩
    · cases succeeds with
      | true => exact consistent.listed.of_next rfl rfl key
      | false =>
          refine consistent.listed.of_same rfl rfl key ?_
          rintro alertId ⟨other, inSet, answered, isAlert⟩
          rcases List.mem_or_eq_of_mem_set inSet with old | rfl
          · exact ⟨other, old, answered, isAlert⟩
          · exact absurd answered nofun

/-- A move of the hook that makes no request. -/
theorem Consistent.withHook (consistent : before.Consistent programs)
    {move : Async.Move (AlertFilters × Nat) AlertListResponse}
    (done : before.withHook move = some after) (notEffect : move.isEffect = false)
    (commits : ∀ deps, move = .commit deps → deps = before.page.deps)
    (settles : ∀ fetch response, move = .settle fetch (.resolved response) →
      before.listings[fetch]? = some (.listed response)) : after.Consistent programs := by
  obtain ⟨hook, step, rfl⟩ := Option.map_eq_some_iff.mp done
  have asked := Async.asked_of_step step
  rw [notEffect, if_neg Bool.false_ne_true, List.append_nil] at asked
  refine ⟨consistent.backed.of_same rfl rfl, consistent.listed.of_lists ?_ ?_ ?_ rfl
    (fun _ told => told) fun deps response isListed => Or.inl ?_,
    consistent.answered.step step (fun _ _ isListed => isListed) settles⟩
  · exact consistent.listed.length.trans (congrArg List.length asked).symm
  · rcases Async.deps_of_step step with same | commit
    · exact (congrArg Prod.snd same).le.trans consistent.listed.committed
    · exact (congrArg Prod.snd (commits _ commit)).le
  · exact fun deps isAsked => Or.inl (asked ▸ isAsked)
  · obtain ⟨fetch, isAsked, isPlaced⟩ := isListed
    exact ⟨fetch, asked ▸ isAsked, isPlaced⟩

/-- The effect makes a request. -/
theorem Consistent.effect (consistent : before.Consistent programs)
    (done : Console.withHook { before with listings := before.listings ++ [.requested] } .effect =
      some after) : after.Consistent programs := by
  obtain ⟨hook, step, rfl⟩ := Option.map_eq_some_iff.mp done
  have asked : hook.asked = before.hook.asked ++ [before.hook.deps] := Async.asked_of_step step
  have length := consistent.listed.length
  refine ⟨consistent.backed.of_same rfl rfl, consistent.listed.of_lists ?_ ?_ ?_ rfl
    (fun _ told => told) fun deps response isListed => Or.inl ?_,
    consistent.answered.step step (fun fetch response isListed => ?_) nofun⟩
  · change (before.listings ++ [_]).length = hook.asked.length
    rw [asked, List.length_append, List.length_append, length]
    rfl
  · rcases Async.deps_of_step step with same | commit
    · exact (congrArg Prod.snd same).le.trans consistent.listed.committed
    · exact absurd commit nofun
  · intro deps isAsked
    change deps ∈ hook.asked at isAsked
    rw [asked] at isAsked
    exact (List.mem_append.mp isAsked).imp id List.mem_singleton.mp
  · obtain ⟨fetch, isAsked, isPlaced⟩ := isListed
    change hook.asked[fetch]? = _ at isAsked
    change (before.listings ++ [_])[fetch]? = _ at isPlaced
    rcases Nat.lt_or_ge fetch before.listings.length with early | last
    · rw [asked, List.getElem?_append_left (length ▸ early)] at isAsked
      rw [List.getElem?_append_left early] at isPlaced
      exact ⟨fetch, isAsked, isPlaced⟩
    · rw [List.getElem?_append_right last] at isPlaced
      obtain ⟨inside, same⟩ := List.getElem?_eq_some_iff.mp isPlaced
      rw [List.getElem_singleton] at same
      exact absurd same nofun
  · change (before.listings ++ [_])[fetch]? = _
    rw [List.getElem?_append_left (List.getElem?_eq_some_iff.mp isListed).1]
    exact isListed

/-- The request of a fetch, not listed so far, comes further. -/
theorem Consistent.set (consistent : console.Consistent programs) {fetch : Nat}
    {filters : AlertFilters} {earlier listing : Listing}
    (isEarlier : console.listings[fetch]? = some earlier)
    (isRequested : console.requested fetch = some filters)
    (notListed : ∀ response, earlier ≠ .listed response)
    (reads : ∀ response, listing = .listed response →
      ∀ alert ∈ response.alerts, alert ∈ selectedAlerts console.server filters) :
    Consistent programs { console with listings := console.listings.set fetch listing } := by
  refine ⟨consistent.backed.of_same rfl rfl,
    consistent.listed.set consistent.backed isRequested reads,
    consistent.answered.of_same rfl fun position response isListed => ?_⟩
  have other : fetch ≠ position := by
    rintro rfl
    exact notListed response (Option.some.inj (isEarlier.symm.trans isListed))
  exact (List.getElem?_set_ne other).trans isListed

theorem consistent_of_step {move : ConsoleMove} (consistent : before.Consistent programs)
    (step : before.Step settings programs move after) : after.Consistent programs := by
  unfold Step at step
  cases move with
  | server session action =>
      obtain ⟨taken, performed, rfl⟩ := Option.map_eq_some_iff.mp step
      have taking : before.server.Step settings (session, taken.1) taken.2 := ⟨action, performed⟩
      have effect := Server.effect_of_step consistent.backed.sound taking
      exact ⟨consistent.backed.server effect,
        consistent.listed.of_same rfl rfl rfl fun _ told => told.afterEvent,
        consistent.answered.of_same rfl fun _ _ isListed => isListed⟩
  | changeSeverity severity => exact consistent.withPage step rfl
  | changeAlertType alertType => exact consistent.withPage step rfl
  | changeResolved choice => exact consistent.withPage step rfl
  | changeBatteryId input => exact consistent.withPage step rfl
  | submitBatteryId => exact consistent.withPage step rfl
  | resolve alertId session now =>
      obtain ⟨⟨-, isProgram, -⟩, done⟩ := Option.ite_none_right_eq_some.mp step
      exact consistent.request isProgram done
  | resolved call => exact consistent.answer step rfl
  | notResolved call err => exact consistent.answer step rfl
  | render =>
      refine consistent.withHook step rfl ?_ nofun
      rintro deps ⟨⟩
      rfl
  | effect => exact consistent.effect step
  | count fetch =>
      simp only [perform] at step
      split at step
      · rename_i filters isEarlier isRequested
        obtain rfl := Option.some.inj step
        exact consistent.set isEarlier isRequested nofun nofun
      · exact absurd step nofun
  | list fetch order =>
      simp only [perform] at step
      split at step
      · rename_i total filters isEarlier isRequested
        obtain ⟨⟨permuted, -⟩, done⟩ := Option.ite_none_right_eq_some.mp step
        obtain rfl := Option.some.inj done
        refine consistent.set isEarlier isRequested nofun ?_
        rintro response ⟨⟩ alert inAlerts
        exact permuted.subset (List.mem_of_mem_drop (List.mem_of_mem_take inAlerts))
      · exact absurd step nofun
  | respond fetch response =>
      obtain ⟨isListed, done⟩ := Option.ite_none_right_eq_some.mp step
      refine consistent.withHook done rfl nofun ?_
      rintro _ _ ⟨⟩
      exact isListed
  | reject fetch err => exact consistent.withHook step rfl nofun nofun
  | unmount => exact consistent.withHook step rfl nofun nofun

theorem consistent_of_run {db : Database} {moves : List ConsoleMove} {last : Console}
    (formed : ∀ alert ∈ db.alerts.rows, alert.resolved = true ↔ alert.resolvedAt ≠ none)
    (run : Trace (Step settings programs) (start db programs) moves last) :
    last.Consistent programs := by
  induction run with
  | nil => exact consistent_start db programs formed
  | snoc _ step consistent => exact consistent_of_step consistent step

/-- The alerts that the page shows are alerts of its filters; one that the page has been
told is resolved is not shown as unresolved, and so, with the choice that the page starts
with, not at all. -/
structure ShowsResolutions (console : Console) : Prop where
  selected : ∀ response ∈ console.hook.state.data, ∀ alert ∈ response.alerts,
    console.page.filters.selects alert = true
  told : ∀ response ∈ console.hook.state.data, ∀ alert ∈ response.alerts,
    console.Told alert.alertId → alert.resolved = true
  gone : console.page.resolved = .unresolved → ∀ response ∈ console.hook.state.data,
    ∀ alert ∈ response.alerts, ¬ console.Told alert.alertId

theorem Consistent.lists_shown (consistent : console.Consistent programs)
    (upToDate : console.UpToDate) {response : AlertListResponse}
    (isShown : console.hook.state.data = some response) :
    console.Lists console.page.deps response := by
  obtain ⟨history, run, known⟩ := consistent.answered
  have formed := Async.wellFormed_of_run run
  refine ⟨Async.newest history, ?_, known _ response (formed.settle_mem isShown)⟩
  rw [Async.asked, List.getElem?_map, formed.newest_deps upToDate.1, upToDate.2]

/-- An alert that the filters for unresolved ones select is unresolved. -/
theorem unresolved_of_selects {page : AlertsPage} {alert : Alert}
    (choice : page.resolved = .unresolved) (selects : page.filters.selects alert = true) :
    alert.resolved = false := by
  rw [AlertFilters.selects, AlertsPage.filters, choice] at selects
  simpa using (Bool.and_eq_true_iff.mp selects).2

/-- Over every run of the page and of any sessions behind it, whatever the order in which
statements, commits, responses and renderings come: once nothing is left to render, the
page does not show what the operator knows to be over. -/
theorem shows_resolutions (settings : Settings) (db : Database)
    (programs : SessionId → List Statement)
    (formed : ∀ alert ∈ db.alerts.rows, alert.resolved = true ↔ alert.resolvedAt ≠ none)
    {moves : List ConsoleMove} {last : Console}
    (run : Trace (Step settings programs) (start db programs) moves last)
    (upToDate : last.UpToDate) : last.ShowsResolutions := by
  have consistent := consistent_of_run formed run
  have lists : ∀ response ∈ last.hook.state.data, last.Lists last.page.deps response :=
    fun _ isShown => consistent.lists_shown upToDate isShown
  have selected : ∀ response ∈ last.hook.state.data, ∀ alert ∈ response.alerts,
      last.page.filters.selects alert = true := fun response isShown =>
    consistent.listed.selected _ response (lists response isShown)
  have told : ∀ response ∈ last.hook.state.data, ∀ alert ∈ response.alerts,
      last.Told alert.alertId → alert.resolved = true := fun response isShown =>
    consistent.listed.fresh _ response (lists response isShown) rfl
  refine ⟨selected, told, fun choice response isShown alert inAlerts isTold => ?_⟩
  have unresolved := unresolved_of_selects choice (selected response isShown alert inAlerts)
  rw [told response isShown alert inAlerts isTold] at unresolved
  exact absurd unresolved nofun

/-- A battery has gone silent, and an operator resolves its alert. -/
def silentBattery : AlertRequest :=
  ⟨"BAT-000001", .deviceOffline, .warning, "silent", none, none, 0⟩

def operatorPrograms : SessionId → List Statement
  | 0 => [.alert (.createOrRetainAlert silentBattery), .commit]
  | 1 => manualResolution 0 5
  | _ => []

/-- The page lists the alert, the operator resolves it and has all alerts listed. -/
def resolveAndList : List ConsoleMove :=
  let raised := silentBattery.toAlert 0
  [.server 0 .proceed, .server 0 .proceed, .effect, .count 0, .list 0 [raised],
    .respond 0 (listResponse 1 [raised]), .resolve 0 1 5, .server 1 .proceed,
    .server 1 (.flush 0 5), .server 1 .proceed, .resolved 0, .changeResolved .all, .render, .effect,
    .count 1, .list 1 [raised.resolve 5], .respond 1 (listResponse 1 [raised.resolve 5])]

theorem sample_shows_resolutions : ∃ last : Console,
    Trace (Step .default operatorPrograms) (start (Database.registered sampleBatteries)
      operatorPrograms) resolveAndList last ∧
    last.ShowsResolutions ∧ last.Told 0 ∧
    last.hook.state.data = some (listResponse 1 [(silentBattery.toAlert 0).resolve 5]) := by
  have played : (play (perform .default operatorPrograms) resolveAndList
      (start (Database.registered sampleBatteries) operatorPrograms)).map (fun last =>
        decide (last.UpToDate ∧
          (last.calls.any fun call => call.answered = some true ∧ call.alertId = 0) = true ∧
          last.hook.state.data = some (listResponse 1 [(silentBattery.toAlert 0).resolve 5]))) =
      some true := by
    decide +kernel
  obtain ⟨last, isLast, holds⟩ := Option.map_eq_some_iff.mp played
  obtain ⟨upToDate, heard, shows⟩ := of_decide_eq_true holds
  have run := trace_of_play (perform .default operatorPrograms) isLast
  obtain ⟨call, inCalls, isCall⟩ := List.any_eq_true.mp heard
  exact ⟨last, run, shows_resolutions .default _ operatorPrograms (List.forall_mem_nil _) run
    upToDate, ⟨call, inCalls, of_decide_eq_true isCall⟩, shows⟩

end VoltStream.Frontend.Console
