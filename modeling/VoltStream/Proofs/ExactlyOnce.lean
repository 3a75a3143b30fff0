/-
Module: VoltStream.Proofs.ExactlyOnce
Purpose: Exactly-once storage over an unreliable link: whatever is lost, delayed
  or failed, an event is stored once and with its payload, and a call that
  returns has all its events stored.
Trusted boundary: none
Main exports: Link.Progress, Link.Sound, Link.sound_step, exactly_once
-/
import VoltStream.Relational.Family
import VoltStream.Simulator.Link

namespace VoltStream.Simulator

open Relational Backend

theorem Attempt.session_injective : Function.Injective Attempt.session := by
  intro first second same
  obtain ⟨sameCall, sameNumber⟩ := Nat.pair_eq_pair.mp same
  cases first
  cases second
  cases sameCall
  cases sameNumber
  rfl

/-- An error never ends in a result. -/
theorem Call.afterError_ne_returned (policy : RetryPolicy) (eventCount attempt : Nat)
    (error : HttpError) (result : BatchResult) :
    Call.afterError policy eventCount attempt error ≠ .returned result := by
  unfold Call.afterError
  split
  · split
    · split <;> exact Call.noConfusion
    · exact Call.noConfusion
  · exact Call.noConfusion

namespace Link

section Invariant

variable (batch : Nat → List TelemetryEvent)

/-- A committed row under the id of each event of the call. -/
def HasAll (link : Link) (call : Nat) : Prop :=
  ∀ event ∈ batch call, (link.telemetry event.eventId).committed ≠ none

/-- The versions of a row that may become visible carry its id, and the payload
of the event with that id if a call has one. -/
def Rightful (eventId : Uuid) (cell : Cell Telemetry) : Prop :=
  ∀ commits row, cell.outcome commits = some row → row.eventId = eventId ∧
    ∀ call, ∀ event ∈ batch call, event.eventId = eventId → row = event.toTelemetry

/-- What a request has achieved at each stage: the rows it has passed are visible
to its session, and from the first commit on to everyone. -/
def Progress (link : Link) (attempt : Attempt) : Processing → Prop
  | .unsent => True
  | .sent => True
  | .inserting todo insertedIds =>
      ∃ passed, batch attempt.call = passed ++ todo ∧
        (∀ event ∈ passed, (link.telemetry event.eventId).view attempt.session ≠ none) ∧
        insertedIds.length ≤ passed.length
  | .stored insertedIds =>
      link.HasAll batch attempt.call ∧ insertedIds.length ≤ (batch attempt.call).length
  | .answered (.accepted result) =>
      link.HasAll batch attempt.call ∧
        result.inserted + result.duplicates = (batch attempt.call).length
  | .answered (.status _) => True

structure Sound (link : Link) : Prop where
  rows : ∀ eventId, Rightful batch eventId (link.telemetry eventId)
  requests : ∀ attempt, link.Progress batch attempt (link.requests attempt)
  results : ∀ call result, link.calls call = .returned result →
    link.HasAll batch call ∧ result.inserted + result.duplicates = (batch call).length

end Invariant

/-! ### What a statement of one session leaves to the others -/

/-- Committed rows stay, and so does what any other session sees. -/
structure Grows (session : SessionId) (before after : Uuid → Cell Telemetry) : Prop where
  committed : ∀ eventId, (before eventId).committed ≠ none → (after eventId).committed ≠ none
  view : ∀ other, other ≠ session → ∀ eventId, (before eventId).view other ≠ none →
    (after eventId).view other ≠ none

section Statements

variable {session : SessionId} {telemetry : Uuid → Cell Telemetry}

theorem Grows.refl (session : SessionId) (telemetry : Uuid → Cell Telemetry) :
    Grows session telemetry telemetry :=
  ⟨fun _ present => present, fun _ _ _ present => present⟩

theorem grows_write {eventId : Uuid} (row : Telemetry)
    (free : (telemetry eventId).lockedAgainst session = false) :
    Grows session telemetry
      (Function.update telemetry eventId ((telemetry eventId).write session row)) := by
  constructor
  · intro other present
    by_cases here : other = eventId
    · subst here
      rw [Function.update_self]
      exact present
    · rwa [Function.update_of_ne here]
  · intro other different written present
    by_cases here : written = eventId
    · subst here
      rw [Function.update_self, Cell.view, Cell.outcome_write free, if_neg]
      · exact present
      · simpa using Ne.symm different
    · rwa [Function.update_of_ne here]

theorem grows_commit (session : SessionId) (telemetry : Uuid → Cell Telemetry) :
    Grows session telemetry fun eventId => (telemetry eventId).commit session := by
  constructor
  · intro eventId present
    rw [← Cell.outcome_none] at present
    rw [Cell.committed_commit]
    exact Cell.outcome_ne_none_of_le (fun _ impossible => by cases impossible) present
  · intro other _ eventId present
    rw [Cell.view, Cell.outcome_commit]
    refine Cell.outcome_ne_none_of_le (fun reader reads => ?_) present
    rw [reads, Bool.or_true]

theorem grows_rollback (session : SessionId) (telemetry : Uuid → Cell Telemetry) :
    Grows session telemetry fun eventId => (telemetry eventId).rollback session := by
  constructor
  · intro eventId present
    rwa [Cell.committed_rollback]
  · intro other different eventId present
    rw [Cell.view, Cell.outcome_rollback]
    refine Cell.outcome_ne_none_of_le (fun reader reads => ?_) present
    obtain rfl := of_decide_eq_true reads
    simp [different]

end Statements

section Preservation

variable {batch : Nat → List TelemetryEvent} {link : Link}

theorem HasAll.of_grows {session : SessionId} {after : Link} {call : Nat}
    (grows : Grows session link.telemetry after.telemetry) (all : link.HasAll batch call) :
    after.HasAll batch call :=
  fun event member => grows.committed event.eventId (all event member)

theorem Progress.of_grows {session : SessionId} {after : Link} {attempt : Attempt}
    {state : Processing} (grows : Grows session link.telemetry after.telemetry)
    (other : attempt.session ≠ session) (progress : link.Progress batch attempt state) :
    after.Progress batch attempt state := by
  cases state with
  | unsent => trivial
  | sent => trivial
  | inserting todo insertedIds =>
      obtain ⟨passed, split, visible, bound⟩ := progress
      exact ⟨passed, split, fun event member =>
        grows.view _ other event.eventId (visible event member), bound⟩
  | stored insertedIds => exact ⟨progress.1.of_grows grows, progress.2⟩
  | answered reply =>
      cases reply with
      | accepted result => exact ⟨progress.1.of_grows grows, progress.2⟩
      | status code => trivial

/-- One statement of one request: it is enough that the rows stay rightful, that
the other sessions lose nothing and that the request itself makes progress. -/
theorem Sound.request {attempt : Attempt} {telemetry : Uuid → Cell Telemetry}
    {state : Processing} (sound : link.Sound batch)
    (grows : Grows attempt.session link.telemetry telemetry)
    (rightful : ∀ eventId, Rightful batch eventId (telemetry eventId))
    (progress : ({ link with telemetry := telemetry } : Link).Progress batch attempt state) :
    (({ link with telemetry := telemetry } : Link).setRequest attempt state).Sound batch where
  rows := rightful
  requests other := by
    by_cases same : other = attempt
    · subst same
      simp only [setRequest, Function.update_self]
      exact progress
    · simp only [setRequest, Function.update_of_ne same]
      exact (sound.requests other).of_grows grows fun clash =>
        same (Attempt.session_injective clash)
  results call result returned :=
    ⟨(sound.results call result returned).1.of_grows grows, (sound.results call result returned).2⟩

/-- A change of a call's state is sound if a result has been earned. -/
theorem Sound.call {call : Nat} {state : Call} (sound : link.Sound batch)
    (earned : ∀ result, state = .returned result →
      link.HasAll batch call ∧ result.inserted + result.duplicates = (batch call).length) :
    (link.setCall call state).Sound batch where
  rows := sound.rows
  requests := sound.requests
  results other result returned := by
    rcases update_cases returned with ⟨rfl, isResult⟩ | ⟨-, before⟩
    · exact earned result isResult
    · exact sound.results other result before

theorem Rightful.commit {eventId : Uuid} {cell : Cell Telemetry} (session : SessionId)
    (rightful : Rightful batch eventId cell) : Rightful batch eventId (cell.commit session) := by
  intro commits row visible
  rw [Cell.outcome_commit] at visible
  exact rightful _ row visible

theorem Rightful.rollback {eventId : Uuid} {cell : Cell Telemetry} (session : SessionId)
    (rightful : Rightful batch eventId cell) : Rightful batch eventId (cell.rollback session) := by
  intro commits row visible
  rw [Cell.outcome_rollback] at visible
  exact rightful _ row visible

end Preservation

/-! ### Steps and runs -/

section Steps

variable {batch : Nat → List TelemetryEvent} {link after : Link} {attempt : Attempt}

/-- The ids tell the events of all calls apart. -/
def IdsIdentify (batch : Nat → List TelemetryEvent) : Prop :=
  ∀ one, ∀ first ∈ batch one, ∀ two, ∀ second ∈ batch two,
    first.eventId = second.eventId → first = second

theorem rightful_insert (identify : IdsIdentify batch) {call : Nat} {event : TelemetryEvent}
    (member : event ∈ batch call) {cell : Cell Telemetry} {session : SessionId}
    (free : cell.lockedAgainst session = false)
    (rightful : Rightful batch event.eventId cell) :
    Rightful batch event.eventId (cell.write session event.toTelemetry) := by
  intro commits row visible
  rw [Cell.outcome_write free] at visible
  split at visible
  · obtain rfl := Option.some.inj visible
    refine ⟨rfl, fun other twin inOther sameId => ?_⟩
    rw [identify call event member other twin inOther sameId.symm]
  · exact rightful commits row visible

/-- One row of the insert, or the discovery that it is there already. -/
theorem sound_insertRow (identify : IdsIdentify batch) {event : TelemetryEvent}
    {todo : List TelemetryEvent} {insertedIds : List Uuid} (sound : link.Sound batch)
    (stage : link.requests attempt = .inserting (event :: todo) insertedIds)
    (inserted : link.insertRow attempt event todo insertedIds = some after) :
    after.Sound batch := by
  have progress := sound.requests attempt
  rw [stage] at progress
  obtain ⟨passed, split, visible, bound⟩ := progress
  have member : event ∈ batch attempt.call := by simp [split]
  have split' : batch attempt.call = (passed ++ [event]) ++ todo := by simp [split]
  simp only [insertRow] at inserted
  by_cases locked : (link.telemetry event.eventId).lockedAgainst attempt.session = true
  · rw [if_pos locked] at inserted
    cases inserted
  have free : (link.telemetry event.eventId).lockedAgainst attempt.session = false := by
    simpa using locked
  rw [if_neg locked] at inserted
  cases found : (link.telemetry event.eventId).view attempt.session with
  | some row =>
      rw [found] at inserted
      obtain rfl := Option.some.inj inserted
      apply sound.request (Grows.refl _ _) sound.rows
      refine ⟨passed ++ [event], split', fun other isPassed => ?_, ?_⟩
      · rcases List.mem_append.mp isPassed with early | last
        · exact visible other early
        · rw [List.mem_singleton.mp last, found]
          exact Option.some_ne_none row
      · rw [List.length_append]
        exact bound.trans (Nat.le_add_right _ _)
  | none =>
      rw [found] at inserted
      obtain rfl := Option.some.inj inserted
      apply sound.request (grows_write event.toTelemetry free)
      · intro eventId
        by_cases here : eventId = event.eventId
        · subst here
          rw [Function.update_self]
          exact rightful_insert identify member free (sound.rows _)
        · rw [Function.update_of_ne here]
          exact sound.rows eventId
      · refine ⟨passed ++ [event], split', fun other isPassed => ?_, by simpa using bound⟩
        by_cases here : other.eventId = event.eventId
        · simp only [here, Function.update_self, Cell.view_write]
          exact Option.some_ne_none _
        · simp only [Function.update_of_ne here]
          refine visible other ((List.mem_append.mp isPassed).resolve_right fun last => here ?_)
          rw [List.mem_singleton.mp last]

theorem sound_serve (identify : IdsIdentify batch) (sound : link.Sound batch)
    (served : link.serve batch attempt = some after) : after.Sound batch := by
  have progress := sound.requests attempt
  unfold serve at served
  cases stage : link.requests attempt with
  | unsent =>
      rw [stage] at served
      cases served
  | sent =>
      simp only [stage] at served
      split at served
      · obtain rfl := Option.some.inj served
        exact sound.request (Grows.refl _ _) sound.rows trivial
      · obtain rfl := Option.some.inj served
        exact sound.request (Grows.refl _ _) sound.rows ⟨[], rfl, by simp, Nat.le_refl 0⟩
  | inserting todo insertedIds =>
      cases todo with
      | cons event todo =>
          simp only [stage] at served
          exact sound_insertRow identify sound stage served
      | nil =>
          simp only [stage] at served
          obtain rfl := Option.some.inj served
          rw [stage] at progress
          obtain ⟨passed, split, visible, bound⟩ := progress
          rw [List.append_nil] at split
          refine sound.request (grows_commit _ _) (fun eventId => (sound.rows eventId).commit _)
            ⟨fun event member => ?_, split ▸ bound⟩
          rw [Cell.committed_commit]
          exact visible event (split ▸ member)
  | stored insertedIds =>
      simp only [stage] at served
      obtain rfl := Option.some.inj served
      rw [stage] at progress
      exact sound.request (Grows.refl _ _) sound.rows
        ⟨progress.1, Nat.add_sub_cancel' progress.2⟩
  | answered reply =>
      rw [stage] at served
      cases served

theorem sound_fail {code : Nat} (sound : link.Sound batch)
    (failed : link.fail attempt code = some after) : after.Sound batch := by
  have rolledBack : (({ link with
      telemetry := fun eventId => (link.telemetry eventId).rollback attempt.session } :
        Link).setRequest attempt (.answered (.status code))).Sound batch :=
    sound.request (grows_rollback _ _) (fun eventId => (sound.rows eventId).rollback _) trivial
  unfold fail at failed
  cases stage : link.requests attempt with
  | unsent =>
      rw [stage] at failed
      cases failed
  | answered reply =>
      rw [stage] at failed
      cases failed
  | sent =>
      rw [stage] at failed
      exact Option.some.inj failed ▸ rolledBack
  | inserting todo insertedIds =>
      rw [stage] at failed
      exact Option.some.inj failed ▸ rolledBack
  | stored insertedIds =>
      rw [stage] at failed
      exact Option.some.inj failed ▸ rolledBack

theorem sound_step {policy : RetryPolicy} {move : Move} (identify : IdsIdentify batch)
    (sound : link.Sound batch) (step : Step policy batch link move after) :
    after.Sound batch := by
  unfold Step perform at step
  cases move with
  | post call =>
      cases state : link.calls call with
      | ready number =>
          simp only [state] at step
          split at step
          · rename_i noEvents
            obtain rfl := Option.some.inj step
            refine sound.call fun result returned => ?_
            obtain rfl := Call.returned.inj returned
            exact ⟨fun event member => by simp [noEvents] at member,
              by simp [noEvents, emptyResult]⟩
          · obtain rfl := Option.some.inj step
            exact (sound.call fun _ impossible => by cases impossible).request (Grows.refl _ _)
              sound.rows trivial
      | awaiting number => simp [state] at step
      | returned result => simp [state] at step
      | raised error => simp [state] at step
  | error call error =>
      cases state : link.calls call with
      | ready number => simp [state] at step
      | awaiting number =>
          simp only [state] at step
          obtain rfl := Option.some.inj step
          exact sound.call fun result returned =>
            absurd returned (Call.afterError_ne_returned policy _ number error result)
      | returned result => simp [state] at step
      | raised error => simp [state] at step
  | deliver call =>
      cases state : link.calls call with
      | ready number => simp [state] at step
      | awaiting number =>
          simp only [state] at step
          split at step
          · rename_i reply arrived
            obtain rfl := Option.some.inj step
            have progress := sound.requests { call := call, number := number }
            rw [arrived] at progress
            refine sound.call fun result returned => ?_
            cases reply with
            | accepted answer =>
                obtain rfl := Call.returned.inj returned
                exact progress
            | status code =>
                exact absurd returned
                  (Call.afterError_ne_returned policy _ number (.status code) result)
          · cases step
      | returned result => simp [state] at step
      | raised error => simp [state] at step
  | serve attempt => exact sound_serve identify sound step
  | fail attempt code => exact sound_fail sound step

/-- What telemetry holds before the first POST: nothing under an id of the calls
except, possibly, that very event. -/
def Prior (batch : Nat → List TelemetryEvent) (telemetry : Table Telemetry Telemetry.eventId) :
    Prop :=
  ∀ call, ∀ event ∈ batch call, ∀ row, telemetry.lookup event.eventId = some row →
    row = event.toTelemetry

theorem sound_start (batteries : Table Battery Battery.batteryId)
    {telemetry : Table Telemetry Telemetry.eventId} (prior : Prior batch telemetry) :
    (start batteries telemetry).Sound batch where
  rows eventId commits row visible := by
    have found : telemetry.lookup eventId = some row := visible
    obtain ⟨-, hit⟩ := telemetry.lookup_some_iff.mp found
    refine ⟨hit, fun call event member sameId => ?_⟩
    exact prior call event member row (sameId ▸ found)
  requests _ := trivial
  results _ _ impossible := by cases impossible

end Steps

/-- For every policy, all batches whose ids tell their events apart, and every
run of the calls, the requests and the link: an event's id is stored under one
key only and with the event's payload; a call that has returned has all its
events stored and counts each of them once; and a call that has ended while an
event of it is missing has raised. -/
theorem exactly_once (policy : RetryPolicy) (batch : Nat → List TelemetryEvent)
    (identify : IdsIdentify batch) (batteries : Table Battery Battery.batteryId)
    (telemetry : Table Telemetry Telemetry.eventId) (prior : Prior batch telemetry)
    {moves : List Move} {last : Link}
    (run : Trace (Step policy batch) (start batteries telemetry) moves last) :
    (∀ call, ∀ event ∈ batch call, ∀ key row, last.Stores key row →
        row.eventId = event.eventId → key = event.eventId ∧ row = event.toTelemetry) ∧
      (∀ call result, last.calls call = .returned result →
        (∀ event ∈ batch call, last.Stores event.eventId event.toTelemetry) ∧
          result.inserted + result.duplicates = (batch call).length) ∧
      ∀ call, (last.calls call).Ended → ∀ event ∈ batch call,
        ¬ last.Stores event.eventId event.toTelemetry →
          ∃ error, last.calls call = .raised error := by
  have sound : last.Sound batch := run.invariant (fun _ link => link.Sound batch)
    (sound_start batteries prior) fun _ _ _ _ sound step => sound_step identify sound step
  have rightful : ∀ key row, last.Stores key row → row.eventId = key ∧
      ∀ call, ∀ event ∈ batch call, event.eventId = key → row = event.toTelemetry :=
    fun key row present => sound.rows key _ row ((Cell.outcome_none _).trans present)
  have stored : ∀ call result, last.calls call = .returned result →
      ∀ event ∈ batch call, last.Stores event.eventId event.toTelemetry := by
    intro call result returned event member
    obtain ⟨row, present⟩ := Option.ne_none_iff_exists'.mp
      ((sound.results call result returned).1 event member)
    rw [Stores, present, (rightful _ row present).2 call event member rfl]
  refine ⟨?_, fun call result returned =>
    ⟨stored call result returned, (sound.results call result returned).2⟩, ?_⟩
  · intro call event member key row present sameId
    obtain ⟨hasId, payload⟩ := rightful key row present
    have sameKey : key = event.eventId := hasId.symm.trans sameId
    exact ⟨sameKey, payload call event member sameKey.symm⟩
  · intro call ended event member missing
    cases state : last.calls call with
    | ready number => simp [state, Call.Ended] at ended
    | awaiting number => simp [state, Call.Ended] at ended
    | returned result => exact absurd (stored call result state event member) missing
    | raised error => exact ⟨error, rfl⟩

/-- One call with one reading. -/
def sampleBatch : Nat → List TelemetryEvent
  | 0 => [sampleEvent 1 0 50]
  | _ => []

/-- The storage commits, the rule pass fails, and the retry finds a duplicate. -/
def failedRulePass : List Move :=
  [.post 0, .serve ⟨0, 1⟩, .serve ⟨0, 1⟩, .serve ⟨0, 1⟩, .fail ⟨0, 1⟩ 500, .deliver 0,
    .post 0, .serve ⟨0, 2⟩, .serve ⟨0, 2⟩, .serve ⟨0, 2⟩, .serve ⟨0, 2⟩, .deliver 0]

theorem failedRulePass_plays :
    (play (perform RetryPolicy.default sampleBatch) failedRulePass
      (start sampleBatteries Table.empty)).isSome = true := by
  decide +kernel

/-- The call of that run has returned, and its reading is stored once. -/
theorem sample_exactly_once :
    let last := (play (perform RetryPolicy.default sampleBatch) failedRulePass
      (start sampleBatteries Table.empty)).get failedRulePass_plays
    (∀ call, ∀ event ∈ sampleBatch call, ∀ key row, last.Stores key row →
        row.eventId = event.eventId → key = event.eventId ∧ row = event.toTelemetry) ∧
      (∀ call result, last.calls call = .returned result →
        (∀ event ∈ sampleBatch call, last.Stores event.eventId event.toTelemetry) ∧
          result.inserted + result.duplicates = (sampleBatch call).length) ∧
      ∀ call, (last.calls call).Ended → ∀ event ∈ sampleBatch call,
        ¬ last.Stores event.eventId event.toTelemetry →
          ∃ error, last.calls call = .raised error := by
  have identify : IdsIdentify sampleBatch := by
    intro one first inOne two second inTwo _
    cases one with
    | zero =>
        cases two with
        | zero => rw [List.mem_singleton.mp inOne, List.mem_singleton.mp inTwo]
        | succ _ => cases inTwo
    | succ _ => cases inOne
  have prior : Prior sampleBatch Table.empty := by
    intro call event _ row found
    cases found
  exact exactly_once RetryPolicy.default sampleBatch identify sampleBatteries Table.empty prior
    (trace_of_play _ (Option.some_get failedRulePass_plays).symm)

end Link

end VoltStream.Simulator
