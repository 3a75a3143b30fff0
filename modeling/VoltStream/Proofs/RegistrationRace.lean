/-
Module: VoltStream.Proofs.RegistrationRace
Purpose: When concurrent registrations of one battery are idempotent.  The
  lookup and the insert are separate statements, so a request that has found
  nothing may insert after another one has committed.
Trusted boundary: none
Main exports: Registry.Idempotent, Registry.InsertsFirst, Registry.Sound,
  registration_run_iff, registration_race, registration_of_serial
-/
import VoltStream.Relational.Family
import VoltStream.Relational.Run
import VoltStream.Backend.Registration

namespace VoltStream.Backend

open Relational

namespace Registry

section Definitions

variable (incoming : SessionId → BatteryRegistrationRequest) (batteryId : BatteryId)

/-- The request is the one that has created the battery's row. -/
def Created (registry : Registry) (session : SessionId) (battery : Battery) : Prop :=
  (incoming session).batteryId = batteryId ∧
    registry.requests session = .ended (.registered battery true)

/-- Once a request about the battery has ended, exactly one request has created
the battery, the stored row is the one it created, and every other ended request
has got the answer for that row. -/
def Idempotent (registry : Registry) : Prop :=
  ∀ session outcome, (incoming session).batteryId = batteryId →
    registry.requests session = .ended outcome →
      ∃ creator battery, registry.Created incoming batteryId creator battery ∧
        (∃ now, battery = (incoming creator).toBattery now) ∧
        (registry.batteries batteryId).committed = some battery ∧
        (∀ other row, registry.Created incoming batteryId other row → other = creator) ∧
        (session ≠ creator → outcome = answerExisting battery (incoming session))

/-- A request about the battery that is about to insert finds no committed row:
nobody else has registered the battery since its lookup. -/
def InsertsFirst (registry : Registry) (turn : SessionId × Timestamp) : Prop :=
  (incoming turn.1).batteryId = batteryId → registry.requests turn.1 = .unregistered →
    (registry.batteries batteryId).committed = none

instance (turn : SessionId × Timestamp) :
    Decidable (InsertsFirst incoming batteryId registry turn) :=
  inferInstanceAs (Decidable (_ → _ → _))

/-- Where the versions of the battery's row come from. -/
structure Sound (registry : Registry) : Prop where
  stored : ∀ battery, (registry.batteries batteryId).committed = some battery →
    ∃ creator, registry.Created incoming batteryId creator battery
  created : ∀ session battery, registry.Created incoming batteryId session battery →
    (registry.batteries batteryId).committed = some battery ∧
      ∃ now, battery = (incoming session).toBattery now
  unique : ∀ first second one two, registry.Created incoming batteryId first one →
    registry.Created incoming batteryId second two → first = second
  pending : ∀ holder battery, (registry.batteries batteryId).pending = some (holder, battery) →
    (incoming holder).batteryId = batteryId ∧ registry.requests holder = .written battery ∧
      (registry.batteries batteryId).committed = none
  written : ∀ session battery, (incoming session).batteryId = batteryId →
    registry.requests session = .written battery →
      (registry.batteries batteryId).pending = some (session, battery) ∧
        ∃ now, battery = (incoming session).toBattery now

end Definitions

section Steps

variable {incoming : SessionId → BatteryRegistrationRequest} {batteryId : BatteryId}
  {registry after : Registry} {session : SessionId} {now : Timestamp}

/-- What one statement does, by the stage of the request. -/
inductive Turn (incoming : SessionId → BatteryRegistrationRequest) (registry : Registry)
    (session : SessionId) (now : Timestamp) : Registry → Prop where
  | finds {existing : Battery} (stage : registry.requests session = .waiting)
      (found : (registry.batteries (incoming session).batteryId).view session = some existing) :
      Turn incoming registry session now
        (registry.resume session (.ended (answerExisting existing (incoming session))))
  | misses (stage : registry.requests session = .waiting)
      (missing : (registry.batteries (incoming session).batteryId).view session = none) :
      Turn incoming registry session now (registry.resume session .unregistered)
  | violates {existing : Battery} (stage : registry.requests session = .unregistered)
      (found : (registry.batteries (incoming session).batteryId).view session = some existing) :
      Turn incoming registry session now (registry.resume session (.ended .integrityError))
  | inserts (stage : registry.requests session = .unregistered)
      (free : (registry.batteries (incoming session).batteryId).lockedAgainst session = false)
      (missing : (registry.batteries (incoming session).batteryId).view session = none) :
      Turn incoming registry session now
        ({ registry with
          batteries := Function.update registry.batteries (incoming session).batteryId
            ((registry.batteries (incoming session).batteryId).write session
              ((incoming session).toBattery now)) }.resume session
                (.written ((incoming session).toBattery now)))
  | commits {battery : Battery} (stage : registry.requests session = .written battery) :
      Turn incoming registry session now
        ({ registry with
          batteries := fun key => (registry.batteries key).commit session }.resume session
            (.ended (.registered battery true)))

theorem turn_of_perform (performed : registry.perform incoming session now = some after) :
    Turn incoming registry session now after := by
  unfold perform at performed
  cases stage : registry.requests session with
  | waiting =>
      simp only [stage] at performed
      cases found : (registry.batteries (incoming session).batteryId).view session with
      | some existing =>
          rw [found] at performed
          exact Option.some.inj performed ▸ .finds stage found
      | none =>
          rw [found] at performed
          exact Option.some.inj performed ▸ .misses stage found
  | unregistered =>
      simp only [stage] at performed
      by_cases locked :
          (registry.batteries (incoming session).batteryId).lockedAgainst session = true
      · rw [if_pos locked] at performed
        cases performed
      rw [if_neg locked] at performed
      cases found : (registry.batteries (incoming session).batteryId).view session with
      | some existing =>
          rw [found] at performed
          exact Option.some.inj performed ▸ .violates stage found
      | none =>
          rw [found] at performed
          exact Option.some.inj performed ▸ .inserts stage (by simpa using locked) found
  | written battery =>
      simp only [stage] at performed
      exact Option.some.inj performed ▸ .commits stage
  | ended outcome => simp [stage] at performed

/-- Two registries that look the same to everyone concerned with a battery. -/
structure Agrees (incoming : SessionId → BatteryRegistrationRequest) (batteryId : BatteryId)
    (before after : Registry) : Prop where
  row : after.batteries batteryId = before.batteries batteryId
  requests : ∀ session, (incoming session).batteryId = batteryId →
    after.requests session = before.requests session

theorem Agrees.created_iff (agrees : Agrees incoming batteryId registry after)
    (session : SessionId) (battery : Battery) :
    after.Created incoming batteryId session battery ↔
      registry.Created incoming batteryId session battery :=
  and_congr_right fun concerned => by rw [agrees.requests session concerned]

theorem Agrees.sound (agrees : Agrees incoming batteryId registry after)
    (sound : registry.Sound incoming batteryId) : after.Sound incoming batteryId where
  stored battery := by
    simp only [agrees.row, agrees.created_iff]
    exact sound.stored battery
  created session battery := by
    simp only [agrees.row, agrees.created_iff]
    exact sound.created session battery
  unique first second one two := by
    simp only [agrees.created_iff]
    exact sound.unique first second one two
  pending holder battery held := by
    rw [agrees.row] at held ⊢
    obtain ⟨concerned, stage, absent⟩ := sound.pending holder battery held
    exact ⟨concerned, (agrees.requests holder concerned).trans stage, absent⟩
  written session battery concerned stage := by
    rw [agrees.row]
    exact sound.written session battery concerned ((agrees.requests session concerned) ▸ stage)

theorem Agrees.idempotent (agrees : Agrees incoming batteryId registry after)
    (good : registry.Idempotent incoming batteryId) : after.Idempotent incoming batteryId := by
  intro session outcome concerned ended
  simp only [agrees.row, agrees.created_iff]
  exact good session outcome concerned ((agrees.requests session concerned) ▸ ended)

/-- A session that is not between its insert and its commit has written nothing. -/
theorem Sound.idle (sound : registry.Sound incoming batteryId)
    (notWritten : ∀ battery, registry.requests session ≠ .written battery) :
    ∀ battery, (registry.batteries batteryId).pending ≠ some (session, battery) :=
  fun battery held => notWritten battery (sound.pending session battery held).2.1

/-- A turn of a request about another battery. -/
theorem Turn.agrees (turn : Turn incoming registry session now after)
    (sound : registry.Sound incoming batteryId)
    (unconcerned : (incoming session).batteryId ≠ batteryId) :
    Agrees incoming batteryId registry after := by
  have others : ∀ (state : Registration) (other : SessionId),
      (incoming other).batteryId = batteryId →
        Function.update registry.requests session state other = registry.requests other := by
    intro state other concerned
    have different : other ≠ session := by
      rintro rfl
      exact unconcerned concerned
    exact Function.update_of_ne different _ _
  cases turn with
  | finds stage found => exact ⟨rfl, others _⟩
  | misses stage missing => exact ⟨rfl, others _⟩
  | violates stage found => exact ⟨rfl, others _⟩
  | inserts stage free missing => exact ⟨Function.update_of_ne (Ne.symm unconcerned) _ _, others _⟩
  | commits stage =>
      refine ⟨Cell.commit_of_not_holder fun battery held => ?_, others _⟩
      exact unconcerned (sound.pending session battery held).1

/-- A stage found after a session has gone on is the session's new one, or an
unchanged one of another session. -/
theorem requests_resume {state wanted : Registration} {other : SessionId}
    (stage : (registry.resume session state).requests other = wanted) :
    (other = session ∧ state = wanted) ∨ (other ≠ session ∧ registry.requests other = wanted) :=
  update_cases stage

/-- A change of stage that neither begins nor ends at a creation creates nothing. -/
theorem created_resume_iff {state : Registration} {cells : BatteryId → Cell Battery}
    (notBefore : ∀ battery, registry.requests session ≠ .ended (.registered battery true))
    (notAfter : ∀ battery, state ≠ .ended (.registered battery true))
    (other : SessionId) (battery : Battery) :
    (({ registry with batteries := cells } : Registry).resume session state).Created incoming
        batteryId other battery ↔ registry.Created incoming batteryId other battery := by
  refine and_congr_right fun _ => ?_
  by_cases same : other = session
  · subst same
    simp only [resume, Function.update_self]
    exact iff_of_false (notAfter battery) (notBefore battery)
  · simp only [resume, Function.update_of_ne same]

/-- A step that creates nothing leaves the creator unique. -/
theorem Sound.unique_of_iff (sound : registry.Sound incoming batteryId)
    (same : ∀ other battery, after.Created incoming batteryId other battery ↔
      registry.Created incoming batteryId other battery) (first second : SessionId)
    (one two : Battery) (firstCreated : after.Created incoming batteryId first one)
    (secondCreated : after.Created incoming batteryId second two) : first = second :=
  sound.unique first second one two ((same first one).mp firstCreated)
    ((same second two).mp secondCreated)

/-- A statement that writes nothing. -/
theorem Sound.resume {state : Registration} (sound : registry.Sound incoming batteryId)
    (notEnded : ∀ outcome, registry.requests session ≠ .ended outcome)
    (notWritten : ∀ battery, registry.requests session ≠ .written battery)
    (notCreates : ∀ battery, state ≠ .ended (.registered battery true))
    (notWrites : ∀ battery, state ≠ .written battery) :
    (registry.resume session state).Sound incoming batteryId := by
  have same := @created_resume_iff incoming batteryId registry session state registry.batteries
    (fun battery => notEnded _) notCreates
  constructor
  · intro battery stored
    obtain ⟨creator, created⟩ := sound.stored battery stored
    exact ⟨creator, (same creator battery).mpr created⟩
  · intro other battery created
    exact sound.created other battery ((same other battery).mp created)
  · exact sound.unique_of_iff same
  · intro holder battery held
    obtain ⟨concerned, stage, absent⟩ := sound.pending holder battery held
    have other : holder ≠ session := by
      rintro rfl
      exact notWritten battery stage
    exact ⟨concerned, (Function.update_of_ne other _ _).trans stage, absent⟩
  · intro other battery concerned stage
    rcases requests_resume stage with ⟨-, writes⟩ | ⟨-, before⟩
    · exact absurd writes (notWrites battery)
    · exact sound.written other battery concerned before

/-- Every statement of a request about the battery keeps the row accounted for. -/
theorem Sound.turn (sound : registry.Sound incoming batteryId)
    (turn : Turn incoming registry session now after)
    (concerned : (incoming session).batteryId = batteryId) : after.Sound incoming batteryId := by
  cases turn with
  | finds stage found =>
      refine sound.resume (by simp [stage]) (by simp [stage]) ?_ (by simp)
      intro battery
      unfold answerExisting
      split <;> simp
  | misses stage missing =>
      exact sound.resume (by simp [stage]) (by simp [stage]) (by simp) (by simp)
  | violates stage found =>
      exact sound.resume (by simp [stage]) (by simp [stage]) (by simp) (by simp)
  | inserts stage free missing =>
      subst concerned
      have idle : ∀ battery, (registry.batteries (incoming session).batteryId).pending ≠
          some (session, battery) := sound.idle (by simp [stage])
      have absent : (registry.batteries (incoming session).batteryId).committed = none :=
        (Cell.view_of_not_holder idle).symm.trans missing
      have same := @created_resume_iff incoming (incoming session).batteryId registry session
        (.written ((incoming session).toBattery now))
        (Function.update registry.batteries (incoming session).batteryId
          ((registry.batteries (incoming session).batteryId).write session
            ((incoming session).toBattery now))) (by simp [stage]) (by simp)
      constructor
      · intro battery stored
        simp only [Registry.resume, Function.update_self, Cell.write, absent] at stored
        cases stored
      · intro other battery created
        have before := sound.created other battery ((same other battery).mp created)
        rw [absent] at before
        cases before.1
      · exact sound.unique_of_iff same
      · intro holder battery held
        simp only [Registry.resume, Function.update_self, Cell.write, Option.some.injEq,
          Prod.mk.injEq] at held ⊢
        obtain ⟨rfl, rfl⟩ := held
        exact ⟨rfl, Function.update_self _ _ _, absent⟩
      · intro other battery otherConcerned otherStage
        rcases requests_resume otherStage with ⟨rfl, same⟩ | ⟨here, before⟩
        · obtain rfl := Registration.written.inj same
          simp only [Registry.resume, Function.update_self]
          exact ⟨rfl, now, rfl⟩
        · -- Nobody else has written the row: it would be locked.
          have held := (sound.written other battery otherConcerned before).1
          exact absurd (Cell.holder_of_free free held) here
  | @commits battery stage =>
      subst concerned
      obtain ⟨held, stamp⟩ := sound.written session battery rfl stage
      obtain ⟨-, -, absent⟩ := sound.pending session battery held
      have settledRow := Cell.commit_of_holder held
      have noneCreated : ∀ other row, ¬ registry.Created incoming (incoming session).batteryId
          other row := by
        intro other row created
        have before := (sound.created other row created).1
        rw [absent] at before
        cases before
      have only : ∀ other row, (({ registry with
          batteries := fun key => (registry.batteries key).commit session } : Registry).resume
            session (.ended (.registered battery true))).Created incoming
              (incoming session).batteryId other row → other = session ∧ row = battery := by
        rintro other row ⟨otherConcerned, ended⟩
        rcases requests_resume ended with ⟨here, same⟩ | ⟨-, before⟩
        · simp only [Registration.ended.injEq, RegistrationOutcome.registered.injEq, and_true]
            at same
          exact ⟨here, same.symm⟩
        · exact absurd ⟨otherConcerned, before⟩ (noneCreated other row)
      constructor
      · intro row stored
        simp only [Registry.resume, settledRow, Cell.settled, Option.some.injEq] at stored
        subst stored
        exact ⟨session, rfl, Function.update_self _ _ _⟩
      · intro other row created
        obtain ⟨rfl, rfl⟩ := only other row created
        simp only [Registry.resume, settledRow, Cell.settled]
        exact ⟨trivial, stamp⟩
      · intro first second one two firstCreated secondCreated
        exact (only first one firstCreated).1.trans (only second two secondCreated).1.symm
      · intro holder row stillHeld
        simp only [Registry.resume, settledRow, Cell.settled] at stillHeld
        cases stillHeld
      · intro other row otherConcerned otherStage
        rcases requests_resume otherStage with ⟨-, impossible⟩ | ⟨here, before⟩
        · cases impossible
        · have otherHeld := (sound.written other row otherConcerned before).1
          rw [held, Option.some.injEq, Prod.mk.injEq] at otherHeld
          exact absurd otherHeld.1.symm here

/-- Under the invariant, idempotence is a property of each answer by itself: it is
the creation of the stored row, or the answer for that row. -/
theorem Sound.idempotent_iff (sound : registry.Sound incoming batteryId) :
    registry.Idempotent incoming batteryId ↔
      ∀ session outcome, (incoming session).batteryId = batteryId →
        registry.requests session = .ended outcome →
          ∃ battery, (registry.batteries batteryId).committed = some battery ∧
            (outcome = .registered battery true ∨
              outcome = answerExisting battery (incoming session)) := by
  constructor
  · intro good session outcome concerned ended
    obtain ⟨creator, battery, created, -, stored, -, answer⟩ :=
      good session outcome concerned ended
    refine ⟨battery, stored, ?_⟩
    by_cases same : session = creator
    · subst same
      exact Or.inl (Registration.ended.inj (ended.symm.trans created.2))
    · exact Or.inr (answer same)
  · intro answers session outcome concerned ended
    obtain ⟨battery, stored, answer⟩ := answers session outcome concerned ended
    obtain ⟨creator, created⟩ := sound.stored battery stored
    have only : ∀ other row, registry.Created incoming batteryId other row → other = creator :=
      fun other row otherCreated => sound.unique other creator row battery otherCreated created
    refine ⟨creator, battery, created, (sound.created creator battery created).2, stored, only, ?_⟩
    intro different
    refine answer.resolve_left fun isCreated => different (only session battery ⟨concerned, ?_⟩)
    rw [ended, isCreated]

theorem answerExisting_ne_integrityError (battery : Battery)
    (request : BatteryRegistrationRequest) :
    answerExisting battery request ≠ .integrityError := by
  unfold answerExisting
  split <;> exact RegistrationOutcome.noConfusion

/-- A statement of a request about the battery keeps the answers idempotent
exactly if it is not an insert that comes too late. -/
theorem idempotent_turn_iff (sound : registry.Sound incoming batteryId)
    (turn : Turn incoming registry session now after)
    (concerned : (incoming session).batteryId = batteryId)
    (good : registry.Idempotent incoming batteryId) :
    after.Idempotent incoming batteryId ↔
      registry.InsertsFirst incoming batteryId (session, now) := by
  rw [(sound.turn turn concerned).idempotent_iff]
  rw [sound.idempotent_iff] at good
  cases turn with
  | finds stage found =>
      refine iff_of_true ?_ fun _ unregistered => by simp [stage] at unregistered
      subst concerned
      rw [Cell.view_of_not_holder (sound.idle (by simp [stage]))] at found
      intro other outcome otherConcerned ended
      rcases requests_resume ended with ⟨rfl, same⟩ | ⟨-, before⟩
      · exact ⟨_, found, Or.inr (Registration.ended.inj same).symm⟩
      · exact good other outcome otherConcerned before
  | misses stage missing =>
      refine iff_of_true ?_ fun _ unregistered => by simp [stage] at unregistered
      intro other outcome otherConcerned ended
      rcases requests_resume ended with ⟨-, impossible⟩ | ⟨-, before⟩
      · cases impossible
      · exact good other outcome otherConcerned before
  | violates stage found =>
      subst concerned
      rw [Cell.view_of_not_holder (sound.idle (by simp [stage]))] at found
      apply iff_of_false
      · intro answers
        obtain ⟨battery, -, created | answer⟩ :=
          answers session .integrityError rfl (Function.update_self _ _ _)
        · cases created
        · exact answerExisting_ne_integrityError _ _ answer.symm
      · intro first
        have absent := first rfl stage
        rw [found] at absent
        cases absent
  | inserts stage free missing =>
      subst concerned
      rw [Cell.view_of_not_holder (sound.idle (by simp [stage]))] at missing
      refine iff_of_true ?_ fun _ _ => missing
      intro other outcome otherConcerned ended
      rcases requests_resume ended with ⟨-, impossible⟩ | ⟨-, before⟩
      · cases impossible
      · obtain ⟨battery, stored, -⟩ := good other outcome otherConcerned before
        rw [missing] at stored
        cases stored
  | @commits battery stage =>
      subst concerned
      refine iff_of_true ?_ fun _ unregistered => by simp [stage] at unregistered
      obtain ⟨held, -⟩ := sound.written session battery rfl stage
      obtain ⟨-, -, absent⟩ := sound.pending session battery held
      intro other outcome otherConcerned ended
      rcases requests_resume ended with ⟨rfl, same⟩ | ⟨-, before⟩
      · have settledRow := Cell.commit_of_holder held
        refine ⟨battery, ?_, Or.inl (Registration.ended.inj same).symm⟩
        simp only [resume, settledRow, Cell.settled]
      · obtain ⟨row, stored, -⟩ := good other outcome otherConcerned before
        rw [absent] at stored
        cases stored

theorem sound_step (turn : SessionId × Timestamp) (sound : registry.Sound incoming batteryId) :
    (registry.step incoming turn).Sound incoming batteryId := by
  unfold step
  cases performed : registry.perform incoming turn.1 turn.2 with
  | none => exact sound
  | some after =>
      by_cases concerned : (incoming turn.1).batteryId = batteryId
      · exact sound.turn (turn_of_perform performed) concerned
      · exact ((turn_of_perform performed).agrees sound concerned).sound sound

theorem idempotent_step_iff (turn : SessionId × Timestamp)
    (sound : registry.Sound incoming batteryId) (good : registry.Idempotent incoming batteryId) :
    (registry.step incoming turn).Idempotent incoming batteryId ↔
      registry.InsertsFirst incoming batteryId turn := by
  unfold step
  cases performed : registry.perform incoming turn.1 turn.2 with
  | none =>
      refine iff_of_true good fun concerned unregistered => ?_
      -- The insert waits for an uncommitted one.
      by_contra stored
      obtain ⟨battery, isStored⟩ := Option.ne_none_iff_exists'.mp stored
      have free : ∀ holder row, (registry.batteries batteryId).pending ≠ some (holder, row) := by
        intro holder row held
        rw [(sound.pending holder row held).2.2] at isStored
        cases isStored
      have notPending : (registry.batteries batteryId).pending = none :=
        Option.eq_none_iff_forall_ne_some.mpr fun holding => free holding.1 holding.2
      rw [perform, unregistered, concerned] at performed
      simp only [Cell.lockedAgainst, notPending, Bool.false_eq_true, if_false] at performed
      cases found : (registry.batteries batteryId).view turn.1 with
      | none => simp [found] at performed
      | some row => simp [found] at performed
  | some after =>
      by_cases concerned : (incoming turn.1).batteryId = batteryId
      · exact idempotent_turn_iff sound (turn_of_perform performed) concerned good
      · exact iff_of_true (((turn_of_perform performed).agrees sound concerned).idempotent good)
          fun isConcerned => absurd isConcerned concerned

theorem start_sound {batteries : Table Battery Battery.batteryId}
    (unregistered : batteries.lookup batteryId = none) :
    (start batteries).Sound incoming batteryId where
  stored battery stored := by
    simp only [start, unregistered, Cell.settled] at stored
    cases stored
  created _ _ created := by cases created.2
  unique _ _ _ _ created := by cases created.2
  pending _ _ held := by cases held
  written _ _ _ stage := by cases stage

end Steps

/-- Over every schedule of any number of registrations, over batteries of which
the one in question is not registered yet: registration of that battery is
idempotent in every state exactly if no request that has found nothing inserts
after another one has committed. -/
theorem registration_run_iff (incoming : SessionId → BatteryRegistrationRequest)
    (batteries : Table Battery Battery.batteryId) (batteryId : BatteryId)
    (unregistered : batteries.lookup batteryId = none) (turns : List (SessionId × Timestamp)) :
    (∀ reached ∈ visited (step incoming) (start batteries) turns,
        reached.Idempotent incoming batteryId) ↔
      ∀ taking ∈ taken (step incoming) (start batteries) turns,
        taking.1.InsertsFirst incoming batteryId taking.2 := by
  apply visited_iff_taken_within (step incoming)
    (fun _ turn sound (_ : True) => sound_step turn sound)
    (fun _ turn sound (_ : True) good => idempotent_step_iff turn sound good)
    (start_sound unregistered)
  · intro session outcome _ ended
    cases ended
  · exact fun _ _ => trivial

/-! ### Registrations that do not overlap -/

section Serial

variable {incoming : SessionId → BatteryRegistrationRequest} {batteryId : BatteryId}
  {registry after : Registry}

/-- The request has looked the battery up in vain and has not committed yet. -/
def UnderWay (registry : Registry) (session : SessionId) : Prop :=
  registry.requests session = .unregistered ∨
    ∃ battery, registry.requests session = .written battery

/-- A request about the battery is not looked up while another one is under way. -/
def Serial (incoming : SessionId → BatteryRegistrationRequest) (batteryId : BatteryId)
    (registry : Registry) (turn : SessionId × Timestamp) : Prop :=
  (incoming turn.1).batteryId = batteryId → registry.requests turn.1 = .waiting →
    ∀ other, (incoming other).batteryId = batteryId → ¬ registry.UnderWay other

/-- At most one request about the battery is under way, and only as long as the
battery is not registered. -/
structure Exclusive (incoming : SessionId → BatteryRegistrationRequest) (batteryId : BatteryId)
    (registry : Registry) : Prop where
  sound : registry.Sound incoming batteryId
  alone : ∀ first second, (incoming first).batteryId = batteryId →
    (incoming second).batteryId = batteryId → registry.UnderWay first →
      registry.UnderWay second → first = second
  absent : ∀ session, (incoming session).batteryId = batteryId → registry.UnderWay session →
    (registry.batteries batteryId).committed = none

theorem underWay_resume_iff {session other : SessionId} {state : Registration}
    {cells : BatteryId → Cell Battery} (different : other ≠ session) :
    (({ registry with batteries := cells } : Registry).resume session state).UnderWay other ↔
      registry.UnderWay other := by
  simp only [UnderWay, resume, Function.update_of_ne different]

/-- A request that leaves the stages under way without touching the row. -/
theorem Exclusive.leaves {session : SessionId} {outcome : RegistrationOutcome}
    {cells : BatteryId → Cell Battery} (exclusive : registry.Exclusive incoming batteryId)
    (sound : (({ registry with batteries := cells } : Registry).resume session
      (.ended outcome)).Sound incoming batteryId)
    (row : (∀ other, other ≠ session → (incoming other).batteryId = batteryId →
      ¬ registry.UnderWay other) ∨ cells = registry.batteries) :
    (({ registry with batteries := cells } : Registry).resume session
      (.ended outcome)).Exclusive incoming batteryId := by
  have stays : ∀ other, (({ registry with batteries := cells } : Registry).resume session
      (.ended outcome)).UnderWay other → other ≠ session ∧ registry.UnderWay other := by
    intro other underWay
    have different : other ≠ session := by
      rintro rfl
      simp [UnderWay, resume] at underWay
    exact ⟨different, (underWay_resume_iff different).mp underWay⟩
  refine ⟨sound, fun first second firstConcerned secondConcerned one two => ?_,
    fun other concerned underWay => ?_⟩
  · exact exclusive.alone first second firstConcerned secondConcerned (stays first one).2
      (stays second two).2
  · obtain ⟨different, before⟩ := stays other underWay
    rcases row with noneLeft | rfl
    · exact absurd before (noneLeft other different concerned)
    · exact exclusive.absent other concerned before

/-- A request that is, or comes, under way while the battery is not registered and
no other request is under way. -/
theorem Exclusive.enters {session : SessionId} {state : Registration}
    {cells : BatteryId → Cell Battery}
    (sound : (({ registry with batteries := cells } : Registry).resume session
      state).Sound incoming batteryId)
    (only : ∀ other, other ≠ session → (incoming other).batteryId = batteryId →
      ¬ registry.UnderWay other)
    (absent : (cells batteryId).committed = none) :
    (({ registry with batteries := cells } : Registry).resume session
      state).Exclusive incoming batteryId := by
  have isSession : ∀ other, (incoming other).batteryId = batteryId →
      (({ registry with batteries := cells } : Registry).resume session state).UnderWay other →
        other = session := by
    intro other concerned underWay
    by_contra different
    exact only other different concerned ((underWay_resume_iff different).mp underWay)
  exact ⟨sound, fun first second firstConcerned secondConcerned one two =>
    (isSession first firstConcerned one).trans (isSession second secondConcerned two).symm,
    fun _ _ _ => absent⟩

theorem Agrees.exclusive (agrees : Agrees incoming batteryId registry after)
    (exclusive : registry.Exclusive incoming batteryId) :
    after.Exclusive incoming batteryId := by
  have same : ∀ session, (incoming session).batteryId = batteryId →
      (after.UnderWay session ↔ registry.UnderWay session) := by
    intro session concerned
    simp only [UnderWay, agrees.requests session concerned]
  refine ⟨agrees.sound exclusive.sound,
    fun first second firstConcerned secondConcerned one two => ?_,
    fun session concerned underWay => ?_⟩
  · exact exclusive.alone first second firstConcerned secondConcerned
      ((same first firstConcerned).mp one) ((same second secondConcerned).mp two)
  · rw [agrees.row]
    exact exclusive.absent session concerned ((same session concerned).mp underWay)

theorem exclusive_step (turn : SessionId × Timestamp)
    (exclusive : registry.Exclusive incoming batteryId)
    (serial : registry.Serial incoming batteryId turn) :
    (registry.step incoming turn).Exclusive incoming batteryId := by
  obtain ⟨session, now⟩ := turn
  unfold step
  cases performed : registry.perform incoming session now with
  | none => exact exclusive
  | some after =>
      have taken := turn_of_perform performed
      by_cases concerned : (incoming session).batteryId = batteryId
      swap
      · exact (taken.agrees exclusive.sound concerned).exclusive exclusive
      have sound := exclusive.sound.turn taken concerned
      have onlyIf : registry.UnderWay session → ∀ other, other ≠ session →
          (incoming other).batteryId = batteryId → ¬ registry.UnderWay other :=
        fun underWay other different otherConcerned otherUnderWay =>
          different (exclusive.alone other session otherConcerned concerned otherUnderWay underWay)
      cases taken with
      | finds stage found => exact exclusive.leaves sound (Or.inr rfl)
      | violates stage found => exact exclusive.leaves sound (Or.inr rfl)
      | misses stage missing =>
          subst concerned
          rw [Cell.view_of_not_holder (exclusive.sound.idle (by simp [stage]))] at missing
          exact Exclusive.enters sound
            (fun other _ otherConcerned => serial rfl stage other otherConcerned) missing
      | inserts stage free missing =>
          subst concerned
          refine Exclusive.enters sound (onlyIf (Or.inl stage)) ?_
          rw [Function.update_self]
          exact exclusive.absent session rfl (Or.inl stage)
      | commits stage => exact exclusive.leaves sound (Or.inl (onlyIf (Or.inr ⟨_, stage⟩)))

/-- Registrations that do not overlap are idempotent, whatever else is registered
in between. -/
theorem registration_of_serial (batteries : Table Battery Battery.batteryId)
    (unregistered : batteries.lookup batteryId = none) (turns : List (SessionId × Timestamp))
    (serial : ∀ taking ∈ taken (step incoming) (start batteries) turns,
      taking.1.Serial incoming batteryId taking.2) :
    ∀ reached ∈ visited (step incoming) (start batteries) turns,
      reached.Idempotent incoming batteryId := by
  have atStart : (start batteries).Exclusive incoming batteryId :=
    ⟨start_sound unregistered, fun _ _ _ _ underWay => by simp [UnderWay, start] at underWay,
      fun _ _ underWay => by simp [UnderWay, start] at underWay⟩
  refine (visited_iff_taken_within (step incoming)
    (fun _ turn exclusive serial => exclusive_step turn exclusive serial)
    (fun _ turn exclusive (_ : Serial ..) good => idempotent_step_iff turn exclusive.sound good)
    atStart (fun _ _ _ ended => by cases ended) turns serial).mpr ?_
  have exclusive := taken_invariant (step incoming)
    (fun _ turn exclusive serial => exclusive_step turn exclusive serial) atStart turns serial
  intro taking member concerned waits
  exact (exclusive taking member).absent taking.2.1 concerned (Or.inl waits)

end Serial

/-! ### The race -/

def sampleRegistration : BatteryRegistrationRequest where
  batteryId := "BAT-000001"
  capacityKwh := 10
  maxPowerKw := 5
  nominalVoltage := 48
  latitude := none
  longitude := none
  installationDate := none
  profileType := .residential
  capacityKwhBound := by norm_num
  maxPowerKwBound := by norm_num
  nominalVoltageBound := by norm_num
  latitudeBounds := by simp
  longitudeBounds := by simp

/-- Both requests look the battery up before either inserts it. -/
def overlappingLookups : List (SessionId × Timestamp) :=
  [(0, 0), (1, 0), (0, 0), (0, 0), (1, 0)]

/-- The second of two identical registrations ends in an `IntegrityError`. -/
theorem registration_race :
    ¬ ∀ (incoming : SessionId → BatteryRegistrationRequest)
      (turns : List (SessionId × Timestamp)),
      ∀ reached ∈ visited (step incoming) (start Table.empty) turns,
        reached.Idempotent incoming "BAT-000001" := by
  intro idempotent
  let last := overlappingLookups.foldl (step fun _ => sampleRegistration) (start Table.empty)
  have failed : last.requests 1 = .ended .integrityError := by decide +kernel
  have good := idempotent (fun _ => sampleRegistration) overlappingLookups last
    (by simp [visited, overlappingLookups, last])
  obtain ⟨creator, battery, created, -, -, -, answer⟩ := good 1 .integrityError rfl failed
  have other : 1 ≠ creator := by
    rintro rfl
    rw [created.2] at failed
    cases failed
  exact answerExisting_ne_integrityError _ _ (answer other).symm

theorem largeCapacity_pos : (0 : ℚ) < 20 := by norm_num

/-- The same request twice, and one for another capacity. -/
def sampleIncoming (session : SessionId) : BatteryRegistrationRequest :=
  if session = 2 then
    { sampleRegistration with capacityKwh := 20, capacityKwhBound := largeCapacity_pos }
  else sampleRegistration

/-- A lookup between an insert and its commit waits with its own insert, and the others come
after the commit. -/
def waitingInsert : List (SessionId × Timestamp) :=
  [(0, 0), (0, 1), (1, 2), (1, 3), (0, 4), (2, 5)]

/-- The second request has not inserted yet, and the third one is a conflict. -/
theorem sample_registration_run :
    (waitingInsert.foldl (step sampleIncoming) (start Table.empty)).requests 0 =
        .ended (.registered (sampleRegistration.toBattery 1) true) ∧
      (waitingInsert.foldl (step sampleIncoming) (start Table.empty)).requests 1 = .unregistered ∧
      ∀ reached ∈ visited (step sampleIncoming) (start Table.empty) waitingInsert,
        reached.Idempotent sampleIncoming "BAT-000001" := by
  have ends : (waitingInsert.foldl (step sampleIncoming) (start Table.empty)).requests 0 =
        .ended (.registered (sampleRegistration.toBattery 1) true) ∧
      (waitingInsert.foldl (step sampleIncoming) (start Table.empty)).requests 1 =
        .unregistered := by
    decide +kernel
  exact ⟨ends.1, ends.2,
    (registration_run_iff sampleIncoming Table.empty "BAT-000001" rfl waitingInsert).mpr
      (by decide +kernel)⟩

end Registry

end VoltStream.Backend
