/-
Module: VoltStream.Relational.LockOrder
Purpose: Two-phase locking in a fixed order: transactions that demand their
  resources in the order of a rank, and hold them until they commit, never wait
  for one another in a circle.
Trusted boundary: none
Main exports: WaitsFor, acyclic_of_ordered, Demand, Locker, LockStep, Ranked,
  acyclic_of_trace
-/
import VoltStream.Relational.Family
import VoltStream.Relational.Run

namespace VoltStream.Relational

/-! ### Waiting in a circle -/

section Waiting

variable {ι R τ : Type*} [LinearOrder τ]

/-- `first` wants a resource that another one, `second`, holds. -/
def WaitsFor (holds wants : ι → R → Prop) (first second : ι) : Prop :=
  first ≠ second ∧ ∃ resource, wants first resource ∧ holds second resource

/-- Along a chain of waiting the wanted resources climb the rank. -/
theorem exists_held_above {holds wants : ι → R → Prop} {rank : R → τ}
    (ordered : ∀ owner held wanted, holds owner held → wants owner wanted →
      rank held < rank wanted) {first last : ι}
    (chain : Relation.TransGen (WaitsFor holds wants) first last) :
    ∃ wanted held, wants first wanted ∧ holds last held ∧ rank wanted ≤ rank held := by
  induction chain with
  | single waits =>
      obtain ⟨-, resource, wanted, held⟩ := waits
      exact ⟨resource, resource, wanted, held, le_refl _⟩
  | tail _ waits ih =>
      obtain ⟨wanted, held, isWanted, isHeld, climbs⟩ := ih
      obtain ⟨-, next, nextWanted, nextHeld⟩ := waits
      have higher := ordered _ held next isHeld nextWanted
      exact ⟨wanted, next, isWanted, nextHeld, climbs.trans higher.le⟩

/-- If everyone only wants what ranks above all that it holds, nobody waits for
itself through others. -/
theorem acyclic_of_ordered {holds wants : ι → R → Prop} (rank : R → τ)
    (ordered : ∀ owner held wanted, holds owner held → wants owner wanted →
      rank held < rank wanted) (owner : ι) :
    ¬ Relation.TransGen (WaitsFor holds wants) owner owner := by
  intro circle
  obtain ⟨wanted, held, isWanted, isHeld, climbs⟩ := exists_held_above ordered circle
  exact absurd (ordered owner held wanted isHeld isWanted) (not_lt.mpr climbs)

end Waiting

/-! ### Transactions that demand resources one after the other -/

/-- How a statement locks a resource: in any case, only if it turns out to have
something to lock, or only if nobody else holds it (`SKIP LOCKED`). -/
inductive Mode where
  | always
  | maybe
  | unlessHeld
deriving Repr, DecidableEq

structure Demand (R : Type*) where
  resource : R
  mode : Mode
deriving Repr, DecidableEq

/-- What is left of the transactions of a session, and what its current one
holds. -/
structure Locker (R : Type*) where
  todo : List (List (Demand R))
  held : List R
deriving Repr, DecidableEq

section Locking

variable {ι R τ : Type*} [DecidableEq ι] [LinearOrder τ]

/-- A session that has not begun. -/
def Locker.start (transactions : List (List (Demand R))) : Locker R :=
  { todo := transactions, held := [] }

def Holds (lockers : ι → Locker R) (owner : ι) (resource : R) : Prop :=
  resource ∈ (lockers owner).held

/-- The session's next statement has to lock the resource before it can go on.
A statement that skips locked rows never has to. -/
def Wants (lockers : ι → Locker R) (owner : ι) (resource : R) : Prop :=
  ∃ demand rest later, (lockers owner).todo = (demand :: rest) :: later ∧
    demand.resource = resource ∧ demand.mode ≠ .unlessHeld

/-- One step of one session: its next statement locks its resource, which nobody
else holds; it passes without locking; the transaction commits; or the session
fails. -/
inductive LockStep (lockers : ι → Locker R) (owner : ι) : (ι → Locker R) → Prop where
  | take {demand : Demand R} {rest : List (Demand R)} {later : List (List (Demand R))}
      (next : (lockers owner).todo = (demand :: rest) :: later)
      (free : ∀ other, other ≠ owner → ¬ Holds lockers other demand.resource) :
      LockStep lockers owner (Function.update lockers owner
        { todo := rest :: later, held := demand.resource :: (lockers owner).held })
  | pass {demand : Demand R} {rest : List (Demand R)} {later : List (List (Demand R))}
      (next : (lockers owner).todo = (demand :: rest) :: later) (may : demand.mode ≠ .always) :
      LockStep lockers owner (Function.update lockers owner
        { todo := rest :: later, held := (lockers owner).held })
  | commit {later : List (List (Demand R))} (next : (lockers owner).todo = [] :: later) :
      LockStep lockers owner (Function.update lockers owner { todo := later, held := [] })
  | fail :
      LockStep lockers owner (Function.update lockers owner { todo := [], held := [] })

/-- A transaction demands its resources in the order of the rank. -/
def Ranked (rank : R → τ) (transaction : List (Demand R)) : Prop :=
  transaction.Pairwise fun first second => rank first.resource < rank second.resource

/-- The session keeps to the rank: all its transactions do, and what the current
one still demands ranks above what it holds. -/
structure Locker.KeepsTo (rank : R → τ) (locker : Locker R) : Prop where
  ranked : ∀ transaction ∈ locker.todo, Ranked rank transaction
  above : ∀ current later, locker.todo = current :: later →
    ∀ resource ∈ locker.held, ∀ demand ∈ current, rank resource < rank demand.resource

theorem Locker.keepsTo_start {rank : R → τ} {transactions : List (List (Demand R))}
    (ranked : ∀ transaction ∈ transactions, Ranked rank transaction) :
    (Locker.start transactions).KeepsTo rank where
  ranked := ranked
  above _ _ _ resource impossible := by cases impossible

theorem keepsTo_step {rank : R → τ} {lockers after : ι → Locker R} {owner : ι}
    (keeps : ∀ session, (lockers session).KeepsTo rank) (step : LockStep lockers owner after) :
    ∀ session, (after session).KeepsTo rank := by
  obtain ⟨ranked, above⟩ := keeps owner
  cases step with
  | @take demand rest later next free =>
      rw [next, List.forall_mem_cons] at ranked
      obtain ⟨first, restRanked⟩ := List.pairwise_cons.mp ranked.1
      apply forall_update (Locker.KeepsTo rank) keeps
      constructor
      · exact List.forall_mem_cons.mpr ⟨restRanked, ranked.2⟩
      · rintro current following split resource isHeld wanted isWanted
        obtain ⟨rfl, rfl⟩ := List.cons.inj split
        rcases List.mem_cons.mp isHeld with rfl | earlier
        · exact first wanted isWanted
        · exact above _ _ next resource earlier wanted (List.mem_cons_of_mem _ isWanted)
  | @pass demand rest later next may =>
      rw [next, List.forall_mem_cons] at ranked
      apply forall_update (Locker.KeepsTo rank) keeps
      constructor
      · exact List.forall_mem_cons.mpr ⟨(List.pairwise_cons.mp ranked.1).2, ranked.2⟩
      · rintro current following split resource isHeld wanted isWanted
        obtain ⟨rfl, rfl⟩ := List.cons.inj split
        exact above _ _ next resource isHeld wanted (List.mem_cons_of_mem _ isWanted)
  | @commit later next =>
      rw [next, List.forall_mem_cons] at ranked
      exact forall_update (Locker.KeepsTo rank) keeps (Locker.keepsTo_start ranked.2)
  | fail =>
      have idle : (Locker.start ([] : List (List (Demand R)))).KeepsTo rank :=
        Locker.keepsTo_start fun _ impossible => by cases impossible
      exact forall_update (Locker.KeepsTo rank) keeps idle

/-- Sessions whose transactions all keep to one rank never wait in a circle. -/
theorem acyclic_of_trace (rank : R → τ) {transactions : ι → List (List (Demand R))}
    (ranked : ∀ session, ∀ transaction ∈ transactions session, Ranked rank transaction)
    {schedule : List ι} {lockers : ι → Locker R}
    (run : Trace LockStep (fun session => Locker.start (transactions session)) schedule lockers)
    (owner : ι) :
    ¬ Relation.TransGen (WaitsFor (Holds lockers) (Wants lockers)) owner owner := by
  have keeps : ∀ session, (lockers session).KeepsTo rank :=
    run.invariant (fun _ lockers => ∀ session, (lockers session).KeepsTo rank)
      (fun session => Locker.keepsTo_start (ranked session))
      fun _ _ _ _ keeps step => keepsTo_step keeps step
  apply acyclic_of_ordered rank
  intro session held wanted isHeld isWanted
  obtain ⟨demand, rest, later, next, rfl, -⟩ := isWanted
  exact (keeps session).above _ _ next held isHeld demand (List.mem_cons_self ..)

end Locking

end VoltStream.Relational
