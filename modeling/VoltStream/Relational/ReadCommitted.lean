/-
Module: VoltStream.Relational.ReadCommitted
Purpose: Rows under READ COMMITTED: committed and uncommitted versions, row
  locks, a partial unique index, an atomic upsert against it and an update by
  key.
Trusted boundary: human-reviewed spec of PostgreSQL's READ COMMITTED behaviour
Main exports: Cell, Cell.outcome, Heap, Heap.upsert, Heap.update, Heap.Sound,
  Heap.upsert_cases, Heap.update_cases
-/
import Mathlib

namespace VoltStream.Relational

/-- A database session; it runs one transaction at a time. -/
abbrev SessionId := Nat

/-- One row: its committed version, and the uncommitted version of the session
that holds the row lock. -/
structure Cell (ρ : Type*) where
  committed : Option ρ
  pending : Option (SessionId × ρ)

namespace Cell

variable {ρ : Type*}

/-- A row nobody is writing. -/
def settled (row : Option ρ) : Cell ρ := { committed := row, pending := none }

/-- The version that is left if, of the open transactions, exactly those of the
sessions in `commits` commit. -/
def outcome (commits : SessionId → Bool) (cell : Cell ρ) : Option ρ :=
  match cell.pending with
  | some (holder, row) => if commits holder then some row else cell.committed
  | none => cell.committed

/-- What a statement of the session sees: its own uncommitted version, else the
committed one. -/
def view (session : SessionId) (cell : Cell ρ) : Option ρ :=
  cell.outcome fun other => other = session

/-- Another session holds the row lock. -/
def lockedAgainst (session : SessionId) (cell : Cell ρ) : Bool :=
  match cell.pending with
  | some (holder, _) => holder ≠ session
  | none => false

/-- A write takes the row lock and leaves an uncommitted version. -/
def write (session : SessionId) (row : ρ) (cell : Cell ρ) : Cell ρ :=
  { cell with pending := some (session, row) }

def commit (session : SessionId) (cell : Cell ρ) : Cell ρ :=
  match cell.pending with
  | some (holder, row) => if holder = session then settled (some row) else cell
  | none => cell

def rollback (session : SessionId) (cell : Cell ρ) : Cell ρ :=
  match cell.pending with
  | some (holder, _) => if holder = session then settled cell.committed else cell
  | none => cell

@[simp] theorem outcome_settled (commits : SessionId → Bool) (row : Option ρ) :
    (settled row).outcome commits = row := rfl

/-- What is committed is what is left if no open transaction commits. -/
theorem outcome_none (cell : Cell ρ) : cell.outcome (fun _ => false) = cell.committed := by
  unfold outcome
  split <;> rfl

theorem outcome_of_not_pending {cell : Cell ρ} (free : cell.pending = none)
    (commits : SessionId → Bool) : cell.outcome commits = cell.committed := by
  rw [outcome, free]

theorem outcome_of_pending {cell : Cell ρ} {holder : SessionId} {row : ρ}
    (held : cell.pending = some (holder, row)) (commits : SessionId → Bool) :
    cell.outcome commits = if commits holder then some row else cell.committed := by
  rw [outcome, held]

/-- A session that is not locked out sees what is left if it commits. -/
theorem outcome_eq_view {session : SessionId} {cell : Cell ρ}
    (free : cell.lockedAgainst session = false) {commits : SessionId → Bool}
    (own : commits session = true) : cell.outcome commits = cell.view session := by
  unfold lockedAgainst at free
  unfold view outcome
  cases held : cell.pending with
  | none => rfl
  | some holding =>
      obtain ⟨holder, row⟩ := holding
      simp only [held, ne_eq, decide_not, Bool.not_eq_false', decide_eq_true_eq] at free
      simp [free, own]

/-- A write replaces what is left if the session commits, and nothing else. -/
theorem outcome_write {session : SessionId} {cell : Cell ρ}
    (free : cell.lockedAgainst session = false) (row : ρ) (commits : SessionId → Bool) :
    (cell.write session row).outcome commits =
      if commits session then some row else cell.outcome commits := by
  unfold lockedAgainst at free
  unfold write outcome
  cases held : cell.pending with
  | none => rfl
  | some holding =>
      obtain ⟨holder, old⟩ := holding
      simp only [held, ne_eq, decide_not, Bool.not_eq_false', decide_eq_true_eq] at free
      subst free
      by_cases own : commits holder = true <;> simp [own]

theorem outcome_commit (session : SessionId) (cell : Cell ρ) (commits : SessionId → Bool) :
    (cell.commit session).outcome commits =
      cell.outcome fun other => decide (other = session) || commits other := by
  unfold commit
  cases held : cell.pending with
  | none => rw [outcome_of_not_pending held, outcome_of_not_pending held]
  | some holding =>
      obtain ⟨holder, row⟩ := holding
      rw [outcome_of_pending held]
      by_cases own : holder = session
      · simp [own]
      · simp only [own, if_false, decide_false, Bool.false_or]
        rw [outcome_of_pending held]

theorem outcome_rollback (session : SessionId) (cell : Cell ρ) (commits : SessionId → Bool) :
    (cell.rollback session).outcome commits =
      cell.outcome fun other => decide (other ≠ session) && commits other := by
  unfold rollback
  cases held : cell.pending with
  | none => rw [outcome_of_not_pending held, outcome_of_not_pending held]
  | some holding =>
      obtain ⟨holder, row⟩ := holding
      rw [outcome_of_pending held]
      by_cases own : holder = session
      · simp [own]
      · simp only [own, if_false, ne_eq, not_false_eq_true, decide_true, Bool.true_and]
        rw [outcome_of_pending held]

theorem committed_commit (session : SessionId) (cell : Cell ρ) :
    (cell.commit session).committed = cell.view session := by
  rw [← outcome_none, outcome_commit, view]
  simp

theorem committed_rollback (session : SessionId) (cell : Cell ρ) :
    (cell.rollback session).committed = cell.committed := by
  rw [← outcome_none, outcome_rollback, ← outcome_none cell]
  simp

/-- After a commit of its session no version of the row is uncommitted, any other
session's stays. -/
theorem pending_commit {session holder : SessionId} {cell : Cell ρ} {row : ρ} :
    (cell.commit session).pending = some (holder, row) ↔
      cell.pending = some (holder, row) ∧ holder ≠ session := by
  unfold commit
  cases held : cell.pending with
  | none => simp [held]
  | some holding =>
      obtain ⟨other, version⟩ := holding
      by_cases own : other = session
      · subst own
        simp only [settled, if_true, reduceCtorEq, Option.some.injEq, Prod.mk.injEq, false_iff]
        rintro ⟨⟨rfl, -⟩, different⟩
        exact different rfl
      · simp only [own, if_false, held, Option.some.injEq, Prod.mk.injEq]
        constructor
        · rintro ⟨rfl, rfl⟩
          exact ⟨⟨rfl, rfl⟩, own⟩
        · exact And.left

/-- A rollback ends the same locks as a commit. -/
theorem pending_rollback {session holder : SessionId} {cell : Cell ρ} {row : ρ} :
    (cell.rollback session).pending = some (holder, row) ↔
      cell.pending = some (holder, row) ∧ holder ≠ session := by
  have same : (cell.rollback session).pending = (cell.commit session).pending := by
    unfold rollback commit
    cases cell.pending with
    | none => rfl
    | some holding =>
        dsimp only
        split <;> rfl
  rw [same]
  exact pending_commit

/-- A commit leaves a row alone that its session has not written. -/
theorem commit_of_not_holder {session : SessionId} {cell : Cell ρ}
    (idle : ∀ row, cell.pending ≠ some (session, row)) : cell.commit session = cell := by
  unfold commit
  cases held : cell.pending with
  | none => rfl
  | some holding =>
      obtain ⟨holder, row⟩ := holding
      have other : holder ≠ session := fun same => idle row (same ▸ held)
      simp [other]

/-- A session that has not written a row sees its committed version. -/
theorem view_of_not_holder {session : SessionId} {cell : Cell ρ}
    (idle : ∀ row, cell.pending ≠ some (session, row)) : cell.view session = cell.committed := by
  cases held : cell.pending with
  | none => exact outcome_of_not_pending held _
  | some holding =>
      obtain ⟨holder, row⟩ := holding
      have other : holder ≠ session := fun same => idle row (same ▸ held)
      rw [view, outcome_of_pending held, if_neg (by simpa using other)]

/-- A session that has written a row sees and commits what it has written. -/
theorem commit_of_holder {session : SessionId} {cell : Cell ρ} {row : ρ}
    (held : cell.pending = some (session, row)) : cell.commit session = settled (some row) := by
  rw [commit, held]
  simp

/-- A session that is not locked out finds no uncommitted version but its own. -/
theorem holder_of_free {session holder : SessionId} {cell : Cell ρ} {row : ρ}
    (free : cell.lockedAgainst session = false) (held : cell.pending = some (holder, row)) :
    holder = session := by
  simpa [lockedAgainst, held] using free

/-- Where a session that is not locked out sees no row, there is none, and nobody is
writing one. -/
theorem vacant_of_view {session : SessionId} {cell : Cell ρ}
    (free : cell.lockedAgainst session = false) (absent : cell.view session = none) :
    cell.pending = none ∧ cell.committed = none := by
  cases held : cell.pending with
  | none => exact ⟨rfl, by rwa [view, outcome_of_not_pending held] at absent⟩
  | some holding =>
      obtain ⟨holder, row⟩ := holding
      have own := holder_of_free free held
      rw [view, outcome_of_pending held] at absent
      simp [own] at absent

/-- A session sees what it has written. -/
@[simp] theorem view_write (session : SessionId) (row : ρ) (cell : Cell ρ) :
    (cell.write session row).view session = some row := by
  simp [write, view, outcome]

@[simp] theorem free_write (session : SessionId) (row : ρ) (cell : Cell ρ) :
    (cell.write session row).lockedAgainst session = false := by
  simp [write, lockedAgainst]

/-- A commit changes nothing for the session that commits. -/
@[simp] theorem view_commit (session : SessionId) (cell : Cell ρ) :
    (cell.commit session).view session = cell.view session := by
  rw [view, outcome_commit, view]
  simp

theorem free_commit {session : SessionId} {cell : Cell ρ}
    (free : cell.lockedAgainst session = false) :
    (cell.commit session).lockedAgainst session = false := by
  cases held : (cell.commit session).pending with
  | none => simp [lockedAgainst, held]
  | some holding =>
      obtain ⟨stillHeld, different⟩ := pending_commit.mp held
      exact absurd (holder_of_free free stillHeld) different

/-- A row nobody is writing is what anyone sees. -/
theorem eq_settled_view {cell : Cell ρ} (free : cell.pending = none) (session : SessionId) :
    cell = settled (cell.view session) := by
  rw [view, outcome_of_not_pending free, settled, ← free]

/-- A committed row does not vanish, whoever commits. -/
theorem outcome_isSome_of_committed {cell : Cell ρ} {row : ρ} (present : cell.committed = some row)
    (commits : SessionId → Bool) : ∃ left, cell.outcome commits = some left := by
  unfold outcome
  split
  · split
    · exact ⟨_, rfl⟩
    · exact ⟨row, present⟩
  · exact ⟨row, present⟩

/-- A row that is there if some transactions commit is there if more of them do. -/
theorem outcome_ne_none_of_le {cell : Cell ρ} {few more : SessionId → Bool}
    (le : ∀ session, few session = true → more session = true)
    (present : cell.outcome few ≠ none) : cell.outcome more ≠ none := by
  cases held : cell.pending with
  | none =>
      rw [outcome_of_not_pending held] at present ⊢
      exact present
  | some holding =>
      obtain ⟨holder, row⟩ := holding
      rw [outcome_of_pending held] at present ⊢
      by_cases commits : more holder = true
      · simp [commits]
      · have refuses : few holder ≠ true := fun early => commits (le holder early)
        simpa [commits, refuses] using present

end Cell

/-- A table whose rows are addressed by the position at which their id was
drawn; `size` positions have been drawn. -/
structure Heap (ρ : Type*) where
  cells : Nat → Cell ρ
  size : Nat

/-- What becomes of a statement: it waits for another transaction, it violates
the unique index, or it is done. -/
inductive Verdict (α : Type*) where
  | waits
  | refused
  | done (result : α)

namespace Heap

variable {ρ ι : Type*} (entry : ρ → Option ι)

/-- The session writes the row at `id`. -/
def write (session : SessionId) (id : Nat) (row : ρ) (heap : Heap ρ) : Heap ρ :=
  { heap with cells := Function.update heap.cells id ((heap.cells id).write session row) }

section Statements

variable [DecidableEq ι]

/-- Another open transaction has written a row that has, before or after the
write, an index entry for the key: only its end decides whether there is a
conflict. -/
def contended (session : SessionId) (key : ι) (heap : Heap ρ) : Bool :=
  (List.range heap.size).any fun id =>
    (heap.cells id).lockedAgainst session &&
      (decide ((heap.cells id).committed.bind entry = some key) ||
        decide ((heap.cells id).pending.bind (fun held => entry held.2) = some key))

/-- The row with an index entry for the key, as the session sees the table. -/
def find (session : SessionId) (key : ι) (heap : Heap ρ) : Option (Nat × ρ) :=
  (List.range heap.size).findSome? fun id =>
    ((heap.cells id).view session).bind fun row =>
      if entry row = some key then some (id, row) else none

/-- Writing the row at `id` would be a second index entry for its key. -/
def violates (session : SessionId) (id : Nat) (row : ρ) (heap : Heap ρ) : Bool :=
  (List.range heap.size).any fun other =>
    decide (other ≠ id) && decide (entry row ≠ none) &&
      decide (((heap.cells other).view session).bind entry = entry row)

/-- `INSERT ... ON CONFLICT (key) WHERE covered DO UPDATE`, one atomic statement.
An id is drawn for the insert whether or not it is needed. -/
def upsert (session : SessionId) (key : ι) (fresh : Nat → ρ) (retain : ρ → ρ) (heap : Heap ρ) :
    Verdict (Heap ρ) :=
  if heap.contended entry session key then .waits
  else
    let target :=
      match heap.find entry session key with
      | some (id, old) => (id, retain old)
      | none => (heap.size, fresh heap.size)
    if heap.violates entry session target.1 target.2 then .refused
    else .done { heap.write session target.1 target.2 with size := heap.size + 1 }

/-- `UPDATE ... WHERE id = ...`: it waits for the row lock and then changes the
version that it finds. -/
def update (session : SessionId) (id : Nat) (change : ρ → ρ) (heap : Heap ρ) :
    Verdict (Heap ρ) :=
  if (heap.cells id).lockedAgainst session then .waits
  else
    match (heap.cells id).view session with
    | none => .done heap
    | some old =>
        if heap.violates entry session id (change old) then .refused
        else .done (heap.write session id (change old))

end Statements

def commit (session : SessionId) (heap : Heap ρ) : Heap ρ :=
  { heap with cells := fun id => (heap.cells id).commit session }

def rollback (session : SessionId) (heap : Heap ρ) : Heap ρ :=
  { heap with cells := fun id => (heap.cells id).rollback session }

/-- The invariant of the index: nothing is stored at an undrawn id, and there is
at most one entry for a key whichever open transactions commit. -/
structure Sound (heap : Heap ρ) : Prop where
  drawn : ∀ id, heap.size ≤ id → heap.cells id = Cell.settled none
  unique : ∀ commits first second key,
    ((heap.cells first).outcome commits).bind entry = some key →
    ((heap.cells second).outcome commits).bind entry = some key → first = second

/-- Every version of every row is good. -/
def Every (Good : Nat → ρ → Prop) (heap : Heap ρ) : Prop :=
  ∀ id commits row, (heap.cells id).outcome commits = some row → Good id row

/-- Every version of a row follows from its committed version. -/
def Follows (Rel : ρ → ρ → Prop) (heap : Heap ρ) : Prop :=
  ∀ id commits old new, (heap.cells id).committed = some old →
    (heap.cells id).outcome commits = some new → Rel old new

variable {entry} {session : SessionId} {heap : Heap ρ}

theorem outcome_write {id : Nat} (free : (heap.cells id).lockedAgainst session = false) (row : ρ)
    (other : Nat) (commits : SessionId → Bool) :
    ((heap.write session id row).cells other).outcome commits =
      if other = id ∧ commits session = true then some row
      else (heap.cells other).outcome commits := by
  by_cases same : other = id
  · subst same
    simp [write, Cell.outcome_write free]
  · simp [write, same]

theorem committed_write (id : Nat) (row : ρ) (other : Nat) :
    ((heap.write session id row).cells other).committed = (heap.cells other).committed := by
  by_cases same : other = id
  · subst same
    simp [write, Cell.write]
  · simp [write, same]

/-- A session sees what it has written. -/
theorem view_write (id : Nat) (row : ρ) :
    ((heap.write session id row).cells id).view session = some row := by
  simp [write]

theorem lockedAgainst_of_drawn (sound : heap.Sound entry) {id : Nat} (undrawn : heap.size ≤ id)
    (session : SessionId) : (heap.cells id).lockedAgainst session = false := by
  rw [sound.drawn id undrawn]
  rfl

theorem lt_size_of_outcome (sound : heap.Sound entry) {id : Nat} {commits : SessionId → Bool}
    {row : ρ} (present : (heap.cells id).outcome commits = some row) : id < heap.size := by
  by_contra undrawn
  rw [sound.drawn id (not_lt.mp undrawn)] at present
  cases present

/-- Where the session may write a row it sees under the key, no other row has
an entry for the key if the session commits. -/
theorem unique_of_view (sound : heap.Sound entry) {key : ι} {id : Nat} {row : ρ}
    (free : (heap.cells id).lockedAgainst session = false)
    (seen : (heap.cells id).view session = some row) (keyed : entry row = some key)
    {commits : SessionId → Bool} (own : commits session = true) {other : Nat}
    (different : other ≠ id) : ((heap.cells other).outcome commits).bind entry ≠ some key := by
  intro hit
  apply different
  apply sound.unique commits other id key hit
  rw [Cell.outcome_eq_view free own, seen, Option.bind_some, keyed]

/-- A write keeps the index sound if no other row has an entry for the new key
should the session commit. -/
theorem Sound.write (sound : heap.Sound entry) {id : Nat} {row : ρ} (inside : id < heap.size)
    (free : (heap.cells id).lockedAgainst session = false)
    (alone : ∀ commits : SessionId → Bool, commits session = true → ∀ key, entry row = some key →
      ∀ other, other ≠ id → ((heap.cells other).outcome commits).bind entry ≠ some key) :
    (heap.write session id row).Sound entry where
  drawn other undrawn := by
    have different : other ≠ id := fun same => absurd inside (not_lt.mpr (same ▸ undrawn))
    simpa [Heap.write, different] using sound.drawn other undrawn
  unique commits first second key := by
    rw [outcome_write free, outcome_write free]
    intro firstKey secondKey
    by_cases own : commits session = true
    · simp only [own, and_true] at firstKey secondKey
      by_cases one : first = id <;> by_cases two : second = id
      · exact one.trans two.symm
      · rw [if_pos one, Option.bind_some] at firstKey
        rw [if_neg two] at secondKey
        exact absurd secondKey (alone commits own key firstKey second two)
      · rw [if_neg one] at firstKey
        rw [if_pos two, Option.bind_some] at secondKey
        exact absurd firstKey (alone commits own key secondKey first one)
      · rw [if_neg one] at firstKey
        rw [if_neg two] at secondKey
        exact sound.unique commits first second key firstKey secondKey
    · rw [if_neg (fun both => own both.2)] at firstKey secondKey
      exact sound.unique commits first second key firstKey secondKey

theorem Sound.grow (sound : heap.Sound entry) :
    ({ heap with size := heap.size + 1 } : Heap ρ).Sound entry where
  drawn id undrawn := sound.drawn id (Nat.le_of_succ_le undrawn)
  unique := sound.unique

theorem Sound.commit (sound : heap.Sound entry) (session : SessionId) :
    (heap.commit session).Sound entry where
  drawn id undrawn := by
    simp only [Heap.commit, sound.drawn id undrawn]
    rfl
  unique commits first second key := by
    simp only [Heap.commit, Cell.outcome_commit]
    exact sound.unique _ first second key

theorem Sound.rollback (sound : heap.Sound entry) (session : SessionId) :
    (heap.rollback session).Sound entry where
  drawn id undrawn := by
    simp only [Heap.rollback, sound.drawn id undrawn]
    rfl
  unique commits first second key := by
    simp only [Heap.rollback, Cell.outcome_rollback]
    exact sound.unique _ first second key

section Placement

variable [DecidableEq ι] {key : ι} {fresh : Nat → ρ} {retain : ρ → ρ}

theorem find_some {id : Nat} {row : ρ}
    (found : heap.find entry session key = some (id, row)) :
    (heap.cells id).view session = some row ∧ entry row = some key := by
  obtain ⟨candidate, -, hit⟩ := List.exists_of_findSome?_eq_some found
  obtain ⟨version, seen, covered⟩ := Option.bind_eq_some_iff.mp hit
  split at covered
  · rename_i keyed
    cases covered
    exact ⟨seen, keyed⟩
  · cases covered

theorem find_none (sound : heap.Sound entry)
    (absent : heap.find entry session key = none) (id : Nat) :
    ((heap.cells id).view session).bind entry ≠ some key := by
  intro hit
  obtain ⟨row, seen, keyed⟩ := Option.bind_eq_some_iff.mp hit
  have searched := List.findSome?_eq_none_iff.mp absent id
    (List.mem_range.mpr (lt_size_of_outcome sound seen))
  rw [seen, Option.bind_some, if_pos keyed] at searched
  cases searched

/-- With no contention, a row someone else is writing has no entry for the key,
whatever becomes of the write. -/
theorem outcome_of_not_contended (sound : heap.Sound entry)
    (calm : heap.contended entry session key = false) {id : Nat}
    (locked : (heap.cells id).lockedAgainst session = true) (commits : SessionId → Bool) :
    ((heap.cells id).outcome commits).bind entry ≠ some key := by
  intro hit
  obtain ⟨row, left, -⟩ := Option.bind_eq_some_iff.mp hit
  have quiet := List.any_eq_false.mp calm id (List.mem_range.mpr (lt_size_of_outcome sound left))
  cases held : (heap.cells id).pending with
  | none => simp [Cell.lockedAgainst, held] at locked
  | some holding =>
      obtain ⟨holder, version⟩ := holding
      rw [Cell.outcome_of_pending held] at hit
      apply quiet
      rw [locked, Bool.true_and, Bool.or_eq_true]
      by_cases commitsHolder : commits holder = true
      · rw [if_pos commitsHolder] at hit
        exact Or.inr (by simpa [held] using hit)
      · rw [if_neg commitsHolder] at hit
        exact Or.inl (by simpa using hit)

/-- Where an upsert that goes through writes, and what. -/
inductive Places (entry : ρ → Option ι) (session : SessionId) (key : ι) (fresh : Nat → ρ)
    (retain : ρ → ρ) (heap : Heap ρ) : Nat → ρ → Prop where
  | retained {id : Nat} {old : ρ} (free : (heap.cells id).lockedAgainst session = false)
      (seen : (heap.cells id).view session = some old) (keyed : entry old = some key) :
      Places entry session key fresh retain heap id (retain old)
  | inserted (absent : ∀ id, ((heap.cells id).view session).bind entry ≠ some key) :
      Places entry session key fresh retain heap heap.size (fresh heap.size)

omit [DecidableEq ι] in
theorem Places.free (sound : heap.Sound entry) {id : Nat} {row : ρ}
    (places : heap.Places entry session key fresh retain id row) :
    (heap.cells id).lockedAgainst session = false := by
  cases places with
  | retained free _ _ => exact free
  | inserted _ => exact lockedAgainst_of_drawn sound le_rfl session

/-- With no contention the row written by an upsert is the only one with an
entry for the key, should the session commit. -/
theorem Places.alone (sound : heap.Sound entry)
    (calm : heap.contended entry session key = false) {id : Nat} {row : ρ}
    (places : heap.Places entry session key fresh retain id row) {commits : SessionId → Bool}
    (own : commits session = true) {other : Nat} (different : other ≠ id) :
    ((heap.cells other).outcome commits).bind entry ≠ some key := by
  cases places with
  | retained free seen keyed => exact unique_of_view sound free seen keyed own different
  | inserted absent =>
      by_cases locked : (heap.cells other).lockedAgainst session = true
      · exact outcome_of_not_contended sound calm locked commits
      · rw [Cell.outcome_eq_view (by simpa using locked) own]
        exact absent other

theorem contended_of_locked (sound : heap.Sound entry) {id : Nat} {row : ρ}
    (locked : (heap.cells id).lockedAgainst session = true)
    (seen : (heap.cells id).view session = some row) (keyed : entry row = some key) :
    heap.contended entry session key = true := by
  by_contra calm
  apply outcome_of_not_contended sound (by simpa using calm) locked (fun other => other = session)
  rw [← Cell.view, seen, Option.bind_some, keyed]

variable (session) in
/-- An upsert waits or is done; it never violates the index. -/
theorem upsert_cases (sound : heap.Sound entry)
    (keepsKey : ∀ old, entry old = some key → entry (retain old) = some key)
    (freshKey : ∀ id, entry (fresh id) = some key) :
    heap.upsert entry session key fresh retain = .waits ∨
      ∃ id row, heap.contended entry session key = false ∧
        heap.Places entry session key fresh retain id row ∧ entry row = some key ∧
        heap.upsert entry session key fresh retain =
          .done { heap.write session id row with size := heap.size + 1 } := by
  by_cases calm : heap.contended entry session key = true
  · exact Or.inl (by rw [upsert, if_pos calm])
  have quiet : heap.contended entry session key = false := by simpa using calm
  have goesThrough : ∀ id row, heap.Places entry session key fresh retain id row →
      entry row = some key → heap.violates entry session id row = false := by
    intro id row places keyed
    rw [violates, List.any_eq_false]
    intro other _ clash
    simp only [Bool.and_eq_true, decide_eq_true_eq, keyed] at clash
    exact places.alone sound quiet (decide_eq_true rfl) clash.1.1 clash.2
  apply Or.inr
  cases found : heap.find entry session key with
  | some hit =>
      obtain ⟨id, old⟩ := hit
      obtain ⟨seen, keyed⟩ := find_some found
      have free : (heap.cells id).lockedAgainst session = false := by
        by_contra locked
        exact calm (contended_of_locked sound (by simpa using locked) seen keyed)
      have places : heap.Places entry session key fresh retain id (retain old) :=
        .retained free seen keyed
      refine ⟨id, retain old, quiet, places, keepsKey old keyed, ?_⟩
      simp only [upsert, quiet, found, goesThrough _ _ places (keepsKey old keyed),
        Bool.false_eq_true, if_false]
  | none =>
      have places : heap.Places entry session key fresh retain heap.size (fresh heap.size) :=
        .inserted (find_none sound found)
      refine ⟨heap.size, fresh heap.size, quiet, places, freshKey _, ?_⟩
      simp only [upsert, quiet, found, goesThrough _ _ places (freshKey _), Bool.false_eq_true,
        if_false]

/-- The table after an upsert is sound again. -/
theorem Sound.upsert (sound : heap.Sound entry)
    (calm : heap.contended entry session key = false) {id : Nat} {row : ρ}
    (places : heap.Places entry session key fresh retain id row) (keyed : entry row = some key) :
    ({ heap.write session id row with size := heap.size + 1 } : Heap ρ).Sound entry := by
  have wider := sound.grow
  have inside : id < heap.size + 1 := by
    cases places with
    | retained _ seen _ => exact Nat.lt_succ_of_lt (lt_size_of_outcome sound seen)
    | inserted _ => exact Nat.lt_succ_self _
  refine Sound.write wider inside (places.free sound) ?_
  intro commits own otherKey is other different
  rw [keyed, Option.some.injEq] at is
  rw [← is]
  exact places.alone sound calm own different

variable (session heap) in
/-- An update that takes a row out of the index waits, finds no row, or is
done. -/
theorem update_cases (id : Nat) {change : ρ → ρ} (leaves : ∀ old, entry (change old) = none) :
    heap.update entry session id change = .waits ∨
      ((heap.cells id).lockedAgainst session = false ∧ (heap.cells id).view session = none ∧
        heap.update entry session id change = .done heap) ∨
      ∃ old, (heap.cells id).lockedAgainst session = false ∧
        (heap.cells id).view session = some old ∧
        heap.update entry session id change = .done (heap.write session id (change old)) := by
  by_cases locked : (heap.cells id).lockedAgainst session = true
  · exact Or.inl (by rw [update, if_pos locked])
  have free : (heap.cells id).lockedAgainst session = false := by simpa using locked
  apply Or.inr
  cases seen : (heap.cells id).view session with
  | none =>
      apply Or.inl
      refine ⟨free, rfl, ?_⟩
      simp only [update, free, seen, Bool.false_eq_true, if_false]
  | some old =>
      apply Or.inr
      have passes : heap.violates entry session id (change old) = false := by
        rw [violates, List.any_eq_false]
        intro other _ clash
        simp [leaves] at clash
      refine ⟨old, free, rfl, ?_⟩
      simp only [update, free, seen, passes, Bool.false_eq_true, if_false]

omit [DecidableEq ι] in
/-- Taking a row out of the index keeps it sound. -/
theorem Sound.remove (sound : heap.Sound entry) {id : Nat} {old row : ρ}
    (free : (heap.cells id).lockedAgainst session = false)
    (seen : (heap.cells id).view session = some old) (leaves : entry row = none) :
    (heap.write session id row).Sound entry := by
  refine sound.write (lt_size_of_outcome sound seen) free fun commits _ key is => ?_
  rw [leaves] at is
  cases is

end Placement

section Versions

variable {Good : Nat → ρ → Prop} {Rel : ρ → ρ → Prop}

theorem Every.write (every : heap.Every Good) {id : Nat} {row : ρ}
    (free : (heap.cells id).lockedAgainst session = false) (good : Good id row) :
    (heap.write session id row).Every Good := by
  intro other commits version left
  rw [outcome_write free] at left
  split at left
  · rename_i both
    rw [both.1]
    exact Option.some.inj left ▸ good
  · exact every other commits version left

theorem Every.commit (every : heap.Every Good) (session : SessionId) :
    (heap.commit session).Every Good := by
  intro id commits row left
  simp only [Heap.commit, Cell.outcome_commit] at left
  exact every id _ row left

theorem Every.rollback (every : heap.Every Good) (session : SessionId) :
    (heap.rollback session).Every Good := by
  intro id commits row left
  simp only [Heap.rollback, Cell.outcome_rollback] at left
  exact every id _ row left

/-- A write of a version that follows from the committed one. -/
theorem Follows.write (follows : heap.Follows Rel) {id : Nat} {row : ρ}
    (free : (heap.cells id).lockedAgainst session = false)
    (next : ∀ old, (heap.cells id).committed = some old → Rel old row) :
    (heap.write session id row).Follows Rel := by
  intro other commits old new present left
  rw [committed_write] at present
  rw [outcome_write free] at left
  split at left
  · rename_i both
    obtain ⟨rfl, -⟩ := both
    cases left
    exact next old present
  · exact follows other commits old new present left

/-- What follows from the version a session sees follows from the committed
one. -/
theorem Follows.through_view (follows : heap.Follows Rel)
    (trans : ∀ {a b c}, Rel a b → Rel b c → Rel a c) {id : Nat} {row : ρ}
    (next : ∀ seen, (heap.cells id).view session = some seen → Rel seen row) :
    ∀ old, (heap.cells id).committed = some old → Rel old row := by
  intro old present
  obtain ⟨seen, isSeen⟩ := Cell.outcome_isSome_of_committed present fun other => other = session
  exact trans (follows id _ old seen present isSeen) (next seen isSeen)

theorem Follows.commit (follows : heap.Follows Rel) (refl : ∀ a, Rel a a) (session : SessionId) :
    (heap.commit session).Follows Rel := by
  intro id commits old new present left
  simp only [Heap.commit] at present left
  cases held : (heap.cells id).pending with
  | none =>
      simp only [Cell.commit, held] at present left
      exact follows id commits old new present left
  | some holding =>
      obtain ⟨holder, row⟩ := holding
      by_cases own : holder = session
      · simp only [Cell.commit, held, own, if_true, Cell.settled, Cell.outcome,
          Option.some.injEq] at present left
        rw [← present, ← left]
        exact refl row
      · simp only [Cell.commit, held, own, if_false] at present left
        exact follows id commits old new present left

theorem Follows.rollback (follows : heap.Follows Rel) (session : SessionId) :
    (heap.rollback session).Follows Rel := by
  intro id commits old new present left
  simp only [Heap.rollback, Cell.committed_rollback, Cell.outcome_rollback] at present left
  exact follows id _ old new present left

/-- What a commit makes visible follows from what was committed. -/
theorem Follows.committed_commit (follows : heap.Follows Rel) {id : Nat} {old : ρ}
    (present : (heap.cells id).committed = some old) (session : SessionId) :
    ∃ new, ((heap.commit session).cells id).committed = some new ∧ Rel old new := by
  obtain ⟨new, isNew⟩ := Cell.outcome_isSome_of_committed present fun other => other = session
  refine ⟨new, ?_, follows id _ old new present isNew⟩
  simp only [Heap.commit, Cell.committed_commit]
  exact isNew

end Versions

end Heap

end VoltStream.Relational
