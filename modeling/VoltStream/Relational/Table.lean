/-
Module: VoltStream.Relational.Table
Purpose: Relations with a primary key, and the conflict-handling inserts of a
  relational store: insert-or-ignore, guarded upsert, update by key.
Trusted boundary: none
Main exports: Table, Table.lookup, Table.Same, Table.insertIgnore, Table.put, Table.putAll,
  Table.map_putAll, Table.modify, absorb
-/
import Mathlib

namespace VoltStream.Relational

/-- A relation with a primary key: a list of rows in insertion order, no two of
which share their `key`.  The constraint is a field, so a table that violates
it cannot be built. -/
structure Table (ρ : Type*) {κ : Type*} (key : ρ → κ) where
  rows : List ρ
  primaryKey : (rows.map key).Nodup

/-- What a guarded `ON CONFLICT DO UPDATE` leaves behind: the incoming row when
there is nothing to conflict with or the guard admits it, else the old row. -/
def absorb {ρ : Type*} (admits : ρ → ρ → Bool) : Option ρ → ρ → ρ
  | none, row => row
  | some old, row => if admits old row then row else old

namespace Table

variable {ρ κ : Type*} {key : ρ → κ}

@[ext] theorem ext {first second : Table ρ key} (same : first.rows = second.rows) :
    first = second := by
  cases first
  cases second
  cases same
  rfl

/-- The table with no rows. -/
def empty : Table ρ key := { rows := [], primaryKey := List.nodup_nil }

@[simp] theorem empty_rows : (empty : Table ρ key).rows = [] := rfl

/-- Two rows with one key are one row. -/
theorem row_unique (table : Table ρ key) {first second : ρ}
    (one : first ∈ table.rows) (two : second ∈ table.rows)
    (same : key first = key second) : first = second :=
  List.inj_on_of_nodup_map table.primaryKey one two same

variable [DecidableEq κ]

/-- `SELECT` by primary key. -/
def lookup (table : Table ρ key) (k : κ) : Option ρ :=
  table.rows.find? fun row => key row = k

theorem lookup_some_iff (table : Table ρ key) {k : κ} {row : ρ} :
    table.lookup k = some row ↔ row ∈ table.rows ∧ key row = k := by
  constructor
  · intro found
    exact ⟨List.mem_of_find?_eq_some found, by simpa using List.find?_some found⟩
  · rintro ⟨member, rfl⟩
    cases found : table.lookup (key row) with
    | none =>
        rw [lookup, List.find?_eq_none] at found
        exact absurd (by simp) (found row member)
    | some other =>
        have otherMember : other ∈ table.rows := List.mem_of_find?_eq_some found
        have otherKey : key other = key row := by simpa using List.find?_some found
        rw [table.row_unique otherMember member otherKey]

theorem lookup_of_mem (table : Table ρ key) {row : ρ} (member : row ∈ table.rows) :
    table.lookup (key row) = some row :=
  table.lookup_some_iff.mpr ⟨member, rfl⟩

theorem lookup_none_iff (table : Table ρ key) {k : κ} :
    table.lookup k = none ↔ ∀ row ∈ table.rows, key row ≠ k := by
  simp [lookup, List.find?_eq_none]

/-- The rows with key `k` are the looked-up one, in any arrangement of the rows. -/
theorem filter_key_of_perm (table : Table ρ key) {arranged : List ρ}
    (perm : arranged.Perm table.rows) (k : κ) :
    (arranged.filter fun row => key row = k) = (table.lookup k).toList := by
  have nodup : ((arranged.filter fun row => key row = k).map key).Nodup :=
    (List.filter_sublist.map key).nodup ((perm.map key).nodup_iff.mpr table.primaryKey)
  cases found : table.lookup k with
  | none =>
      rw [Option.toList_none, List.filter_eq_nil_iff]
      intro row member
      simpa using table.lookup_none_iff.mp found row (perm.mem_iff.mp member)
  | some row =>
      obtain ⟨member, hit⟩ := table.lookup_some_iff.mp found
      have all : ∀ other ∈ arranged.filter fun row => key row = k, other = row := by
        intro other otherMember
        rw [List.mem_filter, decide_eq_true_eq] at otherMember
        exact table.row_unique (perm.mem_iff.mp otherMember.1) member (otherMember.2.trans hit.symm)
      have present : row ∈ arranged.filter fun row => key row = k :=
        List.mem_filter.mpr ⟨perm.mem_iff.mpr member, by simpa using hit⟩
      rw [Option.toList_some]
      exact (List.perm_singleton.mp (((List.perm_ext_iff_of_nodup nodup.of_map
        (List.nodup_singleton row)).mpr fun other => by
          rw [List.mem_singleton]
          exact ⟨all other, fun same => same ▸ present⟩)))

/-- The same relation: the same rows, in whatever order they were inserted. -/
def Same (first second : Table ρ key) : Prop := first.rows.Perm second.rows

/-- Two tables are the same relation exactly if every key finds the same row. -/
theorem same_iff_lookup {first second : Table ρ key} :
    first.Same second ↔ ∀ k, first.lookup k = second.lookup k := by
  constructor
  · intro same k
    cases found : second.lookup k with
    | none =>
        rw [lookup_none_iff] at found ⊢
        exact fun row member => found row (same.mem_iff.mp member)
    | some row =>
        rw [lookup_some_iff] at found ⊢
        exact ⟨same.mem_iff.mpr found.1, found.2⟩
  · intro same
    apply (List.perm_ext_iff_of_nodup first.primaryKey.of_map second.primaryKey.of_map).mpr
    intro row
    have one := @lookup_some_iff _ _ _ _ first (key row) row
    have two := @lookup_some_iff _ _ _ _ second (key row) row
    rw [and_iff_left rfl] at one two
    rw [← one, ← two, same]

@[simp] theorem empty_lookup (k : κ) : (empty : Table ρ key).lookup k = none := rfl

/-- `INSERT ... ON CONFLICT (key) DO NOTHING`. -/
def insertIgnore (table : Table ρ key) (row : ρ) : Table ρ key :=
  if fresh : table.lookup (key row) = none then
    { rows := table.rows ++ [row]
      primaryKey := by
        have unused := table.lookup_none_iff.mp fresh
        rw [List.map_append, List.nodup_append]
        refine ⟨table.primaryKey, List.nodup_singleton _, ?_⟩
        intro first firstMember second secondMember
        obtain ⟨old, oldMember, rfl⟩ := List.mem_map.mp firstMember
        simp only [List.map_cons, List.map_nil, List.mem_singleton] at secondMember
        subst secondMember
        exact unused old oldMember }
  else table

theorem insertIgnore_of_none {table : Table ρ key} {row : ρ}
    (fresh : table.lookup (key row) = none) :
    (table.insertIgnore row).rows = table.rows ++ [row] := by
  rw [insertIgnore, dif_pos fresh]

theorem insertIgnore_of_ne_none {table : Table ρ key} {row : ρ}
    (stored : table.lookup (key row) ≠ none) : table.insertIgnore row = table := by
  rw [insertIgnore, dif_neg stored]

/-- Multi-row `INSERT ... ON CONFLICT (key) DO NOTHING`: the rows are taken in
order, so the first of several rows with one key is kept. -/
def insertAll (table : Table ρ key) (incoming : List ρ) : Table ρ key :=
  incoming.foldl insertIgnore table

theorem insertAll_append (table : Table ρ key) (first second : List ρ) :
    table.insertAll (first ++ second) = (table.insertAll first).insertAll second :=
  List.foldl_append

theorem insertAll_of_stored {table : Table ρ key} {incoming : List ρ}
    (stored : ∀ row ∈ incoming, table.lookup (key row) ≠ none) :
    table.insertAll incoming = table := by
  induction incoming with
  | nil => rfl
  | cons row rest ih =>
      rw [List.forall_mem_cons] at stored
      rw [insertAll, List.foldl_cons, insertIgnore_of_ne_none stored.1]
      exact ih stored.2

/-- The `RETURNING key` of the same statement: only the keys of inserted rows. -/
def returning (table : Table ρ key) : List ρ → List κ
  | [] => []
  | row :: rest =>
      if table.lookup (key row) = none then
        key row :: (table.insertIgnore row).returning rest
      else (table.insertIgnore row).returning rest

theorem lookup_insertIgnore (table : Table ρ key) (row : ρ) (k : κ) :
    (table.insertIgnore row).lookup k =
      if table.lookup k = none ∧ key row = k then some row else table.lookup k := by
  by_cases fresh : table.lookup (key row) = none
  · have rows := insertIgnore_of_none fresh
    by_cases hit : key row = k
    · subst hit
      rw [if_pos ⟨fresh, rfl⟩, lookup_some_iff, rows]
      exact ⟨by simp, rfl⟩
    · rw [if_neg (fun both => hit both.2), lookup, rows, List.find?_append]
      simp [lookup, hit]
  · rw [insertIgnore_of_ne_none fresh, if_neg]
    rintro ⟨missing, rfl⟩
    exact fresh missing

/-- The first of the incoming rows with key `k`. -/
def firstWith (key : ρ → κ) (incoming : List ρ) (k : κ) : Option ρ :=
  incoming.find? fun row => key row = k

theorem firstWith_some {incoming : List ρ} {k : κ} {row : ρ}
    (found : firstWith key incoming k = some row) : key row = k ∧ row ∈ incoming :=
  ⟨by simpa using List.find?_some found, List.mem_of_find?_eq_some found⟩

theorem lookup_insertAll (table : Table ρ key) (incoming : List ρ) (k : κ) :
    (table.insertAll incoming).lookup k =
      (table.lookup k).or (firstWith key incoming k) := by
  induction incoming generalizing table with
  | nil => simp [insertAll, firstWith]
  | cons row rest ih =>
      rw [insertAll, List.foldl_cons, ← insertAll, ih, lookup_insertIgnore, firstWith, firstWith]
      by_cases hit : key row = k
      · cases stored : table.lookup k <;> simp [hit]
      · simp [hit]

/-- `RETURNING` lists exactly the incoming keys that were not stored before. -/
theorem mem_returning_iff (table : Table ρ key) (incoming : List ρ) (k : κ) :
    k ∈ table.returning incoming ↔ k ∈ incoming.map key ∧ table.lookup k = none := by
  induction incoming generalizing table with
  | nil => simp [returning]
  | cons row rest ih =>
      have later : k ∈ (table.insertIgnore row).returning rest ↔
          k ∈ rest.map key ∧ table.lookup k = none ∧ key row ≠ k := by
        rw [ih, lookup_insertIgnore]
        by_cases hit : key row = k <;> cases table.lookup k <;> simp [hit]
      by_cases hit : key row = k
      · subst hit
        by_cases fresh : table.lookup (key row) = none
        · simp [returning, fresh]
        · simp [returning, fresh, later]
      · have other : k ≠ key row := fun equal => hit equal.symm
        by_cases fresh : table.lookup (key row) = none
        · simp [returning, fresh, later, hit, other]
        · simp [returning, fresh, later, hit, other]

theorem mem_insertAll_iff (table : Table ρ key) (incoming : List ρ) (row : ρ) :
    row ∈ (table.insertAll incoming).rows ↔
      row ∈ table.rows ∨
        (table.lookup (key row) = none ∧ firstWith key incoming (key row) = some row) := by
  have byKey := @lookup_some_iff _ _ _ _ (table.insertAll incoming) (key row) row
  have before := @lookup_some_iff _ _ _ _ table (key row) row
  rw [lookup_insertAll, and_iff_left rfl] at byKey
  rw [and_iff_left rfl] at before
  rw [← byKey, ← before]
  cases table.lookup (key row) <;> simp

/-- `UPDATE ... WHERE key = k`, for an update that leaves the key alone. -/
def modify (table : Table ρ key) (k : κ) (change : ρ → ρ)
    (keepsKey : ∀ row, key (change row) = key row) : Table ρ key where
  rows := table.rows.map fun row => if key row = k then change row else row
  primaryKey := by
    have sameKeys : (table.rows.map fun row => if key row = k then change row else row).map key =
        table.rows.map key := by
      rw [List.map_map]
      refine List.map_congr_left fun row _ => ?_
      simp only [Function.comp_apply]
      split
      · exact keepsKey row
      · rfl
    rw [sameKeys]
    exact table.primaryKey

@[simp] theorem modify_rows (table : Table ρ key) (k : κ) (change : ρ → ρ)
    (keepsKey : ∀ row, key (change row) = key row) :
    (table.modify k change keepsKey).rows =
      table.rows.map fun row => if key row = k then change row else row := rfl

theorem lookup_modify (table : Table ρ key) (k : κ) (change : ρ → ρ)
    (keepsKey : ∀ row, key (change row) = key row) (wanted : κ) :
    (table.modify k change keepsKey).lookup wanted =
      if k = wanted then (table.lookup wanted).map change else table.lookup wanted := by
  have sameKey : ∀ row, key (if key row = k then change row else row) = key row := by
    intro row
    split
    · exact keepsKey row
    · rfl
  rw [lookup, modify_rows, List.find?_map]
  have sameTest : ((fun row => decide (key row = wanted)) ∘
      fun row => if key row = k then change row else row) = fun row => decide (key row = wanted) :=
    funext fun row => by rw [Function.comp_apply, sameKey]
  rw [sameTest, ← lookup]
  cases found : table.lookup wanted with
  | none => simp
  | some row =>
      obtain ⟨-, rfl⟩ := table.lookup_some_iff.mp found
      by_cases hit : k = key row
      · simp [hit]
      · simp [hit, Ne.symm hit]

/-- Row list of a guarded upsert: the conflicting row is replaced in place. -/
def putRow (key : ρ → κ) (admits : ρ → ρ → Bool) (row : ρ) : List ρ → List ρ
  | [] => [row]
  | old :: rest =>
      if key old = key row then (if admits old row then row else old) :: rest
      else old :: putRow key admits row rest

theorem putRow_keys (admits : ρ → ρ → Bool) (row : ρ) (rows : List ρ) :
    (putRow key admits row rows).map key =
      if key row ∈ rows.map key then rows.map key else rows.map key ++ [key row] := by
  induction rows with
  | nil => simp [putRow]
  | cons old rest ih =>
      by_cases same : key old = key row
      · cases admitted : admits old row <;> simp [putRow, same, admitted]
      · have different : ¬ key row = key old := fun equal => same equal.symm
        simp only [putRow, if_neg same, List.map_cons, ih, List.mem_cons, different, false_or]
        split <;> simp

theorem putRow_find (admits : ρ → ρ → Bool) (row : ρ) (k : κ) (rows : List ρ) :
    (putRow key admits row rows).find? (fun candidate => key candidate = k) =
      if key row = k then
        some (absorb admits (rows.find? fun candidate => key candidate = k) row)
      else rows.find? fun candidate => key candidate = k := by
  induction rows with
  | nil => by_cases hit : key row = k <;> simp [putRow, absorb, hit]
  | cons old rest ih =>
      by_cases same : key old = key row
      · by_cases hit : key row = k
        · cases admitted : admits old row <;> simp [putRow, absorb, same, hit, admitted]
        · cases admitted : admits old row <;> simp [putRow, same, hit, admitted]
      · by_cases oldHit : key old = k
        · have rowMiss : ¬ key row = k := fun hit => same (oldHit.trans hit.symm)
          simp only [putRow, if_neg same, if_neg rowMiss]
          simp [oldHit]
        · simp only [putRow, if_neg same]
          rw [List.find?_cons_of_neg (by simpa using oldHit), ih,
            List.find?_cons_of_neg (by simpa using oldHit)]

/-- `INSERT ... ON CONFLICT (key) DO UPDATE ... WHERE admits`. -/
def put (admits : ρ → ρ → Bool) (table : Table ρ key) (row : ρ) : Table ρ key where
  rows := putRow key admits row table.rows
  primaryKey := by
    rw [putRow_keys]
    split
    · exact table.primaryKey
    · rename_i unused
      rw [List.nodup_append]
      refine ⟨table.primaryKey, List.nodup_singleton _, ?_⟩
      intro first firstMember second secondMember equal
      rw [List.mem_singleton] at secondMember
      exact unused (secondMember ▸ equal ▸ firstMember)

theorem lookup_put (admits : ρ → ρ → Bool) (table : Table ρ key) (row : ρ) (k : κ) :
    (table.put admits row).lookup k =
      if key row = k then some (absorb admits (table.lookup k) row) else table.lookup k :=
  putRow_find admits row k table.rows

/-- A multi-row guarded upsert, row by row. -/
def putAll (admits : ρ → ρ → Bool) (table : Table ρ key) (incoming : List ρ) : Table ρ key :=
  incoming.foldl (put admits) table

/-- A multi-row upsert acts on each key through the incoming rows of that key
alone, in their order. -/
theorem lookup_putAll (admits : ρ → ρ → Bool) (table : Table ρ key) (incoming : List ρ) (k : κ) :
    (table.putAll admits incoming).lookup k =
      (incoming.filter fun row => key row = k).foldl
        (fun found row => some (absorb admits found row)) (table.lookup k) := by
  induction incoming generalizing table with
  | nil => rfl
  | cons row rest ih =>
      rw [putAll, List.foldl_cons, ← putAll, ih (table.put admits row), lookup_put]
      by_cases hit : key row = k <;> simp [hit]

theorem mem_of_mem_putRow {admits : ρ → ρ → Bool} {row : ρ} {rows : List ρ} {found : ρ}
    (isRow : found ∈ putRow key admits row rows) : found = row ∨ found ∈ rows := by
  induction rows with
  | nil => exact .inl (List.mem_singleton.mp isRow)
  | cons old rest ih =>
      rw [putRow] at isRow
      split_ifs at isRow with same admitted
      · rcases List.mem_cons.mp isRow with isNew | isRest
        · exact .inl isNew
        · exact .inr (List.mem_cons_of_mem old isRest)
      · exact .inr isRow
      · rcases List.mem_cons.mp isRow with isOld | isRest
        · exact .inr (isOld ▸ List.mem_cons_self)
        · exact (ih isRest).imp_right (List.mem_cons_of_mem old)

/-- A row after a multi-row upsert was there before, or is one of the incoming rows. -/
theorem mem_of_mem_putAll {admits : ρ → ρ → Bool} {table : Table ρ key} {incoming : List ρ}
    {found : ρ} (isRow : found ∈ (table.putAll admits incoming).rows) :
    found ∈ table.rows ∨ found ∈ incoming := by
  induction incoming generalizing table with
  | nil => exact .inl isRow
  | cons row rest ih =>
      rcases @ih (table.put admits row) isRow with isPut | isRest
      · rcases mem_of_mem_putRow isPut with isNew | isOld
        · exact .inr (isNew ▸ List.mem_cons_self)
        · exact .inl isOld
      · exact .inr (List.mem_cons_of_mem row isRest)

section Map

variable {ρ' : Type*} {key' : ρ' → κ} {admits : ρ → ρ → Bool} {admits' : ρ' → ρ' → Bool}
  {view : ρ → ρ'} (sameKey : ∀ row, key' (view row) = key row)
  (sameGuard : ∀ old row, admits' (view old) (view row) = admits old row)
include sameKey sameGuard

theorem map_putRow (row : ρ) (rows : List ρ) :
    (putRow key admits row rows).map view = putRow key' admits' (view row) (rows.map view) := by
  induction rows with
  | nil => rfl
  | cons old rest ih =>
      simp only [putRow, List.map_cons, sameKey, sameGuard]
      split
      · rw [List.map_cons]
        split <;> rfl
      · rw [List.map_cons, ih]

/-- A view of the rows that keeps keys and guards commutes with upserts. -/
theorem map_putAll {table : Table ρ key} {table' : Table ρ' key'}
    (same : table.rows.map view = table'.rows) (incoming : List ρ) :
    (table.putAll admits incoming).rows.map view =
      (table'.putAll admits' (incoming.map view)).rows := by
  induction incoming generalizing table table' with
  | nil => exact same
  | cons row rest ih =>
      have step : (table.put admits row).rows.map view =
          (table'.put admits' (view row)).rows := by
        change (putRow key admits row table.rows).map view =
          putRow key' admits' (view row) table'.rows
        rw [← same]
        exact map_putRow sameKey sameGuard row table.rows
      exact ih step

end Map

end Table

end VoltStream.Relational
