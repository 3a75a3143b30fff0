/-
Module: VoltStream.Relational.Newest
Purpose: Keeping the newest of a sequence of rows: the fold of an upsert guarded
  by a rank, where a later arrival wins a tie.
Trusted boundary: none
Main exports: notNewer, newestFrom, IsNewest, newestFrom_isNewest, newestFrom_of_split,
  newestFrom_reverse, newestFrom_collapse, newestFrom_perm, Table.lookup_putAll_newest
-/
import VoltStream.Relational.Table

namespace VoltStream.Relational

variable {ρ τ : Type*} [LinearOrder τ] (rank : ρ → τ)

/-- A place in a filtered list is a place in the list. -/
theorem filter_eq_split {α : Type*} {keep : α → Bool} {list before after : List α} {item : α}
    (split : list.filter keep = before ++ item :: after) :
    ∃ pre post, list = pre ++ item :: post ∧ pre.filter keep = before ∧ keep item = true ∧
      post.filter keep = after := by
  obtain ⟨first, rest, rfl, firstFilter, restFilter⟩ := List.filter_eq_append_iff.mp split
  obtain ⟨skipped, post, rfl, skips, holds, postFilter⟩ := List.filter_eq_cons_iff.mp restFilter
  refine ⟨first ++ skipped, post, by rw [List.append_assoc], ?_, holds, postFilter⟩
  rw [List.filter_append, firstFilter, List.filter_eq_nil_iff.mpr skips, List.append_nil]

/-- The guard `old.rank <= new.rank`. -/
def notNewer (old new : ρ) : Bool := decide (rank old ≤ rank new)

theorem absorb_of_le {old new : ρ} (admitted : rank old ≤ rank new) :
    absorb (notNewer rank) (some old) new = new := by
  rw [absorb, notNewer, if_pos (decide_eq_true admitted)]

theorem absorb_of_lt {old new : ρ} (refused : rank new < rank old) :
    absorb (notNewer rank) (some old) new = old := by
  rw [absorb, notNewer, if_neg (by simpa using refused)]

/-- The row left at one key after the rows `incoming` have been upserted, in
order, over what `found` holds. -/
def newestFrom (found : Option ρ) (incoming : List ρ) : Option ρ :=
  incoming.foldl (fun found row => some (absorb (notNewer rank) found row)) found

@[simp] theorem newestFrom_nil (found : Option ρ) : newestFrom rank found [] = found := rfl

@[simp] theorem newestFrom_cons (found : Option ρ) (row : ρ) (rest : List ρ) :
    newestFrom rank found (row :: rest) =
      newestFrom rank (some (absorb (notNewer rank) found row)) rest := rfl

theorem newestFrom_append (found : Option ρ) (first second : List ρ) :
    newestFrom rank found (first ++ second) =
      newestFrom rank (newestFrom rank found first) second :=
  List.foldl_append

@[simp] theorem newestFrom_concat (found : Option ρ) (incoming : List ρ) (row : ρ) :
    newestFrom rank found (incoming ++ [row]) =
      some (absorb (notNewer rank) (newestFrom rank found incoming) row) := by
  rw [newestFrom_append]
  rfl

theorem newestFrom_eq_none {found : Option ρ} {incoming : List ρ} :
    newestFrom rank found incoming = none ↔ found = none ∧ incoming = [] := by
  induction incoming generalizing found with
  | nil => simp
  | cons row rest ih => simp [ih]

/-- The winner beats every row before it weakly and every row after it
strictly. -/
structure IsNewest (found : Option ρ) (incoming : List ρ) (winner : ρ) : Prop where
  dominates : ∀ row ∈ incoming, rank row ≤ rank winner
  dominatesFound : ∀ old, found = some old → rank old ≤ rank winner
  source : (found = some winner ∧ ∀ row ∈ incoming, rank row < rank winner) ∨
    ∃ before after, incoming = before ++ winner :: after ∧
      ∀ row ∈ after, rank row < rank winner

theorem IsNewest.mem_or {found : Option ρ} {incoming : List ρ} {winner : ρ}
    (newest : IsNewest rank found incoming winner) :
    found = some winner ∨ winner ∈ incoming := by
  rcases newest.source with ⟨same, _⟩ | ⟨before, after, split, _⟩
  · exact Or.inl same
  · exact Or.inr (by simp [split])

theorem newestFrom_isNewest {found : Option ρ} {incoming : List ρ} {winner : ρ}
    (result : newestFrom rank found incoming = some winner) :
    IsNewest rank found incoming winner := by
  induction incoming using List.reverseRecOn generalizing winner with
  | nil =>
      rw [newestFrom_nil] at result
      subst result
      exact
        { dominates := by simp
          dominatesFound := by rintro old ⟨⟩; exact le_refl _
          source := Or.inl ⟨rfl, by simp⟩ }
  | append_singleton rows row ih =>
      rw [newestFrom_concat, Option.some.injEq] at result
      cases earlier : newestFrom rank found rows with
      | none =>
          obtain ⟨rfl, rfl⟩ := (newestFrom_eq_none rank).mp earlier
          rw [earlier, absorb] at result
          subst result
          exact
            { dominates := by simp
              dominatesFound := by simp
              source := Or.inr ⟨[], [], by simp, by simp⟩ }
      | some best =>
          have bestNewest := ih earlier
          rw [earlier] at result
          by_cases admitted : rank best ≤ rank row
          · rw [absorb_of_le rank admitted] at result
            subst result
            refine
              { dominates := ?_
                dominatesFound := fun old is =>
                  (bestNewest.dominatesFound old is).trans admitted
                source := Or.inr ⟨rows, [], rfl, by simp⟩ }
            intro candidate member
            rcases List.mem_append.mp member with old | new
            · exact (bestNewest.dominates candidate old).trans admitted
            · rw [List.mem_singleton.mp new]
          · have older : rank row < rank best := lt_of_not_ge admitted
            rw [absorb_of_lt rank older] at result
            subst result
            refine
              { dominates := ?_
                dominatesFound := bestNewest.dominatesFound
                source := ?_ }
            · intro candidate member
              rcases List.mem_append.mp member with old | new
              · exact bestNewest.dominates candidate old
              · exact (List.mem_singleton.mp new) ▸ older.le
            · rcases bestNewest.source with ⟨same, below⟩ | ⟨before, after, split, below⟩
              · refine Or.inl ⟨same, fun candidate member => ?_⟩
                rcases List.mem_append.mp member with old | new
                · exact below candidate old
                · exact (List.mem_singleton.mp new) ▸ older
              · refine Or.inr ⟨before, after ++ [row], by simp [split], fun candidate member => ?_⟩
                rcases List.mem_append.mp member with old | new
                · exact below candidate old
                · exact (List.mem_singleton.mp new) ▸ older

/-- A row that beats what came before it weakly and what comes after it strictly
is the one that is kept. -/
theorem newestFrom_of_split {before after : List ρ} {winner : ρ}
    (notBeaten : ∀ row ∈ before, rank row ≤ rank winner)
    (beats : ∀ row ∈ after, rank row < rank winner) :
    newestFrom rank none (before ++ winner :: after) = some winner := by
  have first : newestFrom rank none (before ++ [winner]) = some winner := by
    rw [newestFrom_concat]
    cases earlier : newestFrom rank none before with
    | none => rfl
    | some best =>
        rcases (newestFrom_isNewest rank earlier).mem_or with impossible | member
        · cases impossible
        · rw [absorb_of_le rank (notBeaten best member)]
  rw [List.append_cons, newestFrom_append, first]
  clear first notBeaten
  induction after with
  | nil => rfl
  | cons row rest ih =>
      rw [List.forall_mem_cons] at beats
      rw [newestFrom_cons, absorb_of_lt rank beats.1]
      exact ih beats.2

/-- Of rows in rising order the last one is kept. -/
theorem newestFrom_reverse {rows : List ρ}
    (falling : rows.Pairwise fun first second => rank second < rank first) :
    newestFrom rank none rows.reverse = rows.head? := by
  cases rows with
  | nil => rfl
  | cons row rest =>
      rw [List.reverse_cons]
      refine newestFrom_of_split rank ?_ fun _ impossible => absurd impossible List.not_mem_nil
      intro other isOther
      exact ((List.pairwise_cons.mp falling).1 other (List.mem_reverse.mp isOther)).le

/-- Absorbing two rows one after the other is absorbing the one that wins between
them. -/
theorem absorb_absorb (found : Option ρ) (first second : ρ) :
    absorb (notNewer rank) (some (absorb (notNewer rank) found first)) second =
      absorb (notNewer rank) found (absorb (notNewer rank) (some first) second) := by
  cases found with
  | none => rfl
  | some old =>
      simp only [absorb, notNewer, decide_eq_true_eq]
      split_ifs <;> first | rfl | order

/-- The fold can be taken before or after a translation that keeps the rank. -/
theorem newestFrom_map {α : Type*} (translate : α → ρ) (incoming : List α) :
    newestFrom rank none (incoming.map translate) =
      (newestFrom (fun item => rank (translate item)) none incoming).map translate := by
  induction incoming using List.reverseRecOn with
  | nil => rfl
  | append_singleton items item ih =>
      rw [List.map_append, List.map_singleton, newestFrom_concat, newestFrom_concat, ih]
      cases newestFrom (fun item => rank (translate item)) none items with
      | none => rfl
      | some best => exact congrArg some (apply_ite translate _ item best).symm

/-- Reducing the incoming rows to the newest one first leaves the same row. -/
theorem newestFrom_collapse (found : Option ρ) (incoming : List ρ) :
    newestFrom rank found incoming =
      match newestFrom rank none incoming with
      | none => found
      | some winner => some (absorb (notNewer rank) found winner) := by
  induction incoming using List.reverseRecOn with
  | nil => rfl
  | append_singleton rows row ih =>
      rw [newestFrom_concat, newestFrom_concat, ih]
      cases newestFrom rank none rows with
      | none => rfl
      | some best => exact congrArg some (absorb_absorb rank found best row)

/-- Two rows of different rank may be absorbed in either order. -/
theorem absorb_right_comm (found : Option ρ) {first second : ρ}
    (distinct : rank first = rank second → first = second) :
    absorb (notNewer rank) (some (absorb (notNewer rank) found first)) second =
      absorb (notNewer rank) (some (absorb (notNewer rank) found second)) first := by
  by_cases tie : rank first = rank second
  · rw [distinct tie]
  · cases found with
    | none =>
        change absorb (notNewer rank) (some first) second =
          absorb (notNewer rank) (some second) first
        rcases lt_or_gt_of_ne tie with less | less
        · rw [absorb_of_le rank less.le, absorb_of_lt rank less]
        · rw [absorb_of_le rank less.le, absorb_of_lt rank less]
    | some old =>
        simp only [absorb, notNewer, decide_eq_true_eq]
        split_ifs <;> first | rfl | order

/-- Rows without ties may arrive in any order. -/
theorem newestFrom_perm {incoming arranged : List ρ} (perm : incoming.Perm arranged)
    (distinct : ∀ first ∈ incoming, ∀ second ∈ incoming,
      rank first = rank second → first = second) (found : Option ρ) :
    newestFrom rank found incoming = newestFrom rank found arranged := by
  apply perm.foldl_eq'
  intro first firstMember second secondMember found
  exact congrArg some (absorb_right_comm rank found (distinct second secondMember first firstMember)
    |>.symm)

/-- At each key a multi-row upsert guarded by a rank keeps the newest row. -/
theorem Table.lookup_putAll_newest {κ : Type*} [DecidableEq κ] {key : ρ → κ}
    (table : Table ρ key) (incoming : List ρ) (k : κ) :
    (table.putAll (notNewer rank) incoming).lookup k =
      newestFrom rank (table.lookup k) (incoming.filter fun row => key row = k) :=
  table.lookup_putAll (notNewer rank) incoming k

end VoltStream.Relational
