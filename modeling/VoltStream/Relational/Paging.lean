/-
Module: VoltStream.Relational.Paging
Purpose: Reading a result page by page where each page comes from a query of its own, and
  an `ORDER BY` that leaves ties leaves their order to each query.
Trusted boundary: none
Main exports: NewestFirst, PermittedOrder, page, allPages, TieAcross, exists_row_of_tieAcross,
  allPages_perm_iff
-/
import Mathlib

namespace VoltStream.Relational

variable {ρ τ : Type*} [LinearOrder τ] (rank : ρ → τ)

/-! ### Orders -/

/-- The rows stand as `ORDER BY rank DESC` wants them. -/
def NewestFirst (rows : List ρ) : Prop :=
  rows.Pairwise fun first second => rank second ≤ rank first

/-- An order in which a query over these rows with `ORDER BY rank DESC` may return them. -/
def PermittedOrder (rows : List ρ) : Type _ :=
  { order : List ρ // order.Perm rows ∧ NewestFirst rank order }

variable {rank}

/-- There always is one. -/
def PermittedOrder.sorted (rows : List ρ) : PermittedOrder rank rows where
  val := rows.mergeSort fun first second => rank second ≤ rank first
  property := by
    refine ⟨List.mergeSort_perm .., ?_⟩
    have arranged := @List.pairwise_mergeSort ρ
      (fun first second => decide (rank second ≤ rank first))
      (fun first second third one two => by
        simp only [decide_eq_true_eq] at one two ⊢
        exact two.trans one)
      (fun first second => by simpa using le_total (rank second) (rank first)) rows
    exact arranged.imp fun apart => of_decide_eq_true apart

/-! ### Pages -/

/-- `LIMIT limit OFFSET number * limit`. -/
def page (limit number : Nat) (order : List ρ) : List ρ :=
  (order.drop (number * limit)).take limit

/-- So many pages one after the other, each of a query of its own. -/
def allPages (limit count : Nat) (orders : Nat → List ρ) : List ρ :=
  (List.range count).flatMap fun number => page limit number (orders number)

theorem allPages_succ (limit count : Nat) (orders : Nat → List ρ) :
    allPages limit (count + 1) orders =
      allPages limit count orders ++ page limit count (orders count) := by
  rw [allPages, List.range_succ, List.flatMap_append, List.flatMap_singleton]
  rfl

/-- Up to the end of a page, one finds the pages before it and that page. -/
theorem take_append_page (limit number : Nat) (order : List ρ) :
    order.take (number * limit) ++ page limit number order =
      order.take ((number + 1) * limit) := by
  rw [page, Nat.succ_mul, List.take_add]

variable (rank)

/-! ### Ties -/

/-- How many rows come before all of this rank. -/
def newerCount (rows : List ρ) (instant : τ) : Nat := rows.countP fun row => instant < rank row

/-- How many rows are of this rank or come before all of it. -/
def notOlderCount (rows : List ρ) (instant : τ) : Nat :=
  rows.countP fun row => instant ≤ rank row

/-- Rows of this rank stand on both sides of the place. -/
def TieAcross (rows : List ρ) (place : Nat) (instant : τ) : Prop :=
  newerCount rank rows instant < place ∧ place < notOlderCount rank rows instant

instance (rows : List ρ) (place : Nat) (instant : τ) :
    Decidable (TieAcross rank rows place instant) :=
  inferInstanceAs (Decidable (_ ∧ _))

/-- Only a rank that some row has stands on both sides of a place. -/
theorem exists_row_of_tieAcross {rows : List ρ} {place : Nat} {instant : τ}
    (across : TieAcross rank rows place instant) : ∃ row ∈ rows, rank row = instant := by
  by_contra absent
  have same : newerCount rank rows instant = notOlderCount rank rows instant := by
    refine List.countP_congr fun row isRow => ?_
    have other : rank row ≠ instant := fun isRank => absent ⟨row, isRow, isRank⟩
    simp [le_iff_lt_or_eq, other.symm]
  have between := across.1.trans across.2
  omega

variable {rank}

/-- The rows newer than some instant come first. -/
theorem take_newerCount {order : List ρ} (arranged : NewestFirst rank order) (instant : τ) :
    order.take (newerCount rank order instant) = order.filter fun row => instant < rank row := by
  induction order with
  | nil => rfl
  | cons row rest ih =>
      obtain ⟨before, arranged⟩ := List.pairwise_cons.mp arranged
      by_cases newer : instant < rank row
      · rw [newerCount, List.countP_cons_of_pos (by simpa using newer), List.take_succ_cons,
          List.filter_cons_of_pos (by simpa using newer), ← ih arranged, newerCount]
      · have none : ∀ other ∈ rest, ¬decide (instant < rank other) = true := by
          intro other isOther
          simpa using (before other isOther).trans (not_lt.mp newer)
        rw [newerCount, List.countP_cons_of_neg (by simpa using newer),
          List.filter_cons_of_neg (by simpa using newer), List.filter_eq_nil_iff.mpr none,
          List.countP_eq_zero.mpr none, List.take_zero]

/-- The place of a row in an order is among those of its rank. -/
theorem place_bounds {front back : List ρ} {row : ρ}
    (arranged : NewestFirst rank (front ++ row :: back)) :
    newerCount rank (front ++ row :: back) (rank row) ≤ front.length ∧
      front.length < notOlderCount rank (front ++ row :: back) (rank row) := by
  obtain ⟨-, behind, across⟩ := List.pairwise_append.mp arranged
  obtain ⟨older, -⟩ := List.pairwise_cons.mp behind
  constructor
  · have none : (row :: back).countP (fun other => rank row < rank other) = 0 := by
      rw [List.countP_eq_zero]
      intro other isOther
      rcases List.mem_cons.mp isOther with rfl | isBack
      · simp
      · simpa using older other isBack
    rw [newerCount, List.countP_append, none, Nat.add_zero]
    exact List.countP_le_length
  · have all : front.countP (fun other => rank row ≤ rank other) = front.length := by
      rw [List.countP_eq_length]
      intro other isOther
      simpa using across other isOther row List.mem_cons_self
    rw [notOlderCount, List.countP_append, all, List.countP_cons_of_pos (by simp)]
    omega

/-- Where a tie lies across a place, the rows on both sides of it are tied. -/
theorem neighbours_of_tieAcross {order : List ρ} {place : Nat} {instant : τ}
    (arranged : NewestFirst rank order) (across : TieAcross rank order place instant) :
    ∃ front first second back, order = front ++ first :: second :: back ∧
      front.length + 1 = place ∧ rank first = rank second := by
  obtain ⟨newer, notOlder⟩ := across
  have within : place < order.length := notOlder.trans_le List.countP_le_length
  obtain ⟨before, rfl⟩ : ∃ before, place = before + 1 := ⟨place - 1, by omega⟩
  obtain ⟨front, first, second, back, rfl, rfl⟩ : ∃ front first second back,
      order = front ++ first :: second :: back ∧ front.length = before := by
    refine ⟨order.take before, order[before], order[before + 1], order.drop (before + 1 + 1),
      ?_, List.length_take_of_le (by omega)⟩
    rw [← List.drop_eq_getElem_cons within, ← List.drop_eq_getElem_cons,
      List.take_append_drop]
  obtain ⟨-, behind, ahead⟩ := List.pairwise_append.mp arranged
  obtain ⟨afterFirst, behind⟩ := List.pairwise_cons.mp behind
  obtain ⟨afterSecond, -⟩ := List.pairwise_cons.mp behind
  refine ⟨front, first, second, back, rfl, rfl, le_antisymm ?_ ?_⟩
  · have firstNotNewer : rank first ≤ instant := by
      by_contra isNewer
      have all : (front ++ [first]).countP (fun row => instant < rank row) =
          front.length + 1 := by
        rw [List.countP_eq_length.mpr, List.length_append, List.length_singleton]
        intro row isRow
        rcases List.mem_append.mp isRow with isFront | isFirst
        · simpa using (not_le.mp isNewer).trans_le (ahead row isFront first List.mem_cons_self)
        · rw [List.mem_singleton.mp isFirst]
          simpa using isNewer
      rw [newerCount, List.append_cons, List.countP_append, all] at newer
      omega
    have secondNotOlder : instant ≤ rank second := by
      by_contra isOlder
      have none : (second :: back).countP (fun row => instant ≤ rank row) = 0 := by
        rw [List.countP_eq_zero]
        intro row isRow
        rcases List.mem_cons.mp isRow with rfl | isBack
        · simpa using isOlder
        · simpa using (afterSecond row isBack).trans_lt (not_le.mp isOlder)
      have few : (front ++ [first]).countP (fun row => instant ≤ rank row) ≤
          front.length + 1 :=
        List.countP_le_length.trans_eq (List.length_append ..)
      rw [notOlderCount, List.append_cons, List.countP_append, none, Nat.add_zero] at notOlder
      omega
    exact firstNotNewer.trans secondNotOlder
  · exact afterFirst second List.mem_cons_self

/-- With no tie across a place, every permitted order has the same rows before it. -/
theorem take_perm {rows : List ρ} {place : Nat}
    (apart : ∀ instant, ¬TieAcross rank rows place instant)
    (order other : PermittedOrder rank rows) : (order.1.take place).Perm (other.1.take place) := by
  obtain ⟨order, same, arranged⟩ := order
  obtain ⟨other, otherSame, otherArranged⟩ := other
  rcases Nat.lt_or_ge place order.length with within | past
  · obtain ⟨front, row, back, rfl, rfl⟩ : ∃ front row back,
        order = front ++ row :: back ∧ front.length = place := by
      refine ⟨order.take place, order[place], order.drop (place + 1), ?_,
        List.length_take_of_le within.le⟩
      rw [← List.drop_eq_getElem_cons within, List.take_append_drop]
    obtain ⟨notFewer, isWithin⟩ := place_bounds arranged
    have sameCounts : ∀ instant, newerCount rank other instant =
        newerCount rank (front ++ row :: back) instant :=
      fun instant => (otherSame.trans same.symm).countP_eq _
    have exactly : front.length = newerCount rank (front ++ row :: back) (rank row) := by
      by_contra differs
      refine apart (rank row) ⟨?_, ?_⟩
      · rw [newerCount, ← same.countP_eq]
        exact lt_of_le_of_ne notFewer fun equal => differs equal.symm
      · rw [notOlderCount, ← same.countP_eq]
        exact isWithin
    change ((front ++ row :: back).take front.length).Perm (other.take front.length)
    rw [exactly, take_newerCount arranged, ← sameCounts, take_newerCount otherArranged]
    exact (same.trans otherSame.symm).filter _
  · have otherPast : other.length ≤ place := by
      rw [(otherSame.trans same.symm).length_eq]
      exact past
    change (order.take place).Perm (other.take place)
    rw [List.take_of_length_le past, List.take_of_length_le otherPast]
    exact same.trans otherSame.symm

/-! ### All pages -/

/-- With no tie across the start of a page, the pages have the rows of one order. -/
theorem allPages_perm_take {rows : List ρ} {limit : Nat}
    (apart : ∀ number instant, ¬TieAcross rank rows (number * limit) instant)
    (orders : Nat → PermittedOrder rank rows) (reference : PermittedOrder rank rows)
    (count : Nat) :
    (allPages limit count fun number => (orders number).1).Perm
      (reference.1.take (count * limit)) := by
  induction count with
  | zero => rw [Nat.zero_mul, List.take_zero, allPages, List.range_zero, List.flatMap_nil]
  | succ count ih =>
      rw [allPages_succ]
      refine (ih.append_right _).trans ?_
      refine ((take_perm (apart count) reference (orders count)).append_right _).trans ?_
      rw [take_append_page]
      exact take_perm (apart (count + 1)) (orders count) reference

/-- Two tied neighbours may stand the other way round. -/
theorem NewestFirst.swap {front back : List ρ} {first second : ρ}
    (arranged : NewestFirst rank (front ++ first :: second :: back))
    (tied : rank first = rank second) :
    NewestFirst rank (front ++ second :: first :: back) := by
  obtain ⟨inFront, behind, ahead⟩ := List.pairwise_append.mp arranged
  obtain ⟨afterFirst, behind⟩ := List.pairwise_cons.mp behind
  obtain ⟨afterSecond, inBack⟩ := List.pairwise_cons.mp behind
  refine List.pairwise_append.mpr ⟨inFront, .cons ?_ (.cons ?_ inBack), ?_⟩
  · intro row isRow
    rcases List.mem_cons.mp isRow with rfl | isBack
    · exact tied.le
    · exact afterSecond row isBack
  · exact fun row isBack => afterFirst row (List.mem_cons_of_mem _ isBack)
  · intro row isFront other isOther
    exact ahead row isFront other (((List.Perm.swap first second back).mem_iff).mp isOther)

/-- A row at a place from the start of a page on and before its end is on it. -/
theorem mem_page {limit number : Nat} {front back : List ρ} {row : ρ}
    (least : number * limit ≤ front.length) (most : front.length < (number + 1) * limit) :
    row ∈ page limit number (front ++ row :: back) := by
  rw [Nat.succ_mul] at most
  obtain ⟨more, room⟩ : ∃ more, limit - (front.drop (number * limit)).length = more + 1 := by
    rw [List.length_drop]
    exact ⟨limit - (front.length - number * limit) - 1, by omega⟩
  rw [page, List.drop_append_of_le_length least, List.take_append, room, List.take_succ_cons]
  exact List.mem_append_right _ List.mem_cons_self

/-- Pages that give every row once have no row in common. -/
theorem not_mem_page {rows : List ρ} (distinct : rows.Nodup) {limit count : Nat}
    {orders : Nat → List ρ} (complete : (allPages limit count orders).Perm rows)
    {first second : Nat} (isFirst : first < count) (isSecond : second < count)
    (differ : first ≠ second) {row : ρ} (onFirst : row ∈ page limit first (orders first)) :
    row ∉ page limit second (orders second) := by
  obtain ⟨-, apart⟩ := List.nodup_flatMap.mp (complete.nodup_iff.mpr distinct)
  have symmetric : Std.Symm
      (Function.onFun List.Disjoint fun number => page limit number (orders number)) :=
    ⟨fun _ _ disjoint => disjoint.symm⟩
  exact apart.forall (List.mem_range.mpr isFirst) (List.mem_range.mpr isSecond) differ onFirst

/-- For rows without repetition: the pages, each from a query of its own, give every row
once and nothing else, whatever permitted orders these queries choose, exactly if no tie
lies across the start of a page. -/
theorem allPages_perm_iff {rows : List ρ} (distinct : rows.Nodup) {limit count : Nat}
    (positive : 0 < limit) (covers : rows.length ≤ count * limit) :
    (∀ orders : Nat → PermittedOrder rank rows,
        (allPages limit count fun number => (orders number).1).Perm rows) ↔
      ∀ number instant, ¬TieAcross rank rows (number * limit) instant := by
  constructor
  · intro complete number instant across
    have reference : PermittedOrder rank rows := .sorted rows
    have acrossReference : TieAcross rank reference.1 (number * limit) instant := by
      rwa [TieAcross, newerCount, notOlderCount, reference.2.1.countP_eq, reference.2.1.countP_eq]
    obtain ⟨front, first, second, back, divided, isPlace, tied⟩ :=
      neighbours_of_tieAcross reference.2.2 acrossReference
    have isLater : number < count := by
      refine Nat.lt_of_mul_lt_mul_right (across.2.trans_le ?_)
      exact List.countP_le_length.trans covers
    obtain ⟨previous, rfl⟩ : ∃ previous, number = previous + 1 :=
      Nat.exists_eq_succ_of_ne_zero fun isZero => by
        rw [isZero, Nat.zero_mul] at isPlace
        exact Nat.succ_ne_zero _ isPlace
    -- The query for the page after the tie takes the two neighbours the other way round.
    obtain ⟨swapped, isSwapped⟩ : ∃ swapped : PermittedOrder rank rows,
        swapped.1 = (front ++ [second]) ++ first :: back := by
      refine ⟨⟨front ++ second :: first :: back, ?_, ?_⟩, List.append_cons ..⟩
      · exact ((List.Perm.swap first second back).append_left front).trans
          (divided ▸ reference.2.1)
      · exact (divided ▸ reference.2.2 :
          NewestFirst rank (front ++ first :: second :: back)).swap tied
    have onPrevious : first ∈ page limit previous reference.1 := by
      rw [divided]
      exact mem_page (by linarith) (by omega)
    have onNext : first ∈ page limit (previous + 1) swapped.1 := by
      rw [isSwapped]
      apply mem_page
      · rw [List.length_append, List.length_singleton, isPlace]
      · rw [List.length_append, List.length_singleton, isPlace]
        exact Nat.mul_lt_mul_of_pos_right (Nat.lt_succ_self _) positive
    refine @not_mem_page ρ rows distinct limit count _
      (complete fun number => if number = previous + 1 then swapped else reference) previous
      (previous + 1) (Nat.lt_of_succ_lt isLater) isLater
      (Nat.ne_of_lt (Nat.lt_succ_self previous)) first ?_ ?_
    · rw [if_neg (Nat.ne_of_lt (Nat.lt_succ_self previous))]
      exact onPrevious
    · rw [if_pos rfl]
      exact onNext
  · intro apart orders
    have reference : PermittedOrder rank rows := .sorted rows
    have whole : reference.1.take (count * limit) = reference.1 :=
      List.take_of_length_le (reference.2.1.length_eq.trans_le covers)
    have pages := allPages_perm_take apart orders reference count
    rw [whole] at pages
    exact pages.trans reference.2.1

end VoltStream.Relational
