/-
Module: VoltStream.Relational.Window
Purpose: Lists of readings in time order: trailing windows, the newest few, and
  means over them.
Trusted boundary: none
Main exports: mean, mean_append_eq_right_iff, take_filter, filter_take_eq,
  filter_eq_dropWhile, add_length_takeWhile_drop, find?_of_narrow,
  insertionSort_eq
-/
import Mathlib

namespace VoltStream.Relational

/-! ### Means -/

/-- The mean of the values, zero if there are none. -/
def mean (values : List ℚ) : ℚ := values.sum / values.length

theorem mean_perm {first second : List ℚ} (same : first.Perm second) :
    mean first = mean second := by
  rw [mean, mean, same.sum_eq, same.length_eq]

/-- More values leave a mean as it is exactly if theirs is the same. -/
theorem mean_append_eq_right_iff {more values : List ℚ} (some : more ≠ []) (any : values ≠ []) :
    mean (more ++ values) = mean values ↔ mean more = mean values := by
  have moreCount : (more.length : ℚ) ≠ 0 := by simpa using some
  have count : (values.length : ℚ) ≠ 0 := by simpa using any
  have total : (more.length + values.length : ℚ) ≠ 0 := by
    have positive : 0 < more.length + values.length :=
      Nat.add_pos_left (List.length_pos_iff.mpr some) _
    exact_mod_cast positive.ne'
  simp only [mean, List.sum_append, List.length_append, Nat.cast_add]
  rw [div_eq_div_iff total count, div_eq_div_iff moreCount count, add_mul, mul_add]
  exact add_left_inj _

/-! ### Lists in order -/

section Ordered

variable {α : Type*}

/-- Where a test holds of all that stands before a hit, the first few hits are the
hits among the first few. -/
theorem take_filter {test : α → Bool} {items : List α}
    (closed : items.Pairwise fun first second => test second = true → test first = true)
    (count : Nat) : (items.filter test).take count = (items.take count).filter test := by
  induction items generalizing count with
  | nil => simp
  | cons item rest ih =>
      obtain ⟨before, closed⟩ := List.pairwise_cons.mp closed
      cases count with
      | zero => simp
      | succ count =>
          by_cases hit : test item = true
          · simp only [List.filter_cons_of_pos hit, List.take_succ_cons, ih closed]
          · have none : ∀ other ∈ rest, ¬ test other = true :=
              fun other isOther other_hit => hit (before other isOther other_hit)
            rw [List.filter_cons_of_neg hit, List.take_succ_cons, List.filter_cons_of_neg hit,
              List.filter_eq_nil_iff.mpr none, List.take_nil, eq_comm, List.filter_eq_nil_iff]
            exact fun other isOther => none other (List.mem_of_mem_take isOther)

/-- If the first few items go on past the hits, all hits are among them. -/
theorem filter_take_eq {test : α → Bool} {items : List α}
    (closed : items.Pairwise fun first second => test second = true → test first = true)
    {count : Nat} (past : ∃ item ∈ items.take count, test item = false) :
    (items.take count).filter test = items.filter test := by
  obtain ⟨item, within, miss⟩ := past
  have fewer : ((items.take count).filter test).length < count :=
    calc ((items.take count).filter test).length
        < (items.take count).length :=
          List.length_filter_lt_length_iff_exists.mpr ⟨item, within, by simpa using miss⟩
      _ ≤ count := List.length_take_le ..
  rw [← take_filter closed, List.length_take] at fewer
  rw [← take_filter closed]
  exact List.take_of_length_le (by omega)

/-- Where a test holds of all that stands behind a hit, the hits are what is left
when the misses in front are dropped. -/
theorem filter_eq_dropWhile {test : α → Bool} {items : List α}
    (closed : items.Pairwise fun first second => test first = true → test second = true) :
    items.filter test = items.dropWhile fun item => !test item := by
  induction items with
  | nil => rfl
  | cons item rest ih =>
      obtain ⟨behind, closed⟩ := List.pairwise_cons.mp closed
      by_cases hit : test item = true
      · have all : ∀ other ∈ rest, test other = true :=
          fun other isOther => behind other isOther hit
        rw [List.filter_cons_of_pos hit, List.filter_eq_self.mpr all, List.dropWhile_cons_of_neg]
        simpa using hit
      · rw [List.filter_cons_of_neg hit, List.dropWhile_cons_of_pos (by simpa using hit), ih closed]

theorem drop_length_takeWhile (test : α → Bool) (items : List α) :
    items.drop (items.takeWhile test).length = items.dropWhile test :=
  calc items.drop (items.takeWhile test).length
      = (items.takeWhile test ++ items.dropWhile test).drop (items.takeWhile test).length := by
        rw [List.takeWhile_append_dropWhile]
    _ = items.dropWhile test := List.drop_left

/-- A scan that starts within the hits in front ends with them. -/
theorem add_length_takeWhile_drop {test : α → Bool} {items : List α} {start : Nat}
    (within : start ≤ (items.takeWhile test).length) :
    start + ((items.drop start).takeWhile test).length = (items.takeWhile test).length := by
  induction items generalizing start with
  | nil => simpa using within
  | cons item rest ih =>
      cases start with
      | zero => simp
      | succ start =>
          by_cases hit : test item = true
          · rw [List.takeWhile_cons_of_pos hit, List.length_cons] at within
            rw [List.takeWhile_cons_of_pos hit, List.length_cons, List.drop_succ_cons,
              ← ih (Nat.le_of_succ_le_succ within)]
            omega
          · rw [List.takeWhile_cons_of_neg hit] at within
            cases within

theorem length_takeWhile_le {narrow wide : α → Bool}
    (narrower : ∀ item, narrow item = true → wide item = true) (items : List α) :
    (items.takeWhile narrow).length ≤ (items.takeWhile wide).length := by
  induction items with
  | nil => exact Nat.le_refl _
  | cons item rest ih =>
      by_cases hit : narrow item = true
      · rw [List.takeWhile_cons_of_pos hit, List.takeWhile_cons_of_pos (narrower item hit)]
        exact Nat.succ_le_succ ih
      · rw [List.takeWhile_cons_of_neg hit]
        exact Nat.zero_le _

/-- The hits in front end before any miss, and what comes after a miss has no say in
them. -/
theorem takeWhile_of_miss {test : α → Bool} {items : List α} {i : Nat} {item : α}
    (isItem : items[i]? = some item) (miss : ¬test item = true) :
    (items.takeWhile test).length ≤ i ∧
      (items.take (i + 1)).takeWhile test = items.takeWhile test := by
  induction items generalizing i with
  | nil => cases isItem
  | cons first rest ih =>
      cases i with
      | zero =>
          obtain rfl : first = item := Option.some.inj isItem
          rw [List.take_succ_cons, List.takeWhile_cons_of_neg miss,
            List.takeWhile_cons_of_neg miss]
          exact ⟨Nat.le_refl _, rfl⟩
      | succ i =>
          obtain ⟨within, same⟩ := ih isItem
          rw [List.take_succ_cons]
          by_cases hit : test first = true
          · rw [List.takeWhile_cons_of_pos hit, List.takeWhile_cons_of_pos hit, same]
            exact ⟨Nat.succ_le_succ within, rfl⟩
          · rw [List.takeWhile_cons_of_neg hit, List.takeWhile_cons_of_neg hit]
            exact ⟨Nat.zero_le _, rfl⟩

/-- The first hit of a narrow test is the first one of a wide test, if only narrow
hits stand before it among the wide ones. -/
theorem find?_of_narrow {narrow wide : α → Bool} {items : List α} {found : α}
    (narrower : ∀ item, narrow item = true → wide item = true)
    (closed : items.Pairwise fun first second =>
      wide first = true → narrow second = true → narrow first = true)
    (first : items.find? narrow = some found) : items.find? wide = some found := by
  induction items with
  | nil => cases first
  | cons item rest ih =>
      obtain ⟨before, closed⟩ := List.pairwise_cons.mp closed
      by_cases hit : narrow item = true
      · rw [List.find?_cons_of_pos hit] at first
        rw [List.find?_cons_of_pos (narrower item hit), first]
      · rw [List.find?_cons_of_neg hit] at first
        have miss : ¬ wide item = true := fun isWide =>
          hit (before found (List.mem_of_find?_eq_some first) isWide (List.find?_some first))
        rw [List.find?_cons_of_neg miss, ih closed first]

theorem find?_of_take {test : α → Bool} {items : List α} {count : Nat} {found : α}
    (first : (items.take count).find? test = some found) : items.find? test = some found := by
  rw [← List.take_append_drop count items, List.find?_append, first]
  rfl

/-- Sorting finds the one arrangement without ties. -/
theorem insertionSort_eq (order : α → α → Prop) [DecidableRel order] [Std.Total order]
    [IsTrans α order] {items sorted : List α} (arranged : sorted.Perm items)
    (strict : sorted.Pairwise fun first second => order first second ∧ ¬ order second first) :
    List.insertionSort order items = sorted := by
  have symm : Std.Symm fun first second => order first second → order second first →
      first = second := ⟨fun _ _ same one two => (same two one).symm⟩
  have distinct : ∀ first ∈ sorted, ∀ second ∈ sorted, order first second →
      order second first → first = second :=
    List.Pairwise.forall_of_forall (fun _ _ _ _ => rfl)
      (strict.imp fun apart _ back => absurd back apart.2)
  have perm : (List.insertionSort order items).Perm sorted :=
    (List.perm_insertionSort order items).trans arranged.symm
  refine perm.eq_of_pairwise ?_ (List.pairwise_insertionSort order items)
    (strict.imp fun apart => apart.1)
  intro first second isFirst isSecond
  exact distinct first (perm.mem_iff.mp isFirst) second isSecond

end Ordered

end VoltStream.Relational
