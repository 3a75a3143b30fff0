/-
Module: VoltStream.Proofs.AsyncState
Purpose: What the fetching hook shows after every run: the answer to the newest fetch, or
  that there is none yet, whatever order the answers come in.
Trusted boundary: human-reviewed statement of what is shown (`ShowsNewest`)
Main exports: Async.answer, Async.whileMounted, Async.newest, Async.WellFormed,
  Async.wellFormed_of_run, Async.ShowsNewest, Async.shows_newest
-/
import VoltStream.Frontend.UseAsync

namespace VoltStream.Frontend.Async

open Relational

variable {κ δ : Type}

/-- The move is the end of the component. -/
def Move.isUnmount : Move κ δ → Bool
  | .unmount => true
  | _ => false

/-- The move runs the effect. -/
def Move.isEffect : Move κ δ → Bool
  | .effect => true
  | _ => false

/-- What a move answers to a fetch. -/
def Move.answerTo (fetch : Nat) : Move κ δ → Option (Result δ)
  | .settle settled result => if settled = fetch then some result else none
  | _ => none

/-- The answer to a fetch, if there is one. -/
def answer (moves : List (Move κ δ)) (fetch : Nat) : Option (Result δ) :=
  moves.findSome? (Move.answerTo fetch)

/-- What happens before the component is unmounted. -/
def whileMounted (moves : List (Move κ δ)) : List (Move κ δ) :=
  moves.takeWhile fun move => !move.isUnmount

/-- The number of the newest fetch. -/
def newest (moves : List (Move κ δ)) : Nat := moves.countP Move.isEffect - 1

/-- The state for an answer, or for none yet. -/
def shown (found : Option (Result δ)) : AsyncState δ := (found.map Result.toState).getD .fetching

theorem whileMounted_concat (moves : List (Move κ δ)) (move : Move κ δ) :
    whileMounted (moves ++ [move]) =
      whileMounted moves ++ if moves.any Move.isUnmount || move.isUnmount then [] else [move] :=
  takeWhile_not_concat Move.isUnmount moves move

theorem answer_concat (moves : List (Move κ δ)) (move : Move κ δ) (fetch : Nat) :
    answer (moves ++ [move]) fetch = (answer moves fetch).or (move.answerTo fetch) := by
  rw [answer, List.findSome?_append, answer]
  cases picked : move.answerTo fetch <;> simp [picked]

/-- Of the fetches all but the newest are cancelled, and that one exactly if the component
is unmounted; it was made for the last commit unless an effect is to run. -/
structure Latest (component : Async κ δ) (early : List (Fetch κ)) (last : Fetch κ) : Prop where
  split : component.fetches = early ++ [last]
  superseded : ∀ fetch ∈ early, fetch.cancelled = true
  cancelled : last.cancelled = component.unmounted
  deps : component.effectPending = false → last.deps = component.deps

/-- What every step keeps. -/
structure WellFormed (moves : List (Move κ δ)) (component : Async κ δ) : Prop where
  unmounted : component.unmounted = moves.any Move.isUnmount
  count : component.fetches.length = moves.countP Move.isEffect
  unsettled : ∀ index, (∀ fetch ∈ component.fetches[index]?, fetch.settled = false) →
    answer moves index = none
  latest : (component.fetches = [] ∧ component.effectPending = true) ∨
    ∃ early last, Latest component early last
  state : component.state = shown (answer (whileMounted moves) (newest moves))

theorem wellFormed_mount (deps : κ) : WellFormed ([] : List (Move κ δ)) (mount deps) where
  unmounted := rfl
  count := rfl
  unsettled _ _ := rfl
  latest := Or.inl ⟨rfl, rfl⟩
  state := rfl

theorem cleanup_concat (early : List (Fetch κ)) (last : Fetch κ) :
    cleanup (early ++ [last]) = early ++ [{ last with cancelled := true }] := by
  rw [cleanup, List.length_append, List.length_singleton, Nat.add_sub_cancel]
  induction early with
  | nil => rfl
  | cons first rest ih => exact congrArg _ ih

theorem settled_cleanup (fetches : List (Fetch κ)) (index : Nat) :
    (cleanup fetches)[index]?.map Fetch.settled = fetches[index]?.map Fetch.settled := by
  rw [cleanup, List.getElem?_modify]
  cases fetches[index]? with
  | none => rfl
  | some fetch =>
      change some (if _ then _ else _ : Fetch κ).settled = _
      split <;> rfl

/-- The dependencies of the fetches so far. -/
def asked (component : Async κ δ) : List κ := component.fetches.map Fetch.deps

theorem deps_cleanup (fetches : List (Fetch κ)) :
    (cleanup fetches).map Fetch.deps = fetches.map Fetch.deps := by
  rcases List.eq_nil_or_concat' fetches with rfl | ⟨early, last, rfl⟩
  · rfl
  · rw [cleanup_concat, List.map_append, List.map_append]
    rfl

theorem whileMounted_eq {moves : List (Move κ δ)} (mounted : moves.any Move.isUnmount = false) :
    whileMounted moves = moves := by
  refine List.takeWhile_eq_self_iff.mpr fun move inMoves => ?_
  have isMounted := List.any_eq_false.mp mounted move inMoves
  simpa using isMounted

theorem answer_whileMounted_eq_none {moves : List (Move κ δ)} {index : Nat}
    (unanswered : answer moves index = none) : answer (whileMounted moves) index = none := by
  rw [answer, List.findSome?_eq_none_iff] at unanswered ⊢
  exact fun move inMoves => unanswered move ((List.takeWhile_sublist _).subset inMoves)

variable {moves : List (Move κ δ)} {before after : Async κ δ} {move : Move κ δ}

/-- A move that neither answers a fetch nor makes one. -/
theorem WellFormed.quiet (formed : WellFormed moves before)
    (notAnswer : ∀ index : Nat, move.answerTo index = none) (notEffect : move.isEffect = false)
    (unmounted : after.unmounted = (before.unmounted || move.isUnmount))
    (sameState : after.state = before.state)
    (fetches : after.fetches.length = before.fetches.length)
    (settled : ∀ index : Nat, after.fetches[index]?.map Fetch.settled =
      before.fetches[index]?.map Fetch.settled)
    (latest : (after.fetches = [] ∧ after.effectPending = true) ∨
      ∃ early last, Latest after early last) :
    WellFormed (moves ++ [move]) after := by
  have sameNewest : Async.newest (moves ++ [move]) = Async.newest moves := by
    rw [Async.newest, List.countP_append, List.countP_singleton, notEffect]
    rfl
  refine ⟨?_, ?_, ?_, latest, ?_⟩
  · rw [unmounted, formed.unmounted, List.any_append, List.any_cons, List.any_nil, Bool.or_false]
  · rw [fetches, formed.count, List.countP_append, List.countP_singleton, notEffect]
    rfl
  · intro index unsettled
    rw [answer_concat, notAnswer, Option.or_none]
    refine formed.unsettled index fun fetch isFetch => ?_
    have same := settled index
    rw [Option.mem_def.mp isFetch, Option.map_some, Option.map_eq_some_iff] at same
    obtain ⟨found, isFound, sameSettled⟩ := same
    rw [← sameSettled]
    exact unsettled found isFound
  · rw [sameState, formed.state, sameNewest, whileMounted_concat]
    split
    · rw [List.append_nil]
    · rw [answer_concat, notAnswer, Option.or_none]

/-- The effect makes the newest fetch, which has no answer yet. -/
theorem WellFormed.effect (formed : WellFormed moves before) (mounted : before.unmounted = false) :
    WellFormed (moves ++ [.effect])
      { before with
        state := .fetching
        effectPending := false
        fetches := cleanup before.fetches ++ [⟨before.deps, false, false⟩] } := by
  have length : (cleanup before.fetches).length = before.fetches.length := List.length_modify ..
  have isNewest : newest (moves ++ [.effect]) = before.fetches.length := by
    rw [newest, List.countP_append, formed.count]
    rfl
  refine ⟨?_, ?_, ?_, Or.inr ⟨cleanup before.fetches, ⟨before.deps, false, false⟩, rfl, ?_,
    mounted.symm, fun _ => rfl⟩, ?_⟩
  · rw [List.any_append, ← formed.unmounted]
    exact (Bool.or_false _).symm
  · rw [List.length_append, length, formed.count, List.countP_append]
    rfl
  · intro index unsettled
    rw [answer_concat]
    refine Option.or_eq_none_iff.mpr ⟨formed.unsettled index fun fetch isFetch => ?_, rfl⟩
    have same := settled_cleanup before.fetches index
    rw [Option.mem_def.mp isFetch, Option.map_some, Option.map_eq_some_iff] at same
    obtain ⟨found, isFound, sameSettled⟩ := same
    rw [← sameSettled]
    exact unsettled found (List.getElem?_append_left
      (List.getElem?_eq_some_iff.mp isFound).1 ▸ isFound)
  · rcases formed.latest with ⟨none, -⟩ | ⟨early, last, latest⟩
    · rw [none]
      exact List.forall_mem_nil _
    · rw [latest.split, cleanup_concat]
      exact List.forall_mem_append.mpr
        ⟨latest.superseded, List.forall_mem_singleton.mpr rfl⟩
  · have unanswered : answer (moves ++ [.effect]) before.fetches.length = none := by
      rw [answer_concat]
      refine Option.or_eq_none_iff.mpr ⟨formed.unsettled _ ?_, rfl⟩
      rw [List.getElem?_eq_none le_rfl]
      exact nofun
    rw [isNewest, answer_whileMounted_eq_none unanswered]
    rfl

theorem WellFormed.newest_eq (formed : WellFormed moves before) {early : List (Fetch κ)}
    {last : Fetch κ} (latest : Latest before early last) : newest moves = early.length := by
  rw [newest, ← formed.count, latest.split, List.length_append, List.length_singleton,
    Nat.add_sub_cancel]

/-- Unless an effect is still to run, the newest fetch is for the last commit. -/
theorem WellFormed.newest_deps (formed : WellFormed moves before)
    (notPending : before.effectPending = false) :
    before.fetches[newest moves]?.map Fetch.deps = some before.deps := by
  rcases formed.latest with ⟨-, pending⟩ | ⟨early, last, latest⟩
  · rw [notPending] at pending
    exact absurd pending Bool.false_ne_true
  · rw [formed.newest_eq latest, latest.split, List.getElem?_concat_length, Option.map_some,
      latest.deps notPending]

/-- Data that is shown came as the answer to the newest fetch. -/
theorem WellFormed.settle_mem (formed : WellFormed moves before) {data : δ}
    (isShown : before.state.data = some data) :
    .settle (newest moves) (.resolved data) ∈ moves := by
  rw [formed.state, shown] at isShown
  cases found : answer (whileMounted moves) (newest moves) with
  | none =>
      rw [found] at isShown
      exact absurd isShown nofun
  | some result =>
      rw [found] at isShown
      cases result with
      | rejected err => exact absurd isShown nofun
      | resolved data =>
          obtain rfl := Option.some.inj isShown
          obtain ⟨move, inMoves, answers⟩ := List.exists_of_findSome?_eq_some found
          have isMove : move = .settle (newest moves) (.resolved data) := by
            cases move with
            | settle fetch result =>
                obtain ⟨rfl, same⟩ := Option.ite_none_right_eq_some.mp answers
                rw [Option.some.inj same]
            | _ => exact absurd answers nofun
          exact isMove ▸ (List.takeWhile_sublist _).subset inMoves

/-- A settled fetch is cancelled or not as it was before. -/
theorem Latest.settle {component : Async κ δ} {early : List (Fetch κ)} {last : Fetch κ}
    (latest : Latest component early last) {index : Nat} {fetch : Fetch κ}
    (isFetch : component.fetches[index]? = some fetch) (state : AsyncState δ) :
    ∃ early last, Latest
      { component with
        state := state
        fetches := component.fetches.set index { fetch with settled := true } } early last := by
  rw [latest.split] at isFetch
  rcases Nat.lt_or_ge index early.length with isEarly | isLast
  · rw [List.getElem?_append_left isEarly] at isFetch
    refine ⟨early.set index { fetch with settled := true }, last, ?_, ?_, latest.cancelled,
      latest.deps⟩
    · rw [latest.split, List.set_append_left _ _ isEarly]
    · intro found inEarly
      rcases List.mem_or_eq_of_mem_set inEarly with before | rfl
      · exact latest.superseded found before
      · exact latest.superseded fetch (List.mem_of_getElem? isFetch)
  · rw [List.getElem?_append_right isLast] at isFetch
    obtain ⟨position, rfl⟩ := List.getElem?_eq_some_iff.mp isFetch
    refine ⟨early, { last with settled := true }, ?_, latest.superseded, latest.cancelled,
      latest.deps⟩
    rw [latest.split, List.set_append_right _ _ isLast]
    have first : index - early.length = 0 := by simpa using position
    simp [first]

/-- An answer to a cancelled fetch changes nothing that is shown; that to the newest fetch
of a mounted component is what is shown from now on. -/
theorem WellFormed.settle (formed : WellFormed moves before) {index : Nat} {fetch : Fetch κ}
    {result : Result δ} (isFetch : before.fetches[index]? = some fetch)
    (unsettled : fetch.settled = false) :
    WellFormed (moves ++ [.settle index result])
      { before with
        state := if fetch.cancelled then before.state else result.toState
        fetches := before.fetches.set index { fetch with settled := true } } := by
  have inside : index < before.fetches.length := (List.getElem?_eq_some_iff.mp isFetch).1
  obtain ⟨early, last, latest⟩ : ∃ early last, Latest before early last := by
    rcases formed.latest with ⟨none, -⟩ | found
    · rw [none] at inside
      exact absurd inside (Nat.not_lt_zero _)
    · exact found
  have sameNewest : newest (moves ++ [.settle index result]) = newest moves := by
    rw [newest, List.countP_append]
    rfl
  have isNewest := formed.newest_eq latest
  refine ⟨?_, ?_, ?_, Or.inr (latest.settle isFetch _), ?_⟩
  · rw [List.any_append, ← formed.unmounted]
    exact (Bool.or_false _).symm
  · rw [List.length_set, formed.count, List.countP_append]
    rfl
  · intro position stillUnsettled
    have other : index ≠ position := by
      rintro rfl
      exact absurd (stillUnsettled _ (List.getElem?_set_self inside)) nofun
    rw [answer_concat]
    refine Option.or_eq_none_iff.mpr ⟨formed.unsettled position ?_, if_neg other⟩
    rw [← List.getElem?_set_ne other]
    exact stillUnsettled
  · rw [sameNewest, isNewest, whileMounted_concat]
    cases unmounted : moves.any Move.isUnmount with
    | true =>
        -- every fetch of an unmounted component is cancelled
        have isCancelled : fetch.cancelled = true := by
          rw [latest.split] at isFetch
          rcases List.mem_append.mp (List.mem_of_getElem? isFetch) with inEarly | isLast
          · exact latest.superseded fetch inEarly
          · rw [List.mem_singleton.mp isLast, latest.cancelled, formed.unmounted, unmounted]
        rw [if_pos isCancelled, formed.state, isNewest]
        exact congrArg (fun seen => shown (answer seen _)) (List.append_nil _).symm
    | false =>
        change _ = shown (answer (whileMounted moves ++ [_]) _)
        rw [whileMounted_eq unmounted, answer_concat]
        rw [latest.split] at isFetch
        rcases Nat.lt_or_ge index early.length with isEarly | isLast
        · rw [List.getElem?_append_left isEarly] at isFetch
          rw [if_pos (latest.superseded fetch (List.mem_of_getElem? isFetch)), formed.state,
            isNewest, whileMounted_eq unmounted]
          have other : (Move.settle index result : Move κ δ).answerTo early.length = none :=
            if_neg isEarly.ne
          rw [other, Option.or_none]
        · have position : index = early.length := by
            rw [latest.split, List.length_append, List.length_singleton] at inside
            omega
          subst position
          rw [List.getElem?_concat_length] at isFetch
          obtain rfl := Option.some.inj isFetch
          have unanswered : answer moves early.length = none := by
            refine formed.unsettled _ fun found isFound => ?_
            rw [latest.split, List.getElem?_concat_length] at isFound
            rw [← Option.some.inj isFound]
            exact unsettled
          have notCancelled : ¬ last.cancelled = true := by
            rw [latest.cancelled, formed.unmounted, unmounted]
            exact Bool.false_ne_true
          have answers : (Move.settle early.length result : Move κ δ).answerTo early.length =
              some result := if_pos rfl
          rw [if_neg notCancelled, unanswered, answers]
          rfl

variable [DecidableEq κ]

theorem wellFormed_of_step (formed : WellFormed moves before) (step : before.Step move after) :
    WellFormed (moves ++ [move]) after := by
  unfold Step at step
  cases move with
  | commit deps =>
      obtain ⟨mounted, done⟩ := Option.ite_none_left_eq_some.mp step
      obtain ⟨isMounted, notPending⟩ := not_or.mp mounted
      split_ifs at done with same
      · obtain rfl := Option.some.inj done
        exact formed.quiet (fun _ => rfl) rfl (Bool.or_false _).symm rfl rfl (fun _ => rfl)
          formed.latest
      · obtain rfl := Option.some.inj done
        refine formed.quiet (fun _ => rfl) rfl (Bool.or_false _).symm rfl rfl (fun _ => rfl) ?_
        rcases formed.latest with ⟨-, pending⟩ | ⟨early, last, latest⟩
        · exact absurd pending notPending
        · exact Or.inr ⟨early, last, latest.split, latest.superseded, latest.cancelled, nofun⟩
  | effect =>
      obtain ⟨mounted, done⟩ := Option.ite_none_left_eq_some.mp step
      obtain rfl := Option.some.inj done
      exact formed.effect (by simpa using (not_or.mp mounted).1)
  | settle index result =>
      simp only [perform] at step
      split at step
      · exact absurd step nofun
      · rename_i fetch isFetch
        obtain ⟨unsettled, done⟩ := Option.ite_none_left_eq_some.mp step
        obtain rfl := Option.some.inj done
        exact formed.settle isFetch (by simpa using unsettled)
  | unmount =>
      obtain ⟨mounted, done⟩ := Option.ite_none_left_eq_some.mp step
      obtain rfl := Option.some.inj done
      refine formed.quiet (fun _ => rfl) rfl (Bool.or_true _).symm rfl ?_ ?_ ?_
      · exact List.length_modify ..
      · exact settled_cleanup before.fetches
      · rcases formed.latest with ⟨none, pending⟩ | ⟨early, last, latest⟩
        · refine Or.inl ⟨?_, pending⟩
          change cleanup before.fetches = []
          rw [none]
          rfl
        · refine Or.inr ⟨early, { last with cancelled := true }, ?_, latest.superseded, rfl,
            latest.deps⟩
          change cleanup before.fetches = _
          rw [latest.split, cleanup_concat]

/-- Only the effect makes a fetch, and it makes it for the last commit. -/
theorem asked_of_step (step : before.Step move after) :
    after.asked = before.asked ++ if move.isEffect then [before.deps] else [] := by
  unfold Step at step
  cases move with
  | commit deps =>
      obtain ⟨-, done⟩ := Option.ite_none_left_eq_some.mp step
      split_ifs at done with same
      all_goals
        obtain rfl := Option.some.inj done
        exact (List.append_nil _).symm
  | effect =>
      obtain ⟨-, done⟩ := Option.ite_none_left_eq_some.mp step
      obtain rfl := Option.some.inj done
      change (cleanup before.fetches ++ _).map Fetch.deps = _
      rw [List.map_append, deps_cleanup]
      rfl
  | settle index result =>
      simp only [perform] at step
      split at step
      · exact absurd step nofun
      · rename_i fetch isFetch
        obtain ⟨-, done⟩ := Option.ite_none_left_eq_some.mp step
        obtain rfl := Option.some.inj done
        change (before.fetches.set index _).map Fetch.deps = before.asked ++ []
        obtain ⟨inside, rfl⟩ := List.getElem?_eq_some_iff.mp isFetch
        rw [List.map_set, List.append_nil, ← List.getElem_map Fetch.deps, List.set_getElem_self]
        · rfl
        · exact (List.length_map ..).symm ▸ inside
  | unmount =>
      obtain ⟨-, done⟩ := Option.ite_none_left_eq_some.mp step
      obtain rfl := Option.some.inj done
      change (cleanup before.fetches).map Fetch.deps = before.asked ++ []
      rw [deps_cleanup, List.append_nil]
      rfl

/-- Only a commit changes the dependencies of the last one. -/
theorem deps_of_step (step : before.Step move after) :
    after.deps = before.deps ∨ move = .commit after.deps := by
  unfold Step at step
  cases move with
  | commit deps =>
      obtain ⟨-, done⟩ := Option.ite_none_left_eq_some.mp step
      split_ifs at done with same
      · exact Or.inl (congrArg Async.deps (Option.some.inj done)).symm
      · obtain rfl := Option.some.inj done
        exact Or.inr rfl
  | effect =>
      obtain ⟨-, done⟩ := Option.ite_none_left_eq_some.mp step
      obtain rfl := Option.some.inj done
      exact Or.inl rfl
  | settle index result =>
      simp only [perform] at step
      split at step
      · exact absurd step nofun
      · obtain ⟨-, done⟩ := Option.ite_none_left_eq_some.mp step
        obtain rfl := Option.some.inj done
        exact Or.inl rfl
  | unmount =>
      obtain ⟨-, done⟩ := Option.ite_none_left_eq_some.mp step
      obtain rfl := Option.some.inj done
      exact Or.inl rfl

theorem wellFormed_of_run {start : κ} (run : Trace Step (mount start : Async κ δ) moves after) :
    WellFormed moves after := by
  induction run with
  | nil => exact wellFormed_mount start
  | snoc _ step formed => exact wellFormed_of_step formed step

/-- What the hook returns is the answer to the newest fetch, or that there is none so far,
among the answers that came while the component was mounted; and unless an effect is still
to run, that fetch is for the dependencies of the last commit. -/
def ShowsNewest (moves : List (Move κ δ)) (component : Async κ δ) : Prop :=
  component.state = shown (answer (whileMounted moves) (newest moves)) ∧
    (component.effectPending = false →
      component.fetches[newest moves]?.map Fetch.deps = some component.deps)

/-- Whatever order the answers come in, nothing but the answer to the newest fetch is shown. -/
theorem shows_newest (start : κ) (run : Trace Step (mount start : Async κ δ) moves after) :
    ShowsNewest moves after :=
  ⟨(wellFormed_of_run run).state, (wellFormed_of_run run).newest_deps⟩

/-- The answer to the first fetch comes after that to the second one, and is not shown. -/
theorem sample_shows_newest : ∃ last : Async Nat String,
    Trace Step (mount 1)
      [.effect, .commit 2, .effect, .settle 1 (.resolved "two"), .settle 0 (.resolved "one")] last ∧
    ShowsNewest
      [.effect, .commit 2, .effect, .settle 1 (.resolved "two"), .settle 0 (.resolved "one")] last ∧
    last.state.data = some "two" := by
  have played : (play perform
      [.effect, .commit 2, .effect, .settle 1 (.resolved "two"), .settle 0 (.resolved "one")]
      (mount 1 : Async Nat String)).map (fun last => last.state.data) = some (some "two") := by
    decide +kernel
  obtain ⟨last, isLast, shows⟩ := Option.map_eq_some_iff.mp played
  have run := trace_of_play perform isLast
  exact ⟨last, run, shows_newest 1 run, shows⟩

end VoltStream.Frontend.Async
