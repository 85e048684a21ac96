import GameShelf.Proofs.Shortlist.Additions
/-!
# Shortlist runs — an ordered set under any edits

However a list was edited, its games are distinct; an addition appends to it, a removal takes away from it, and neither
changes the order of what stays.  An edit that fails leaves no trace: without the failed edits a run gives the same
answers and passes through the same lists (`trace_successes`).
-/
namespace GameShelf
namespace Shortlist

variable {list next : Shortlist} {token : Text} {n : Nat} {edit : Edit}

/-- What an edit answers: how many games the list gained or lost, or why the token means nothing.  Clearing answers
nothing. -/
def answer (list : Shortlist) : Edit → Except Selection.Failure (Option Nat)
  | .add candidates token => (list.add candidates token).2.map some
  | .remove token => (list.remove token).2.map some
  | .clear => .ok none

/-- The answers to a run of edits, each with the list that the edit leaves. -/
def trace (list : Shortlist) : List Edit → List (Except Selection.Failure (Option Nat) × Shortlist)
  | [] => []
  | edit :: edits => (list.answer edit, list.step edit) :: trace (list.step edit) edits

/-- The edits of a run that do not fail. -/
def successes (list : Shortlist) : List Edit → List Edit
  | [] => []
  | edit :: edits =>
    if (list.answer edit).isOk then edit :: successes (list.step edit) edits else successes (list.step edit) edits

/-- **An edit that fails leaves the list as it was.** -/
theorem step_of_failed (h : (list.answer edit).isOk = false) : list.step edit = list := by
  cases edit with
  | add candidates token =>
    cases hadd : (list.add candidates token).2 with
    | error cause => exact fst_add_of_error hadd
    | ok gained => rw [answer, hadd] at h; cases h
  | remove token =>
    cases hremove : (list.remove token).2 with
    | error cause => exact fst_remove_of_error hremove
    | ok lost => rw [answer, hremove] at h; cases h
  | clear => cases h

/-- **Without its failed edits, a run answers the same and passes through the same lists.** -/
theorem trace_successes (list : Shortlist) (edits : List Edit) :
    trace list (successes list edits) = (trace list edits).filter (·.1.isOk) := by
  induction edits generalizing list with
  | nil => rfl
  | cons edit edits ih =>
    cases h : (list.answer edit).isOk with
    | true =>
      rw [successes, if_pos h, trace, trace, ih]
      simp [h]
    | false =>
      rw [successes, if_neg (Bool.eq_false_iff.1 h), trace, step_of_failed h, ih]
      simp [h]

theorem foldl_step_successes (list : Shortlist) (edits : List Edit) :
    (successes list edits).foldl step list = edits.foldl step list := by
  induction edits generalizing list with
  | nil => rfl
  | cons edit edits ih =>
    cases h : (list.answer edit).isOk with
    | true => rw [successes, if_pos h, List.foldl_cons, List.foldl_cons, ih]
    | false => rw [successes, if_neg (Bool.eq_false_iff.1 h), List.foldl_cons, step_of_failed h, ih]

theorem Distinct.getElem (h : list.Distinct) {i j : Nat} (hi : i < list.games.length) (hj : j < list.games.length)
    (hne : i ≠ j) : list.games[i].same list.games[j] = false := by
  have hpairs := List.pairwise_iff_getElem.1 h
  rcases Nat.lt_or_gt_of_ne hne with hlt | hgt
  · exact hpairs i j hi hj hlt
  · rw [Game.same_comm]
    exact hpairs j i hj hi hgt

/-- **A removal leaves the other games in their order**, and tells how many are gone. -/
theorem sublist_of_remove (h : list.remove token = (next, .ok n)) :
    next.games.Sublist list.games ∧ next.count + n = list.count := by
  obtain ⟨cause, -, hremove⟩ | ⟨-, hremove⟩ | ⟨doomed, -, -, hremove⟩ := remove_cases list token
  · cases hremove.symm.trans h
  · cases hremove.symm.trans h
    exact ⟨List.nil_sublist _, Nat.zero_add _⟩
  · cases hremove.symm.trans h
    have hsub : (list.erase doomed).games.Sublist list.games := List.filter_sublist
    exact ⟨hsub, Nat.add_sub_cancel' hsub.length_le⟩

/-- **After any edits a list is an ordered set**: no two positions hold the same game; an addition succeeds when its token
means something, and then appends, in the order of the candidates, exactly the picked games that are the same as nothing
before them in the new list, and tells how many; a removal that succeeds leaves the games that stay in their order, and
tells how many do not; and an edit that fails changes nothing, so that the run without its failed edits has the same
answers, the same lists on its way and the same end. -/
theorem run_ordered_set (edits : List Edit) :
    (∀ (i j : Nat) (hi : i < (run edits).games.length) (hj : j < (run edits).games.length), i ≠ j →
      (run edits).games[i].same (run edits).games[j] = false) ∧
    (∀ candidates token next n, (run edits).add candidates token = (next, .ok n) ↔
      ∃ picked gained, Selection.resolve Game.name candidates token = .ok picked ∧
        Gains (run edits).games picked gained ∧ next.games = (run edits).games ++ gained.map Prod.fst ∧
        n = gained.length) ∧
    (∀ token next n, (run edits).remove token = (next, .ok n) →
      next.games.Sublist (run edits).games ∧ next.count + n = (run edits).count) ∧
    (∀ edit, ((run edits).answer edit).isOk = false → (run edits).step edit = run edits) ∧
    trace empty (successes empty edits) = (trace empty edits).filter (·.1.isOk) ∧
    run (successes empty edits) = run edits := by
  have hdistinct : (run edits).Distinct := distinct_of_reachable ⟨edits, rfl⟩
  refine ⟨fun i j hi hj => hdistinct.getElem hi hj, fun candidates token next n => add_eq_ok_iff,
    fun token next n => sublist_of_remove, fun edit => step_of_failed, trace_successes empty edits,
    foldl_step_successes empty edits⟩

/-- Of two games, one stands before the other; the first can be removed, and one of another name cannot. -/
theorem run_ordered_set_pair :
    let go : Game := .ofName "Go".toList 1
    let chess : Game := .ofName "Chess".toList 7
    let edits := [.remove "1".toList, .add [go, chess] "all".toList]
    run edits = ⟨[go, chess]⟩ ∧ go.same chess = false ∧
      ((run edits).remove "1".toList = (⟨[chess]⟩, .ok 1) ∧ [chess].Sublist [go, chess]) ∧
      (((run edits).answer (.remove "Catan".toList)).isOk = false ∧
        (run edits).step (.remove "Catan".toList) = run edits) ∧
      run (successes empty edits) = run edits := by
  intro go chess edits
  obtain ⟨hsame, -, hremove, hfailed, -, hrun⟩ := run_ordered_set edits
  have hpick : Selection.resolve Game.name (run edits).games "1".toList = .ok [go] := rfl
  have herase : (run edits).erase [go] = ⟨[chess]⟩ := by decide +kernel
  have hfirst : (run edits).remove "1".toList = (⟨[chess]⟩, .ok 1) := by
    rw [remove_of_resolve (by decide) hpick, herase]
    rfl
  have hnone : ((run edits).answer (.remove "Catan".toList)).isOk = false := by decide +kernel
  exact ⟨rfl, hsame 0 1 (by decide) (by decide) (by decide), ⟨hfirst, (hremove _ _ _ hfirst).1⟩,
    ⟨hnone, hfailed _ hnone⟩, hrun⟩

end Shortlist
end GameShelf
