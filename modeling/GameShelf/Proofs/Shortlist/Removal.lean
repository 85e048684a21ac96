import GameShelf.Proofs.Shortlist.Edits
/-!
# Shortlist removal — what a token removes

A removal picks games by position and then drops all that are the same as one of them.  As no two games of a list are the
same, nothing goes but what was picked; and of what was picked, the games with a NaN stay, being the same as no game.
-/
namespace GameShelf
namespace Shortlist

variable {list : Shortlist} {token : Text} {s : Selection} {first last : Nat} {before doomed after : List Game}

theorem filter_outside (others : List Game) (h : ∀ x ∈ others, ∀ y ∈ doomed, x.same y = false) :
    others.filter (fun g => !doomed.any (·.same g)) = others := by
  refine List.filter_eq_self.2 fun x hx => ?_
  have hnone : ∀ y ∈ doomed, ¬ y.same x = true := by
    intro y hy
    rw [Game.same_comm, h x hx y hy]
    exact Bool.false_ne_true
  simpa using hnone

theorem filter_inside (doomed : List Game) :
    doomed.filter (fun g => !doomed.any (·.same g)) = doomed.filter Game.hasNaN := by
  refine List.filter_congr fun x hx => ?_
  cases hnan : x.hasNaN with
  | true =>
    have hnone : ∀ y ∈ doomed, ¬ y.same x = true := fun y _ => Bool.eq_false_iff.1 (Game.same_of_hasNaN hnan y)
    simpa using hnone
  | false =>
    have hself : x.same x = true := by rw [Game.same_self, hnan]; rfl
    simpa using ⟨x, hx, hself⟩

theorem erase_middle (h : list.Distinct) (hgames : before ++ doomed ++ after = list.games) :
    list.erase doomed = ⟨before ++ doomed.filter Game.hasNaN ++ after⟩ := by
  rw [Distinct, ← hgames] at h
  obtain ⟨hfront, -, hafter⟩ := List.pairwise_append.1 h
  obtain ⟨-, -, hbefore⟩ := List.pairwise_append.1 hfront
  have houter : ∀ x ∈ after, ∀ y ∈ doomed, x.same y = false := by
    intro x hx y hy
    rw [Game.same_comm]
    exact hafter y (List.mem_append_right _ hy) x hx
  rw [erase, ← hgames, List.filter_append, List.filter_append, filter_outside before hbefore, filter_inside,
    filter_outside after houter]

theorem count_erase_middle (h : list.Distinct) (hgames : before ++ doomed ++ after = list.games) :
    list.count - (list.erase doomed).count = doomed.countP fun g => !g.hasNaN := by
  have hsplit := List.length_eq_countP_add_countP Game.hasNaN (l := doomed)
  have hstay : (doomed.filter Game.hasNaN).length = doomed.countP Game.hasNaN := List.countP_eq_length_filter.symm
  rw [erase_middle h hgames, count, count, ← hgames]
  simp only [List.length_append, hstay]
  simp only [Bool.not_eq_true, Bool.decide_eq_false] at hsplit
  omega

/-- **A token that means some positions removes the games at them that have no NaN**, keeps every other game in its order,
and tells how many it removed.  So it removes all that it resolves to exactly when none of that has a NaN. -/
theorem remove_positions (hreach : list.Reachable) (hread : Selection.read token = .ok s) (hall : s ≠ .all)
    (hspan : s.span? Game.name list.games = some (first, last)) :
    let resolved := Selection.slice list.games first last
    Selection.resolve Game.name list.games token = .ok resolved ∧
    list.remove token = (⟨list.games.take (first - 1) ++ resolved.filter Game.hasNaN ++ list.games.drop last⟩,
      .ok (resolved.countP fun g => !g.hasNaN)) ∧
    (list.remove token = (⟨list.games.take (first - 1) ++ list.games.drop last⟩, .ok (last - first + 1)) ↔
      ∀ g ∈ resolved, g.hasNaN = false) := by
  intro resolved
  obtain ⟨hfirst, hle, hlast⟩ := Selection.bounds_of_span? hspan hall
  have hgames : list.games.take (first - 1) ++ resolved ++ list.games.drop last = list.games :=
    Selection.take_append_slice (by omega)
  have hlength : resolved.length = last - first + 1 := by
    rw [Selection.length_slice hlast]
    omega
  have hresolve : Selection.resolve Game.name list.games token = .ok resolved :=
    (Selection.resolve_of_read hread).trans (Selection.pick_eq_ok_iff.2 ⟨_, hspan, rfl⟩)
  have hremove : list.remove token =
      (⟨list.games.take (first - 1) ++ resolved.filter Game.hasNaN ++ list.games.drop last⟩,
        .ok (resolved.countP fun g => !g.hasNaN)) := by
    have hdistinct := distinct_of_reachable hreach
    rw [← count_erase_middle hdistinct hgames, ← erase_middle hdistinct hgames]
    exact remove_of_resolve (by rw [hread]; simpa using hall) hresolve
  refine ⟨hresolve, hremove, ?_⟩
  rw [hremove]
  constructor
  · intro h g hg
    have hcount := Except.ok.inj (Prod.mk.inj h).2
    rw [← hlength] at hcount
    simpa using List.countP_eq_length.1 hcount g hg
  · intro h
    have hstay : resolved.filter Game.hasNaN = [] := List.filter_eq_nil_iff.2 fun g hg => by simp [h g hg]
    have hcount : resolved.countP (fun g => !g.hasNaN) = resolved.length :=
      List.countP_eq_length.2 fun g hg => by simp [h g hg]
    rw [hstay, hcount, hlength, List.append_nil]

/-- A range that takes two games of three, one of them with a NaN. -/
theorem remove_positions_range :
    let odd : Game := { Game.ofName "Odd".toList 9 with rating := .ofSignMagnitude false Binary64.quietNaN }
    let list := run [.add [.ofName "Go".toList 1, odd, .ofName "Chess".toList 7] "all".toList]
    Selection.read "2-3".toList = .ok (.range 2 3) ∧ Selection.range 2 3 ≠ .all ∧
    (Selection.range 2 3).span? Game.name list.games = some (2, 3) ∧
    list.remove "2-3".toList = (⟨[.ofName "Go".toList 1, odd]⟩, .ok 1) := by
  intro odd list
  have hspan : (Selection.range 2 3).span? Game.name list.games = some (2, 3) := rfl
  exact ⟨rfl, by decide, hspan, (remove_positions ⟨_, rfl⟩ rfl (by decide) hspan).2.1⟩

/-- Not every removal takes all that its token resolves to: the only game of a list may have a NaN. -/
theorem remove_resolved_fails :
    let odd : Game := { Game.ofName "Odd".toList 9 with rating := .ofSignMagnitude false Binary64.quietNaN }
    let list := run [.add [odd] "1".toList]
    list.Reachable ∧ Selection.resolve Game.name list.games "1".toList = .ok [odd] ∧
    list.remove "1".toList = (⟨[odd]⟩, .ok 0) ∧ list.remove "1".toList ≠ (⟨[]⟩, .ok 1) := by
  intro odd list
  have hremove : list.remove "1".toList = (⟨[odd]⟩, .ok 0) := rfl
  refine ⟨⟨_, rfl⟩, rfl, hremove, ?_⟩
  rw [hremove]
  simp

end Shortlist
end GameShelf
