import GameShelf.Proofs.Expression
import GameShelf.Proofs.Selection.Resolution
import GameShelf.Proofs.SortKey
import GameShelf.View
/-!
# Picking — a name as a token, and as a literal

A token that is a name picks the first game of that name; a clause with the name for its literal keeps all games of that
name and sorts them.  All of them tie by name, so the sort leaves them as they stood (`games_refine_name`), and the game
that is picked is the first of those that are kept (`resolve_name_iff_refine`).
-/
namespace GameShelf

namespace View

variable {n : Text}

/-- **Games of one name are kept as they stand.** -/
theorem games_refine_name (view : View) (hne : n ≠ []) (htrim : Text.Trimmed n) (hcomma : ',' ∉ n)
    (hfree : ¬ "==".toList <:+: n) :
    (view.refine ("name == ".toList ++ n) none).games =
      view.games.filter fun g => Text.compareFolded g.name n = .eq := by
  let named : Clause := ⟨.name, .equal, n⟩
  have hclauses : Expression.clauses ("name == ".toList ++ n) = [named] := by
    have hprinted : "name == ".toList ++ n = named.printAs "name".toList := rfl
    have halias : "name".toList ∈ Column.name.aliases := by decide
    rw [hprinted]
    exact Expression.clauses_printAs halias (Operator.carries_equal hne htrim hfree) hcomma
  have hadmits : Expression.admits ("name == ".toList ++ n) = fun g => decide (Text.compareFolded g.name n = .eq) :=
    funext fun g => by
      rw [Expression.admits, hclauses, List.all_cons, List.all_nil, Bool.and_true]
      rfl
  -- the games that are kept tie with a game of that name, and so with each other
  have hties : view.games.filter (fun g => decide (Text.compareFolded g.name n = .eq)) =
      Sorting.ties Column.name.order (.ofName n 0) view.games := by
    refine List.filter_congr fun g _ => decide_eq_decide.2 ?_
    exact Std.OrientedCmp.eq_comm
  show Column.name.sort (view.games.filter (Expression.admits _)) = _
  rw [hadmits, hties, Column.sort_eq_sortBy]
  exact Sorting.sortBy_of_pairwise (Sorting.pairwise_ties _ _)

/-- **Picking by a name and filtering by it agree.**  A token that is a name, and that an expression can carry after `==`,
picks a game exactly if the filter `name == n` leaves any; it picks one game, the first of those. -/
theorem resolve_name_iff_refine (view : View) (n : Text) (hname : Selection.IsName n) (htrim : Text.Trimmed n)
    (hcomma : ',' ∉ n) (hfree : ¬ "==".toList <:+: n) :
    let filtered := (view.refine ("name == ".toList ++ n) none).games
    let result := Selection.resolve Game.name view.games n
    (result.isOk = true ↔ filtered ≠ []) ∧
    (∀ g rest, filtered = g :: rest → result = .ok [g]) ∧
    (filtered = [] → result = .error ⟨n, .nameNotFound⟩) := by
  intro filtered result
  have hfiltered : filtered = view.games.filter fun g => Text.compareFolded g.name n = .eq :=
    view.games_refine_name hname.ne_nil htrim hcomma hfree
  have hfirst : view.games.find? (fun g => Text.compareFolded g.name n = .eq) = filtered.head? := by
    rw [hfiltered, List.head?_filter]
  have hread : Selection.read n = .ok (.name n) := by
    have htrim : Text.trim n = n := Text.trim_eq_self_iff.2 htrim
    have h := Selection.IsName.read_eq n (htrim.symm ▸ hname)
    rwa [htrim] at h
  have hpick : result = (Selection.name n).pick Game.name view.games := Selection.resolve_of_read hread
  have hcons : ∀ g rest, filtered = g :: rest → result = .ok [g] := fun g rest h => by
    rw [h, List.head?_cons] at hfirst
    rw [hpick]
    simp only [Selection.pick, hfirst]
  have hnil : filtered = [] → result = .error ⟨n, .nameNotFound⟩ := fun h => by
    rw [h, List.head?_nil] at hfirst
    rw [hpick]
    simp only [Selection.pick, hfirst, Selection.print]
  refine ⟨?_, hcons, hnil⟩
  cases hkept : filtered with
  | nil => simp [hnil hkept, Except.isOk, Except.toBool]
  | cons g rest => simp [hcons g rest hkept, Except.isOk, Except.toBool]

/-- A name that holds other tokens, borne in two spellings by games that are not the first. -/
theorem resolve_name_iff_refine_spelled :
    let view := ofCatalog [.ofName "Ur".toList 1, .ofName "GO!=>2".toList 2, .ofName "go!=>2".toList 3]
    let n := "Go!=>2".toList
    Selection.IsName n ∧ Text.Trimmed n ∧ ',' ∉ n ∧ ¬ "==".toList <:+: n ∧
      (view.refine ("name == ".toList ++ n) none).games = [.ofName "GO!=>2".toList 2, .ofName "go!=>2".toList 3] ∧
      Selection.resolve Game.name view.games n = .ok [.ofName "GO!=>2".toList 2] := by
  intro view n
  have hname : Selection.IsName n := by
    refine ⟨by decide, by decide, by decide, fun a b h => ?_⟩
    have hdash : '-' ∈ n := h ▸ List.mem_append_right a List.mem_cons_self
    exact absurd hdash (by decide)
  have htrim : Text.Trimmed n := Text.trim_eq_self_iff.1 (by decide)
  have hcomma : ',' ∉ n := by decide
  have hfree : ¬ "==".toList <:+: n := by decide +kernel
  have hfiltered : (view.refine ("name == ".toList ++ n) none).games =
      [.ofName "GO!=>2".toList 2, .ofName "go!=>2".toList 3] := by
    decide +kernel
  exact ⟨hname, htrim, hcomma, hfree, hfiltered,
    (resolve_name_iff_refine view n hname htrim hcomma hfree).2.1 _ _ hfiltered⟩

end View
end GameShelf
