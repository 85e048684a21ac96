import GameShelf.Proofs.View.History
/-!
# Repetition — one filter called again and again

What a filter keeps it keeps again, so a second call does no more than sort what the first one has sorted
(`refine_refine_self`).  Upwards that changes nothing.  Downwards it turns the ties round, and a third call turns them
back (`refine_again`): the two arrangements alternate.
-/
namespace GameShelf

open Std (TransCmp)
open Sorting (TiesTurned)

/-- The order by a column, and by name where the column ties. -/
def Column.thenName (c : Column) : Game → Game → Ordering :=
  compareLex c.order Column.name.order

instance (c : Column) : TransCmp c.thenName :=
  inferInstanceAs (TransCmp (compareLex c.order Column.name.order))

theorem Column.sort_sort_name (c : Column) (games : List Game) :
    c.sort (Column.name.sort games) = Sorting.sortBy c.thenName games := by
  rw [sort_eq_sortBy, sort_eq_sortBy]
  exact Sorting.sortBy_sortBy_eq_compareLex games

namespace View

/-- The order in which a filter shows the games that it keeps. -/
def arrange : Option SortKey → List Game → List Game
  | none, games => Column.name.sort games
  | some key, games => key.sort (Column.name.sort games)

theorem refine_eq (view : View) (e : Text) (key? : Option SortKey) :
    view.refine e key? = ⟨view.catalog, arrange key? (view.games.filter (Expression.admits e)), true⟩ := by
  cases key? <;> rfl

theorem filter_games_refine (view : View) (e : Text) (key? : Option SortKey) :
    (view.refine e key?).games.filter (Expression.admits e) = (view.refine e key?).games :=
  List.filter_eq_self.2 fun _ hg => (List.mem_filter.1 ((games_refine_perm view e key?).subset hg)).2

/-- **The same filter again** only arranges again what it has arranged. -/
theorem refine_refine_self (view : View) (e : Text) (key? : Option SortKey) :
    (view.refine e key?).refine e key? = ⟨view.catalog, arrange key? (view.refine e key?).games, true⟩ := by
  rw [refine_eq (view.refine e key?), filter_games_refine, refine_eq view]

theorem arrange_arrange_none (games : List Game) : arrange none (arrange none games) = arrange none games :=
  Column.name.sort_sort games

theorem arrange_ascending (c : Column) (games : List Game) :
    arrange (some (.ascending c)) games = Sorting.sortBy c.thenName games :=
  c.sort_sort_name games

theorem arrange_descending (c : Column) (games : List Game) :
    arrange (some (.descending c)) games = (Sorting.sortBy c.thenName games).reverse :=
  congrArg List.reverse (c.sort_sort_name games)

theorem arrange_arrange_ascending (c : Column) (games : List Game) :
    arrange (some (.ascending c)) (arrange (some (.ascending c)) games) = arrange (some (.ascending c)) games := by
  simp only [arrange_ascending, Sorting.sortBy_sortBy]

theorem tiesTurned_arrange_descending (c : Column) (games : List Game) :
    TiesTurned c.thenName (arrange (some (.descending c)) games)
      (arrange (some (.descending c)) (arrange (some (.descending c)) games)) := by
  simp only [arrange_descending]
  exact Sorting.tiesTurned_reverse_sortBy games

theorem arrange_arrange_arrange_descending (c : Column) (games : List Game) :
    arrange (some (.descending c)) (arrange (some (.descending c)) (arrange (some (.descending c)) games)) =
      arrange (some (.descending c)) games := by
  simp only [arrange_descending, Sorting.sortBy_reverse_sortBy]

/-- **A filter repeated.**  Without a key, or by an ascending one, the second call changes nothing.  By a descending one
the second call turns the games round that tie both by the column and by name, and changes nothing else; and the third
call gives what the first one gave. -/
theorem refine_again (view : View) (e : Text) (c : Column) :
    let up := some (SortKey.ascending c)
    let down := some (SortKey.descending c)
    (view.refine e none).refine e none = view.refine e none ∧
    (view.refine e up).refine e up = view.refine e up ∧
    let once := view.refine e down
    let twice := once.refine e down
    twice.refine e down = once ∧
      ∀ games, TiesTurned c.thenName once.games games ↔ twice = { once with games := games } := by
  intro up down
  have hname : (view.refine e none).refine e none = view.refine e none := by
    rw [refine_refine_self, refine_eq, arrange_arrange_none]
  have hup : (view.refine e up).refine e up = view.refine e up := by
    rw [refine_refine_self, refine_eq, arrange_arrange_ascending]
  refine ⟨hname, hup, ?_⟩
  intro once twice
  have honce : once = ⟨view.catalog, arrange down (view.games.filter (Expression.admits e)), true⟩ :=
    refine_eq view e down
  have htwice : twice = { once with games := arrange down once.games } := refine_refine_self view e down
  have hthrice : twice.refine e down = { once with games := arrange down twice.games } :=
    refine_refine_self once e down
  have hturned : TiesTurned c.thenName once.games (arrange down once.games) := by
    rw [honce]
    exact tiesTurned_arrange_descending c _
  refine ⟨?_, fun games => ⟨fun h => ?_, fun h => ?_⟩⟩
  · rw [hthrice, htwice, honce]
    simp only [down, arrange_arrange_arrange_descending]
  · rw [htwice, hturned.unique h]
  · have hgames : arrange down once.games = games := congrArg View.games (htwice.symm.trans h)
    rwa [hgames] at hturned

/-- Two games that tie by rating and by name, and one below them: the two change places with every call. -/
example :
    let view := ofCatalog [.ofName "go".toList 1, .ofName "Go".toList 2, .ofName "Chess".toList 3]
    let again := fun view : View => view.refine [] (some (.descending .rating))
    (again view).games.map Game.id = [2, 1, 3] ∧ (again (again view)).games.map Game.id = [1, 2, 3] ∧
      (again (again (again view))).games.map Game.id = [2, 1, 3] := by
  decide +kernel

end View
end GameShelf
