import GameShelf.Proofs.SortKey
import GameShelf.View
/-!
# Keeping — games left out before a sort, or behind it

A game left out of a list leaves no trace in the order of the others, so that it does not matter whether it is left out
before the list is sorted or behind that (`sort_keep`).  The filters of a view sort as they go; still the view is what all
their sorts in turn make of the games that meet all their clauses (`games_refineAll`).
-/
namespace GameShelf
namespace SortKey

/-- The games that meet every clause, in their order. -/
def keep (clauses : List Clause) (games : List Game) : List Game :=
  games.filter fun g => clauses.all (·.admits g)

/-- The games sorted by one key after another. -/
def sortInTurn (keys : List SortKey) (games : List Game) : List Game :=
  keys.foldl (fun games key => key.sort games) games

theorem keep_nil (games : List Game) : keep [] games = games :=
  List.filter_eq_self.2 fun _ _ => rfl

theorem keep_keep (clauses more : List Clause) (games : List Game) :
    keep more (keep clauses games) = keep (clauses ++ more) games := by
  simp only [keep, List.filter_filter, List.all_append, Bool.and_comm]

theorem sortInTurn_append (keys more : List SortKey) (games : List Game) :
    sortInTurn (keys ++ more) games = sortInTurn more (sortInTurn keys games) :=
  List.foldl_append

theorem sort_keep (key : SortKey) (clauses : List Clause) (games : List Game) :
    key.sort (keep clauses games) = keep clauses (key.sort games) :=
  (key.filter_sort _ games).symm

theorem sortInTurn_keep (keys : List SortKey) (clauses : List Clause) (games : List Game) :
    sortInTurn keys (keep clauses games) = keep clauses (sortInTurn keys games) := by
  induction keys generalizing games with
  | nil => rfl
  | cons key keys ih =>
    calc sortInTurn keys (key.sort (keep clauses games))
        = sortInTurn keys (keep clauses (key.sort games)) := by rw [sort_keep]
      _ = keep clauses (sortInTurn keys (key.sort games)) := ih (key.sort games)

end SortKey

namespace View

open SortKey (keep sortInTurn sort_keep sortInTurn_keep)

/-- The keys that a filter sorts by, one after the other. -/
def keysOf (key? : Option SortKey) : List SortKey :=
  .ascending .name :: key?.toList

/-- The view after filters in turn, each by an expression and with a key to sort by if it has one. -/
def refineAll (view : View) (calls : List (Text × Option SortKey)) : View :=
  calls.foldl (fun view call => view.refine call.1 call.2) view

theorem games_refine (view : View) (e : Text) (key? : Option SortKey) :
    (view.refine e key?).games = sortInTurn (keysOf key?) (keep (Expression.clauses e) view.games) := by
  cases key? <;> rfl

/-- **However often a chain of filters sorts on its way**, it is one filter by all their clauses, and then their sorts. -/
theorem games_refineAll (view : View) (calls : List (Text × Option SortKey)) :
    (view.refineAll calls).games = sortInTurn (calls.flatMap fun call => keysOf call.2)
      (keep (calls.flatMap fun call => Expression.clauses call.1) view.games) := by
  induction calls generalizing view with
  | nil => exact (SortKey.keep_nil view.games).symm
  | cons call calls ih =>
    let keys := calls.flatMap fun call => keysOf call.2
    let clauses := calls.flatMap fun call => Expression.clauses call.1
    calc ((view.refine call.1 call.2).refineAll calls).games
        = sortInTurn keys (keep clauses (sortInTurn (keysOf call.2) (keep (Expression.clauses call.1) view.games))) := by
          rw [ih, games_refine]
      _ = sortInTurn keys (sortInTurn (keysOf call.2) (keep (Expression.clauses call.1 ++ clauses) view.games)) := by
          rw [← sortInTurn_keep, SortKey.keep_keep]
      _ = _ := by rw [← SortKey.sortInTurn_append, List.flatMap_cons, List.flatMap_cons]

/-- **Leaving out the games that do not meet some clauses and sorting the others commute**, by whatever key, in either
direction and with the same order of ties.  So the filters of a view can be done before all their sorts, or behind them. -/
theorem sort_keep_comm :
    (∀ (games : List Game) (clauses : List Clause) (key : SortKey),
      key.sort (keep clauses games) = keep clauses (key.sort games)) ∧
    ∀ (view : View) (calls : List (Text × Option SortKey)),
      let keys := calls.flatMap fun call => keysOf call.2
      let clauses := calls.flatMap fun call => Expression.clauses call.1
      (view.refineAll calls).games = sortInTurn keys (keep clauses view.games) ∧
      (view.refineAll calls).games = keep clauses (sortInTurn keys view.games) := by
  refine ⟨fun games clauses key => sort_keep key clauses games, fun view calls => ?_⟩
  intro keys clauses
  have hgames : (view.refineAll calls).games = sortInTurn keys (keep clauses view.games) := games_refineAll view calls
  exact ⟨hgames, hgames.trans (sortInTurn_keep keys clauses view.games)⟩

end View
end GameShelf
