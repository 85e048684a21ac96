import GameShelf.Command.Run
import GameShelf.Proofs.Expression
import GameShelf.Proofs.SortKey
/-!
# Narrowing — a chain of filters is one filter

The sort by name between two filters leaves no trace (`refine_refine`): the second filter and the sorts after it do the
same with the games in any order that the first sort could have left them in.  So the filters of a command are one
filter by their expressions joined by commas, and neither their order nor the way their pieces are grouped matters.
-/
namespace GameShelf
namespace View

theorem games_refine_some (view : View) (e : Text) (key : SortKey) :
    (view.refine e (some key)).games = key.sort (Column.name.sort (view.games.filter (Expression.admits e))) := rfl

theorem refine_congr (view : View) {a b : Text} (key? : Option SortKey)
    (h : ∀ g, Expression.admits a g = Expression.admits b g) : view.refine a key? = view.refine b key? := by
  have h : Expression.admits a = Expression.admits b := funext h
  simp only [refine, h]

/-- **Two filters in a row are one**, by their expressions joined by a comma. -/
theorem refine_refine (view : View) (a b : Text) (key? : Option SortKey) :
    (view.refine a none).refine b key? = view.refine (a ++ ',' :: b) key? := by
  have hadmits : ∀ g, (Expression.admits b g && Expression.admits a g) = Expression.admits (a ++ ',' :: b) g := fun g => by
    rw [show a ++ ',' :: b = Text.joinCommas [a, b] from by simp [Text.joinCommas], Expression.admits_joinCommas]
    simp [Bool.and_comm]
  have hkept : Column.name.sort ((Column.name.sort (view.games.filter (Expression.admits a))).filter
      (Expression.admits b)) = Column.name.sort (view.games.filter (Expression.admits (a ++ ',' :: b))) := by
    rw [Column.filter_sort, Column.sort_sort, List.filter_filter]
    simp only [hadmits]
  simp only [refine, SortKey.sort_ascending, hkept]

end View

namespace Command

theorem narrow_eq_refine (key : SortKey) : ∀ (view : View) (filters : List Text),
    (narrow key view filters).1 = view.refine (Text.joinCommas filters) (some key)
  | _, [] => rfl
  | view, [e] => by simp [narrow, refine, Text.joinCommas]
  | view, e :: f :: rest => by
    have hjoin : Text.joinCommas (e :: f :: rest) = e ++ ',' :: Text.joinCommas (f :: rest) := by
      simp [Text.joinCommas]
    rw [hjoin, ← View.refine_refine, ← narrow_eq_refine key (view.refine e none) (f :: rest)]
    rfl

/-- A chain of filters depends on its clauses only, and not on their order. -/
theorem narrow_congr (key : SortKey) (view : View) {filters others : List Text}
    (h : (others.flatMap Expression.clauses).Perm (filters.flatMap Expression.clauses)) :
    (narrow key view others).1 = (narrow key view filters).1 := by
  rw [narrow_eq_refine, narrow_eq_refine]
  refine View.refine_congr view _ fun g => ?_
  rw [Expression.admits, Expression.admits, Expression.clauses_joinCommas, Expression.clauses_joinCommas]
  exact h.all_eq

/-- **The view of a command is one filter by its expressions joined by commas**: the games that meet every clause, stably
sorted by name and then by the key.  Neither the order of the filters nor that of their pieces matters, nor which of
the filters a piece stands in. -/
theorem narrow_ofCatalog (catalog : List Game) (key : SortKey) (filters : List Text) :
    (narrow key (.ofCatalog catalog) filters).1 =
      (View.ofCatalog catalog).refine (Text.joinCommas filters) (some key) ∧
    (narrow key (.ofCatalog catalog) filters).1.games =
      key.sort ((catalog.filter fun g => (filters.flatMap Expression.clauses).all (·.admits g)).mergeSort
        fun a b => (Text.compareFolded a.name b.name).isLE) ∧
    (∀ others : List Text, others.Perm filters →
      (narrow key (.ofCatalog catalog) others).1 = (narrow key (.ofCatalog catalog) filters).1) ∧
    (∀ others : List Text, (others.flatMap (·.splitOn ',')).Perm (filters.flatMap (·.splitOn ',')) →
      (narrow key (.ofCatalog catalog) others).1 = (narrow key (.ofCatalog catalog) filters).1) := by
  refine ⟨narrow_eq_refine key _ filters, ?_, fun others h => ?_, fun others h => ?_⟩
  · rw [narrow_eq_refine, View.games_refine_some, Column.sort_eq_sortBy, Sorting.sortBy, Sorting.sort_eq_mergeSort]
    have hadmits : Expression.admits (Text.joinCommas filters) =
        fun g => (filters.flatMap Expression.clauses).all (·.admits g) := funext fun g => by
      rw [Expression.admits, Expression.clauses_joinCommas]
    rw [hadmits]
    rfl
  · exact narrow_congr key _ (h.flatMap_right _)
  · exact narrow_congr key _ (Expression.clauses_perm h)

/-- Filters in another order, and their pieces among other filters. -/
theorem narrow_ofCatalog_regrouped :
    (["bogus,year == 0".toList, "name ~= g".toList].Perm ["name ~= g".toList, "bogus,year == 0".toList] ∧
      (narrow (.descending .rating) (.ofCatalog [.ofName "go".toList 1, .ofName "Go".toList 2])
        ["bogus,year == 0".toList, "name ~= g".toList]).1 =
      (narrow (.descending .rating) (.ofCatalog [.ofName "go".toList 1, .ofName "Go".toList 2])
        ["name ~= g".toList, "bogus,year == 0".toList]).1) ∧
    ((["year == 0,name ~= g,bogus".toList].flatMap (·.splitOn ',')).Perm
        (["name ~= g".toList, "bogus,year == 0".toList].flatMap (·.splitOn ',')) ∧
      (narrow (.descending .rating) (.ofCatalog [.ofName "go".toList 1, .ofName "Go".toList 2])
        ["year == 0,name ~= g,bogus".toList]).1 =
      (narrow (.descending .rating) (.ofCatalog [.ofName "go".toList 1, .ofName "Go".toList 2])
        ["name ~= g".toList, "bogus,year == 0".toList]).1) :=
  ⟨⟨by decide, (narrow_ofCatalog _ _ _).2.2.1 _ (by decide)⟩, by decide, (narrow_ofCatalog _ _ _).2.2.2 _ (by decide)⟩

end Command
end GameShelf
