import GameShelf.Proofs.Stability
import GameShelf.SortKey
/-!
# SortKey — sorting games, whatever the key

The values of one column are of one kind, so a column's order is transitive, although the order of values is not: across
kinds everything ties.  Hence what holds of stable sorting holds of every key, in both directions.
-/
namespace GameShelf

open Std (TransCmp OrientedCmp)

instance : TransCmp Text.compareFolded := inferInstanceAs (TransCmp (compareOn Text.fold))

instance : TransCmp Integer.order := inferInstanceAs (TransCmp (compareOn Int64.toInt))

instance : TransCmp Binary64.order := inferInstanceAs (TransCmp (compareOn Binary64.rank))

namespace Column

/-- The order that a column sorts games by. -/
def order (c : Column) (a b : Game) : Ordering :=
  Value.order (a.value c) (b.value c)

theorem transCmp_field {α β : Type} (cmp : β → β → Ordering) [TransCmp cmp] (field : α → β) :
    TransCmp fun a b => cmp (field a) (field b) where
  eq_swap := show cmp (field _) (field _) = _ from OrientedCmp.eq_swap
  isLE_trans hab hbc := show (cmp (field _) (field _)).isLE from TransCmp.isLE_trans hab hbc

instance (c : Column) : TransCmp c.order := by
  cases c with
  | name => exact transCmp_field Text.compareFolded Game.name
  | difficulty => exact transCmp_field Binary64.order Game.difficulty
  | rating => exact transCmp_field Binary64.order Game.rating
  | id => exact transCmp_field Integer.order Game.id
  | minPlayers => exact transCmp_field Integer.order Game.minPlayers
  | maxPlayers => exact transCmp_field Integer.order Game.maxPlayers
  | minTime => exact transCmp_field Integer.order Game.minTime
  | maxTime => exact transCmp_field Integer.order Game.maxTime
  | rank => exact transCmp_field Integer.order Game.rank
  | year => exact transCmp_field Integer.order Game.year

theorem sort_eq_sortBy (c : Column) (games : List Game) : c.sort games = Sorting.sortBy c.order games := rfl

theorem sort_perm (c : Column) (games : List Game) : (c.sort games).Perm games :=
  Sorting.sortBy_perm c.order games

theorem sort_sort (c : Column) (games : List Game) : c.sort (c.sort games) = c.sort games := by
  simp only [sort_eq_sortBy, Sorting.sortBy_sortBy]

theorem filter_sort (c : Column) (p : Game → Bool) (games : List Game) :
    (c.sort games).filter p = c.sort (games.filter p) := by
  simp only [sort_eq_sortBy, Sorting.filter_sortBy]

end Column

namespace SortKey

@[simp] theorem sort_ascending (c : Column) (games : List Game) : (ascending c).sort games = c.sort games := rfl

theorem sort_perm (key : SortKey) (games : List Game) : (key.sort games).Perm games := by
  unfold sort
  split
  · exact key.column.sort_perm games
  · exact (List.reverse_perm _).trans (key.column.sort_perm games)

/-- **Leaving games out and sorting by a key commute**, ties and direction included. -/
theorem filter_sort (key : SortKey) (p : Game → Bool) (games : List Game) :
    (key.sort games).filter p = key.sort (games.filter p) := by
  unfold sort
  split
  · exact key.column.filter_sort p games
  · rw [List.filter_reverse, key.column.filter_sort p games]

end SortKey
end GameShelf
