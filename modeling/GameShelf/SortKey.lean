import GameShelf.Game
import GameShelf.Sorting
/-!
# SortKey — games in the order of a column

Sorting is stable.  The descending order is the ascending one turned round, ties included: games that
tie stand in the reverse of the order they came in.
-/
namespace GameShelf

inductive Direction
  | ascending
  | descending
deriving DecidableEq, Inhabited

namespace Direction

def ofAscending (b : Bool) : Direction :=
  if b then ascending else descending

def isAscending (d : Direction) : Bool :=
  d = ascending

def isDescending (d : Direction) : Bool :=
  d = descending

end Direction

/-- A column to sort by, and the direction in which the result is shown. -/
structure SortKey where
  column : Column
  direction : Direction
deriving DecidableEq

def Column.sort (c : Column) (games : List Game) : List Game :=
  Sorting.sortBy (fun a b => Value.order (a.value c) (b.value c)) games

namespace SortKey

def ascending (c : Column) : SortKey := ⟨c, .ascending⟩

def descending (c : Column) : SortKey := ⟨c, .descending⟩

def sort (key : SortKey) (games : List Game) : List Game :=
  match key.direction with
  | .ascending => key.column.sort games
  | .descending => (key.column.sort games).reverse

end SortKey
end GameShelf
