import GameShelf.Game
import GameShelf.Selection
import GameShelf.Sorting
/-!
# Shortlist — the games chosen so far

The games stand in the order in which they were chosen, and no game is chosen twice.  Additions are
picked from candidates of the caller's; removals are picked from the list itself.
-/
namespace GameShelf

structure Shortlist where
  games : List Game
deriving DecidableEq

namespace Shortlist

def empty : Shortlist := ⟨[]⟩

def count (list : Shortlist) : Nat :=
  list.games.length

def contains (list : Shortlist) (g : Game) : Bool :=
  list.games.any (·.same g)

/-- The list with a game at its end, unless it is there already. -/
def insert (list : Shortlist) (g : Game) : Shortlist :=
  if list.contains g then list else ⟨list.games ++ [g]⟩

/-- The list without the games that are the same as one of these. -/
def erase (list : Shortlist) (doomed : List Game) : Shortlist :=
  ⟨list.games.filter fun g => !doomed.any (·.same g)⟩

/-- Inserts what the token picks from the candidates, one after the other.  Gives the list then, and
how many games it gained. -/
def add (list : Shortlist) (candidates : List Game) (token : Text) :
    Shortlist × Except Selection.Failure Nat :=
  match Selection.resolve Game.name candidates token with
  | .error cause => (list, .error cause)
  | .ok picked =>
    let next := picked.foldl insert list
    (next, .ok (next.count - list.count))

/-- Removes what the token picks from the list itself; `all` empties it.  Gives the list then, and how
many games it lost. -/
def remove (list : Shortlist) (token : Text) : Shortlist × Except Selection.Failure Nat :=
  match Selection.read token with
  | .error cause => (list, .error cause)
  | .ok selection =>
    if selection.isAll then (empty, .ok list.count)
    else match selection.pick Game.name list.games with
      | .error cause => (list, .error cause)
      | .ok doomed =>
        let next := list.erase doomed
        (next, .ok (list.count - next.count))

/-- Order of names: case disregarded, and names that differ in case only by code point. -/
def nameOrder (a b : Text) : Ordering :=
  (Text.compareFolded a b).then (compare a b)

def names (list : Shortlist) : List Text :=
  Sorting.sortBy nameOrder (list.games.map Game.name)

end Shortlist
end GameShelf
