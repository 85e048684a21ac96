import GameShelf.Column
import GameShelf.Value
/-!
# Game — one board game of a catalog
-/
namespace GameShelf

/-- A game with its ten columns.  Equality of games as values is equality of all their bits; which
games count as the same is `Game.same`. -/
structure Game where
  name : Text
  id : Int64
  minPlayers : Int64
  maxPlayers : Int64
  minTime : Int64
  maxTime : Int64
  difficulty : Binary64
  rank : Int64
  rating : Binary64
  year : Int64
deriving DecidableEq

namespace Game

/-- A game of which only the name and the number are known; all else is zero. -/
def ofName (name : Text) (id : Int64) : Game :=
  ⟨name, id, 0, 0, 0, 0, .zero, 0, .zero, 0⟩

def value (g : Game) : Column → Value
  | .name => .text g.name
  | .id => .integer g.id
  | .minPlayers => .integer g.minPlayers
  | .maxPlayers => .integer g.maxPlayers
  | .minTime => .integer g.minTime
  | .maxTime => .integer g.maxTime
  | .difficulty => .real g.difficulty
  | .rank => .integer g.rank
  | .rating => .real g.rating
  | .year => .integer g.year

/-- Whether two records describe the same game: every column agrees, reals as numbers.  So a game
with a NaN is not even the same as itself, and a negative zero agrees with zero. -/
def same (a b : Game) : Bool :=
  a.name = b.name && a.id = b.id
    && a.minPlayers = b.minPlayers && a.maxPlayers = b.maxPlayers
    && a.minTime = b.minTime && a.maxTime = b.maxTime
    && a.difficulty.same b.difficulty && a.rank = b.rank
    && a.rating.same b.rating && a.year = b.year

end Game
end GameShelf
