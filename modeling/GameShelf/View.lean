import GameShelf.Clause.Expression
import GameShelf.SortKey
/-!
# View — a catalog, and the part of it that is being looked at

Every filter narrows what the one before it left.  Only a reset brings games back.
-/
namespace GameShelf

/-- A catalog with its working view. -/
structure View where
  catalog : List Game
  games : List Game
  filtered : Bool
deriving DecidableEq

namespace View

def ofCatalog (catalog : List Game) : View :=
  ⟨catalog, catalog, false⟩

/-- Keeps the games that meet every clause of the expression, sorts them by name, and then by the key
if there is one. -/
def refine (view : View) (expression : Text) (key? : Option SortKey) : View :=
  let kept := (SortKey.ascending .name).sort (view.games.filter (Expression.admits expression))
  { view with
    games := match key? with
      | none => kept
      | some key => key.sort kept
    filtered := true }

def reset (view : View) : View :=
  ofCatalog view.catalog

end View
end GameShelf
