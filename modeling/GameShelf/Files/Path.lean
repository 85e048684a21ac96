import GameShelf.Text.Basic
/-!
# Path — where a path leads, name by name

A path is a walk over directories.  Empty names, from a slash too many, and single dots stay where
they are; how the path ends still says whether it can name a file.
-/
namespace GameShelf

/-- A place in the file tree: the names that lead to it from the root, innermost first. -/
abbrev Place := List Text

/-- The name that leads back to the directory above.  Above the root there is the root. -/
def Place.above : Text := ['.', '.']

/-- How a path ends: in a name, in a slash after one, or in a dot, a double dot or the root. -/
inductive Ending
  | name
  | slash
  | dots
deriving DecidableEq

structure Path where
  isAbsolute : Bool
  names : List Text
  ending : Ending
deriving DecidableEq

namespace Path

def ofText (t : Text) : Path :=
  let pieces := t.splitOn '/'
  { isAbsolute := pieces.head? = some [] ∧ t ≠ []
    names := pieces.filter fun p => p ≠ [] ∧ p ≠ ['.']
    ending := match pieces.reverse.dropWhile (·.isEmpty) with
      | [] => .dots
      | last :: _ =>
        if last = ['.'] ∨ last = Place.above then .dots
        else if pieces.getLast? = some [] then .slash
        else .name }

def directories (p : Path) : List Text :=
  p.names.dropLast

/-- The path of the directory that a path's last name is in, as the text before that name; empty if
it is the starting point. -/
def parentText (t : Text) : Text :=
  let atRest (name : Text) : Bool := name = [] || name = ['.']
  let names := (t.splitOn '/').reverse.dropWhile atRest
  ['/'].intercalate ((names.drop 1).dropWhile atRest).reverse

end Path
end GameShelf
