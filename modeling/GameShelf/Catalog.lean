import GameShelf.Csv
import GameShelf.Game
import GameShelf.Number.Decimal
/-!
# Catalog — games read from comma-separated records

The first record names the columns by their canonical keys; every other record is a row, and either
gives one game or is skipped.  Columns are found by key and not by position, and others are ignored.
-/
namespace GameShelf
namespace Catalog

/-- The fields of a record, without the white space around them; none if one of them is not UTF-8. -/
def fields (record : List Bytes) : Option (List Text) :=
  record.mapM fun field => (Text.decode field).map Text.trim

/-- The field of a column: the one whose key is the column's canonical name, if just one is. -/
def field? (keys row : List Text) (c : Column) : Option Text :=
  match (keys.zip row).filter (·.1 = c.canonical) with
  | [(_, field)] => some field
  | _ => none

def game? (keys row : List Text) : Option Game := do
  let integer (c : Column) := (field? keys row c).bind Integer.readMarked
  let real (c : Column) := (field? keys row c).bind Binary64.read
  return {
    name := ← field? keys row .name
    id := ← integer .id
    minPlayers := ← integer .minPlayers
    maxPlayers := ← integer .maxPlayers
    minTime := ← integer .minTime
    maxTime := ← integer .maxTime
    difficulty := ← real .difficulty
    rank := ← integer .rank
    rating := ← real .rating
    year := ← integer .year }

/-- The game of a record, if the record has as many fields as there are keys, all of them text. -/
def readRow (keys : List Text) (record : List Bytes) : Option Game :=
  if record.length = keys.length then (fields record).bind (game? keys) else none

/-- What each row gives, in order.  Records cannot be read at all if the first of them is not text;
where there is no record there are no rows. -/
def ofRecords : List (List Bytes) → Option (List (Option Game))
  | [] => some []
  | header :: rest => (fields header).map fun keys => rest.map (readRow keys)

def rows (bytes : Bytes) : Option (List (Option Game)) :=
  ofRecords (Csv.records bytes)

def games (rows : List (Option Game)) : List Game :=
  rows.filterMap id

/-- The numbers, counted from 1, of the rows that give no game. -/
def skipped (rows : List (Option Game)) : List Nat :=
  (rows.zipIdx 1).filterMap fun (game?, number) => if game?.isNone then some number else none

end Catalog
end GameShelf
