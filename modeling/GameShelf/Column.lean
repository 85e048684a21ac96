import GameShelf.Text.Blank
import GameShelf.Text.LowerCase
/-!
# Column — the columns of a game that expressions and sort keys can name

Each column has one canonical name, which is also its key in a catalog file, and may have others.  A
name is recognised in any case, with white space around it.
-/
namespace GameShelf

/-- What a column holds, which decides how its values compare. -/
inductive Kind
  | text
  | integer
  | real
deriving DecidableEq

inductive Column
  | name
  | id
  | minPlayers
  | maxPlayers
  | minTime
  | maxTime
  | difficulty
  | rank
  | rating
  | year
deriving DecidableEq

namespace Column

/-- Every column, in the order of a catalog file. -/
def all : List Column :=
  [name, id, minPlayers, maxPlayers, minTime, maxTime, difficulty, rank, rating, year]

def kind : Column → Kind
  | name => .text
  | difficulty | rating => .real
  | id | minPlayers | maxPlayers | minTime | maxTime | rank | year => .integer

/-- The name that catalog files and printed clauses use. -/
def canonical : Column → Text
  | name => "objectname".toList
  | id => "id".toList
  | minPlayers => "minplayers".toList
  | maxPlayers => "maxplayers".toList
  | minTime => "minplaytime".toList
  | maxTime => "maxplaytime".toList
  | difficulty => "avgweight".toList
  | rank => "rank".toList
  | rating => "average".toList
  | year => "yearpublished".toList

def synonyms : Column → List Text
  | name => ["name".toList]
  | id => []
  | minPlayers => ["min_players".toList]
  | maxPlayers => ["max_players".toList]
  | minTime => ["mintime".toList, "min_time".toList]
  | maxTime => ["maxtime".toList, "max_time".toList]
  | difficulty => ["difficulty".toList, "weight".toList]
  | rank => []
  | rating => ["rating".toList]
  | year => ["year".toList]

/-- Every name of a column, the canonical one first. -/
def aliases (c : Column) : List Text :=
  c.canonical :: c.synonyms

/-- The name of a column in diagnostics. -/
def label : Column → String
  | name => "Name"
  | id => "Id"
  | minPlayers => "MinPlayers"
  | maxPlayers => "MaxPlayers"
  | minTime => "MinTime"
  | maxTime => "MaxTime"
  | difficulty => "Difficulty"
  | rank => "Rank"
  | rating => "Rating"
  | year => "Year"

/-- The column that a text names, in any case and with white space around it. -/
def resolve (t : Text) : Option Column :=
  all.find? fun c => c.aliases.contains (Text.lower (Text.trim t))

structure Unknown where
  text : Text
deriving DecidableEq

def Unknown.message (e : Unknown) : String :=
  let text := String.ofList e.text
  s!"unknown column: {text}"

/-- `resolve`, with the text as the reason for failing. -/
def read (t : Text) : Except Unknown Column :=
  match resolve t with
  | some c => .ok c
  | none => .error ⟨t⟩

end Column
end GameShelf
