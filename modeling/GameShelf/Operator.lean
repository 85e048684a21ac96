import GameShelf.Sorting
import GameShelf.Text.Basic
/-!
# Operator — the comparisons of a clause, and where a clause names one

Some tokens are parts of others: `=` of `==`, `>` of `>=`.  So the tokens are looked for longest
first, each over the whole text, and the first token found anywhere is the operator.
-/
namespace GameShelf

inductive Operator
  | equal
  | notEqual
  | contains
  | atLeast
  | atMost
  | above
  | below
deriving DecidableEq

namespace Operator

def all : List Operator :=
  [equal, notEqual, contains, atLeast, atMost, above, below]

/-- The tokens of an operator, the one that prints it first. -/
def tokens : Operator → List Text
  | equal => ["==".toList, "=".toList]
  | notEqual => ["!=".toList]
  | contains => ["~=".toList]
  | atLeast => [">=".toList, "=>".toList]
  | atMost => ["<=".toList, "=<".toList]
  | above => [">".toList]
  | below => ["<".toList]

/-- The token that prints an operator. -/
def token (op : Operator) : Text :=
  op.tokens.headD []

/-- Every token with its operator, in the order of `all`. -/
def entries : List (Text × Operator) :=
  all.flatMap fun op => op.tokens.map fun token => (token, op)

def longestFirst (a b : Text × Operator) : Ordering :=
  compare b.1.length a.1.length

/-- Every token with its operator, in the order in which they are looked for: longest first, and
within a length in the order of `all`. -/
def tokenTable : List (Text × Operator) :=
  Sorting.sortBy longestFirst entries

/-- Where a text names an operator: the token found, and what stands on its two sides. -/
structure Occurrence where
  operator : Operator
  token : Text
  left : Text
  right : Text

/-- The first token of the table that the text contains, at its first place in the text. -/
def locate (t : Text) : Option Occurrence :=
  tokenTable.findSome? fun (token, op) =>
    (Text.cut token t).map fun (left, right) => ⟨op, token, left, right⟩

/-- Whether an operator can hold between numbers. -/
def isNumeric (op : Operator) : Bool :=
  op ≠ contains

/-- Whether the operator holds when its left side stands in this order to its right side.
`contains` is not about order and never holds. -/
def holds : Operator → Ordering → Bool
  | equal, o => o = .eq
  | notEqual, o => o ≠ .eq
  | contains, _ => false
  | atLeast, o => o ≠ .lt
  | atMost, o => o ≠ .gt
  | above, o => o = .gt
  | below, o => o = .lt

/-- `holds` for sides that may have no order, as a NaN has none: then they are only unequal. -/
def holdsBetween (op : Operator) : Option Ordering → Bool
  | some o => op.holds o
  | none => op = notEqual

end Operator
end GameShelf
