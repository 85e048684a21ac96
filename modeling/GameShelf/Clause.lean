import GameShelf.Game
import GameShelf.Number.Decimal
import GameShelf.Operator
/-!
# Clause — one condition on one column

The literal of a clause stays text.  It is read as a number only when it meets a number, and a
literal that is none then makes the clause fail, whatever its operator.
-/
namespace GameShelf

structure Clause where
  column : Column
  operator : Operator
  literal : Text
deriving DecidableEq

/-- Whether the operator holds between a column's value and a literal. -/
def Operator.test (op : Operator) (literal : Text) : Value → Bool
  | .text field =>
    if op = .contains then Text.contains (Text.lower literal) (Text.lower field)
    else op.holds (Text.compareFolded field literal)
  | .integer n =>
    match Integer.read literal with
    | some m => op.holds (Integer.order n m)
    | none => false
  | .real x =>
    match Binary64.read literal with
    | some y => op.holdsBetween (x.compare? y)
    | none => false

namespace Clause

def admits (c : Clause) (g : Game) : Bool :=
  c.operator.test c.literal (g.value c.column)

/-- The clause in its printed form: canonical column, printed token, literal. -/
def print (c : Clause) : Text :=
  c.column.canonical ++ ' ' :: c.operator.token ++ ' ' :: c.literal

end Clause
end GameShelf
