import GameShelf.Number.Binary64
import GameShelf.Number.Integer
import GameShelf.Text.LowerCase
/-!
# Value — what a column of a game holds
-/
namespace GameShelf

inductive Value
  | text (t : Text)
  | integer (n : Int64)
  | real (x : Binary64)
deriving DecidableEq

namespace Value

def isText : Value → Bool
  | text _ => true
  | _ => false

def asText : Value → Option Text
  | text t => some t
  | _ => none

def asInteger : Value → Option Int64
  | integer n => some n
  | _ => none

def asReal : Value → Option Binary64
  | real x => some x
  | _ => none

/-- Order for sorting within a kind: texts without regard to case, numbers by size, a NaN last.
Values of two kinds have none. -/
def compare? : Value → Value → Option Ordering
  | text a, text b => some (Text.compareFolded a b)
  | integer a, integer b => some (Integer.order a b)
  | real a, real b => some (Binary64.order a b)
  | _, _ => none

/-- Order for sorting, in which values of two kinds tie. -/
def order (a b : Value) : Ordering :=
  (compare? a b).getD .eq

end Value
end GameShelf
