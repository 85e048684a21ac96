import GameShelf.Text.Digits
/-!
# Integer — whole numbers of 64 bits

A literal is read as an integer without bounds first; it counts only if it then fits.
-/
namespace GameShelf
namespace Integer

/-- The 64-bit integer of this value, if there is one. -/
def ofInt? (i : Int) : Option Int64 :=
  if h : Int64.minValue.toInt ≤ i ∧ i ≤ Int64.maxValue.toInt then some (Int64.ofIntLE i h.1 h.2)
  else none

/-- An optional sign in front of what `digits` reads. -/
def readSigned (digits : Text → Option Nat) : Text → Option Int
  | '+' :: t => (digits t).map fun n => (n : Int)
  | '-' :: t => (digits t).map fun n => -(n : Int)
  | t => (digits t).map fun n => (n : Int)

def read (t : Text) : Option Int64 :=
  (readSigned Text.readDecimal t).bind ofInt?

/-- A literal that is decimal, or hexadecimal after the mark `0x`; the sign follows the mark. -/
def readMarked : Text → Option Int64
  | '0' :: 'x' :: t => (readSigned Text.readHex t).bind ofInt?
  | t => read t

def order (a b : Int64) : Ordering :=
  compare a.toInt b.toInt

end Integer
end GameShelf
