/-!
# Binary64 — floating-point numbers by their bits

A number is its 64 bits: a sign, and a magnitude of 63 bits that grows with the absolute value, with
infinity above every finite number and the NaNs above infinity.  Two orders are needed.  In the
order of arithmetic a NaN is beside every number and the two zeros are one; in the order for sorting
every two numbers compare, the zeros are two, and all NaNs are one and come last.
-/
namespace GameShelf

/-- A floating-point number of 64 bits.  Two of them are equal here when their bits are; `same` is
equality as a number. -/
structure Binary64 where
  bits : UInt64
deriving DecidableEq

namespace Binary64

def infinite : Nat := 0x7FF0000000000000

/-- The first number past all magnitudes. -/
def signBit : Nat := 0x8000000000000000

/-- The magnitude of the NaN that a literal writes. -/
def quietNaN : Nat := 0x7FF8000000000000

def ofSignMagnitude (negative : Bool) (magnitude : Nat) : Binary64 :=
  ⟨UInt64.ofNat ((if negative then signBit else 0) + magnitude)⟩

def zero : Binary64 := ⟨0⟩

def isNegative (x : Binary64) : Bool :=
  signBit ≤ x.bits.toNat

def magnitude (x : Binary64) : Nat :=
  x.bits.toNat % signBit

def isNaN (x : Binary64) : Bool :=
  infinite < x.magnitude

/-- Where a number lies among the others, both zeros at one place. -/
def place (x : Binary64) : Int :=
  if x.isNegative then -(x.magnitude : Int) else x.magnitude

/-- The order of arithmetic.  A NaN compares with nothing, itself included. -/
def compare? (x y : Binary64) : Option Ordering :=
  if x.isNaN || y.isNaN then none else some (compare x.place y.place)

/-- Equality as numbers: a NaN is not the same as itself, and the zeros are the same. -/
def same (x y : Binary64) : Bool :=
  x.compare? y == some .eq

/-- Where a number is sorted: negative zero just below zero, every NaN at one place past infinity. -/
def rank (x : Binary64) : Int :=
  if x.isNaN then (infinite : Int) + 1
  else if x.isNegative then -(x.magnitude : Int) - 1 else x.magnitude

def order (x y : Binary64) : Ordering :=
  compare x.rank y.rank

end Binary64
end GameShelf
