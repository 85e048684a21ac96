import GameShelf.Number.Binary64
import GameShelf.Number.Integer
/-!
# Decimal — decimal literals and the floating-point number nearest to each

A literal is digits with an optional point and an optional exponent of ten.  Its value is an exact
fraction, and the number read is the binary one nearest to it; of two at the same distance, the one
with the even last place.
-/
namespace GameShelf

/-- The value `digits * 10 ^ scale`. -/
structure Decimal where
  digits : Nat
  scale : Int

/-- The quotient rounded to the nearest natural number, a half to the even neighbour. -/
def roundDiv (num den : Nat) : Nat :=
  let quotient := num / den
  let remainder := num % den
  if 2 * remainder < den then quotient
  else if den < 2 * remainder then quotient + 1
  else quotient + quotient % 2

namespace Binary64

/-- The fraction `num / den` in units of `2 ^ exponent`, as a fraction. -/
def inUnits (num den : Nat) (exponent : Int) : Nat × Nat :=
  if 0 ≤ exponent then (num, den * Nat.pow 2 exponent.toNat) else (num * Nat.pow 2 (-exponent).toNat, den)

/-- The exponent of the last place of a number near `num / den`: its digits fill 53 places, unless
the number is so small that the least exponent cuts them. -/
def lastPlace (num den : Nat) : Int :=
  let guess := (Nat.log2 num : Int) - Nat.log2 den - 52
  let (n, d) := inUnits num den guess
  max (-1074) (if n / d < Nat.pow 2 52 then guess - 1 else guess)

/-- The magnitude nearest to the fraction `num / den`.  The exponent field counts from the least last
place, so a significand that rounds up to 54 places carries into it, and past the largest
number comes infinity. -/
def nearestMagnitude (num den : Nat) : Nat :=
  let exponent := lastPlace num den
  let (n, d) := inUnits num den exponent
  min infinite ((exponent + 1074).toNat * Nat.pow 2 52 + roundDiv n d)

end Binary64

namespace Decimal

/-- Digits, an optional point with digits after it, and an optional exponent; some digit stands
before the exponent. -/
def read (t : Text) : Option Decimal :=
  let whole := t.takeWhile Char.isDigit
  let (fraction, rest) := match t.dropWhile Char.isDigit with
    | '.' :: r => (r.takeWhile Char.isDigit, r.dropWhile Char.isDigit)
    | r => ([], r)
  let exponent : Option Int := match rest with
    | [] => some 0
    | c :: r => if c = 'e' ∨ c = 'E' then Integer.readSigned Text.readDecimal r else none
  if whole.isEmpty && fraction.isEmpty then none
  else exponent.map fun e => ⟨Text.digitsValue (whole ++ fraction), e - fraction.length⟩

/-- The magnitude nearest to the value.  A value of more than 310 places is past the largest number,
one below `10 ^ -330` nearer to zero than to any other. -/
def magnitude (d : Decimal) : Nat :=
  let places : Int := (Nat.toDigits 10 d.digits).length + d.scale
  if d.digits = 0 then 0
  else if 310 < places then Binary64.infinite
  else if places < -330 then 0
  else if 0 ≤ d.scale then Binary64.nearestMagnitude (d.digits * Nat.pow 10 d.scale.toNat) 1
  else Binary64.nearestMagnitude d.digits (Nat.pow 10 (-d.scale).toNat)

end Decimal

namespace Binary64

/-- A literal without its sign: a decimal, or the name of infinity or of NaN in any case. -/
def readMagnitude (t : Text) : Option Nat :=
  match Decimal.read t with
  | some d => some d.magnitude
  | none =>
    let word := t.map Char.toLower
    if word = "inf".toList ∨ word = "infinity".toList then some infinite
    else if word = "nan".toList then some quietNaN
    else none

/-- A literal with an optional sign. -/
def read : Text → Option Binary64
  | '+' :: t => (readMagnitude t).map (ofSignMagnitude false)
  | '-' :: t => (readMagnitude t).map (ofSignMagnitude true)
  | t => (readMagnitude t).map (ofSignMagnitude false)

end Binary64
end GameShelf
