import GameShelf.Text.Basic
/-!
# Digits — natural numbers written in digits

The digits are the ASCII ones.  Any number of leading zeros is read; none is written.  Reading gives
back what was written (`readDecimal_ofNat`).
-/
namespace GameShelf
namespace Text

/-- The text is one or more decimal digits. -/
def isDigits (t : Text) : Bool :=
  !t.isEmpty && t.all Char.isDigit

/-- The number that decimal digits write. -/
def digitsValue (t : Text) : Nat :=
  Nat.ofDigitChars 10 t 0

def ofNat (n : Nat) : Text :=
  Nat.toDigits 10 n

def readDecimal (t : Text) : Option Nat :=
  if isDigits t then some (digitsValue t) else none

theorem isDigits_ofNat (n : Nat) : isDigits (ofNat n) = true := by
  simp only [isDigits, ofNat, Bool.and_eq_true, List.all_eq_true]
  exact ⟨by simp [Nat.toDigits_ne_nil],
    fun c hc => Nat.isDigit_of_mem_toDigits (by omega) (by omega) hc⟩

theorem digitsValue_ofNat (n : Nat) : digitsValue (ofNat n) = n :=
  Nat.ofDigitChars_ten_toDigits

theorem readDecimal_ofNat (n : Nat) : readDecimal (ofNat n) = some n := by
  simp [readDecimal, isDigits_ofNat, digitsValue_ofNat]

/-- The value of a hexadecimal digit in either case. -/
def hexDigit (c : Char) : Option Nat :=
  if c.isDigit then some (c.toNat - '0'.toNat)
  else if 'a' ≤ c ∧ c ≤ 'f' then some (c.toNat - 'a'.toNat + 10)
  else if 'A' ≤ c ∧ c ≤ 'F' then some (c.toNat - 'A'.toNat + 10)
  else none

/-- The number that hexadecimal digits write after the number `high`. -/
def readHexAfter (high : Nat) : Text → Option Nat
  | [] => some high
  | c :: t => (hexDigit c).bind fun d => readHexAfter (16 * high + d) t

def readHex (t : Text) : Option Nat :=
  if t.isEmpty then none else readHexAfter 0 t

end Text
end GameShelf
