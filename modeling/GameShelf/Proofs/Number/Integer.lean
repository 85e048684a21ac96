import GameShelf.Number.Integer
import GameShelf.Proofs.Text.Digits
import GameShelf.Proofs.Text.Trim
import Mathlib.Algebra.Group.Int.Defs
/-!
# Integer — literals and the integers that they denote

A literal denotes an integer when it is digits, with or without a sign in front; then it denotes one only
(`Denotes.unique`).  It is read if that integer has 64 bits, and what is read is that integer (`read_eq_some_iff`).
Zeros in front are no digits too many.
-/
namespace GameShelf
namespace Integer

open Text (Writes readDecimal)

variable {t : Text} {i j : Int} {m : Int64} {n : Nat}

/-- The text is digits that write the integer, or its absolute value behind a sign. -/
inductive Denotes : Text → Int → Prop
  | plain {t : Text} {n : Nat} (h : Writes t n) : Denotes t n
  | plus {t : Text} {n : Nat} (h : Writes t n) : Denotes ('+' :: t) n
  | minus {t : Text} {n : Nat} (h : Writes t n) : Denotes ('-' :: t) (-n)

theorem readDecimal_eq_some_iff : readDecimal t = some n ↔ Writes t n := by
  rw [Text.writes_iff, readDecimal, Option.ite_none_right_eq_some, Option.some.injEq]

theorem not_writes_cons {c : Char} (hc : c.isDigit = false) : ¬ Writes (c :: t) n := fun h => by
  have hdigit : c.isDigit = true := (Text.isDigits_iff.1 (Text.writes_iff.1 h).1).2 c List.mem_cons_self
  rw [hc] at hdigit
  cases hdigit

theorem readSigned_plus (t : Text) :
    readSigned readDecimal ('+' :: t) = (readDecimal t).map fun n : Nat => (n : Int) := by
  cases h : readDecimal t <;> simp [readSigned, h]

theorem readSigned_minus (t : Text) :
    readSigned readDecimal ('-' :: t) = (readDecimal t).map fun n : Nat => -(n : Int) := by
  cases h : readDecimal t <;> simp [readSigned, h]

theorem readSigned_unsigned (hplus : ∀ u, t ≠ '+' :: u) (hminus : ∀ u, t ≠ '-' :: u) :
    readSigned readDecimal t = (readDecimal t).map fun n : Nat => (n : Int) := by
  unfold readSigned
  split
  · exact absurd rfl (hplus _)
  · exact absurd rfl (hminus _)
  · cases readDecimal t <;> rfl

/-- **A signed number is read from what denotes it**, and from nothing else. -/
theorem readSigned_eq_some_iff : readSigned readDecimal t = some i ↔ Denotes t i := by
  constructor
  · intro h
    by_cases hplus : ∃ u, t = '+' :: u
    · obtain ⟨u, rfl⟩ := hplus
      obtain ⟨n, hn, rfl⟩ := Option.map_eq_some_iff.1 ((readSigned_plus u).symm.trans h)
      exact .plus (readDecimal_eq_some_iff.1 hn)
    · by_cases hminus : ∃ u, t = '-' :: u
      · obtain ⟨u, rfl⟩ := hminus
        obtain ⟨n, hn, rfl⟩ := Option.map_eq_some_iff.1 ((readSigned_minus u).symm.trans h)
        exact .minus (readDecimal_eq_some_iff.1 hn)
      · rw [readSigned_unsigned (not_exists.1 hplus) (not_exists.1 hminus)] at h
        obtain ⟨n, hn, rfl⟩ := Option.map_eq_some_iff.1 h
        exact .plain (readDecimal_eq_some_iff.1 hn)
  · intro h
    cases h with
    | plus h => rw [readSigned_plus, readDecimal_eq_some_iff.2 h, Option.map_some]
    | minus h => rw [readSigned_minus, readDecimal_eq_some_iff.2 h, Option.map_some]
    | plain h =>
      have hplus : ∀ u, t ≠ '+' :: u := fun u ht => not_writes_cons (by decide) (ht ▸ h)
      have hminus : ∀ u, t ≠ '-' :: u := fun u ht => not_writes_cons (by decide) (ht ▸ h)
      rw [readSigned_unsigned hplus hminus, readDecimal_eq_some_iff.2 h, Option.map_some]

theorem Denotes.unique (hi : Denotes t i) (hj : Denotes t j) : i = j :=
  Option.some.inj ((readSigned_eq_some_iff.2 hi).symm.trans (readSigned_eq_some_iff.2 hj))

/-- The integers of 64 bits. -/
def InRange (i : Int) : Prop :=
  -2 ^ 63 ≤ i ∧ i ≤ 2 ^ 63 - 1

theorem inRange_toInt (m : Int64) : InRange m.toInt :=
  ⟨m.le_toInt, Int.le_sub_one_of_lt m.toInt_lt⟩

theorem ofInt?_eq_some_iff : ofInt? i = some m ↔ m.toInt = i := by
  unfold ofInt?
  split
  · next h =>
    rw [Option.some.injEq, eq_comm, ← Int64.toInt_inj, Int64.toInt_ofIntLE]
  · next h =>
    constructor
    · intro hnone; cases hnone
    · rintro rfl
      exact absurd ⟨m.minValue_le_toInt, m.toInt_le⟩ h

theorem exists_toInt (h : InRange i) : ∃ m : Int64, m.toInt = i :=
  ⟨Int64.ofIntLE i h.1 h.2, Int64.toInt_ofIntLE⟩

/-- **A literal is read as the integer that it denotes.** -/
theorem read_eq_some_iff : read t = some m ↔ Denotes t m.toInt := by
  rw [read, Option.bind_eq_some_iff]
  constructor
  · rintro ⟨i, hi, hm⟩
    rw [ofInt?_eq_some_iff.1 hm]
    exact readSigned_eq_some_iff.1 hi
  · intro h
    exact ⟨m.toInt, readSigned_eq_some_iff.2 h, ofInt?_eq_some_iff.2 rfl⟩

/-- The decimal form of an integer. -/
def decimal (i : Int) : Text :=
  if i < 0 then '-' :: Text.ofNat i.natAbs else Text.ofNat i.natAbs

theorem denotes_decimal (i : Int) : Denotes (decimal i) i := by
  have hwrites : Writes (Text.ofNat i.natAbs) i.natAbs := ⟨0, rfl⟩
  unfold decimal
  split
  · next hneg =>
    have h := Denotes.minus hwrites
    rwa [Int.ofNat_natAbs_of_nonpos (Int.le_of_lt hneg), Int.neg_neg] at h
  · next hnonneg =>
    have h := Denotes.plain hwrites
    rwa [Int.natAbs_of_nonneg (Int.not_lt.1 hnonneg)] at h

theorem decimal_ne_nil (i : Int) : decimal i ≠ [] := by
  unfold decimal
  split
  · exact List.cons_ne_nil _ _
  · exact (Text.isDigits_iff.1 (Text.isDigits_ofNat _)).1

theorem eq_dash_or_isDigit_of_mem_decimal {c : Char} (h : c ∈ decimal i) : c = '-' ∨ c.isDigit = true := by
  have hdigits : ∀ c ∈ Text.ofNat i.natAbs, c.isDigit = true := (Text.isDigits_iff.1 (Text.isDigits_ofNat _)).2
  unfold decimal at h
  split at h
  · exact (List.mem_cons.1 h).imp_right (hdigits c)
  · exact .inr (hdigits c h)

theorem not_mem_decimal {c : Char} (hdash : c ≠ '-') (hdigit : c.isDigit = false) : c ∉ decimal i := fun hin => by
  rcases eq_dash_or_isDigit_of_mem_decimal hin with rfl | hdigit'
  · exact hdash rfl
  · rw [hdigit] at hdigit'
    cases hdigit'

theorem trimmed_decimal (i : Int) : Text.Trimmed (decimal i) := by
  have hblank : ∀ c ∈ decimal i, CharClass.blank.has c = false := fun c hc => by
    rcases eq_dash_or_isDigit_of_mem_decimal hc with rfl | hdigit
    · decide
    · exact Text.not_blank_of_isDigit hdigit
  exact ⟨fun c hc => hblank c (List.mem_of_head? hc), fun c hc => hblank c (List.mem_of_getLast? hc)⟩

end Integer
end GameShelf
