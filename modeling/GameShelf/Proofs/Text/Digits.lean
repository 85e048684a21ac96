import GameShelf.Text.Blank
import GameShelf.Text.Digits
import Mathlib.Data.List.Induction
/-!
# Digits — the numbers that digits write

A digit is no white space and has one case.  Digits write one number, and it has a decimal form to which they add nothing
but zeros in front (`writes_iff`).
-/
namespace GameShelf
namespace Text

variable {c : Char} {t : Text} {n : Nat}

theorem code_of_isDigit (h : c.isDigit = true) : 48 ≤ c.toNat ∧ c.toNat ≤ 57 := by
  simpa [Char.isDigit, UInt32.le_iff_toNat_le] using h

theorem not_blank_of_isDigit (h : c.isDigit = true) : CharClass.blank.has c = false := by
  obtain ⟨hlow, hhigh⟩ := code_of_isDigit h
  simp only [CharClass.has, CharClass.blank, List.any_cons, List.any_nil, Bool.or_false, Bool.or_eq_false_iff,
    Bool.and_eq_false_imp, decide_eq_true_eq, decide_eq_false_iff_not]
  omega

theorem toLower_of_isDigit (h : c.isDigit = true) : c.toLower = c := by
  have hcode := (code_of_isDigit h).2
  refine dif_neg fun hupper => ?_
  have hlow : 65 ≤ c.toNat := UInt32.le_iff_toNat_le.1 hupper.1
  omega

theorem isDigits_iff : isDigits t = true ↔ t ≠ [] ∧ ∀ c ∈ t, c.isDigit = true := by
  simp [isDigits]

theorem dash_not_mem_of_isDigits (h : isDigits t = true) : '-' ∉ t := fun hin =>
  absurd ((isDigits_iff.1 h).2 _ hin) (by decide)

/-- The text is the decimal form of the number, with any zeros in front of it. -/
def Writes (t : Text) (n : Nat) : Prop :=
  ∃ zeros, t = List.replicate zeros '0' ++ ofNat n

theorem ofNat_of_isDigit (h : c.isDigit = true) : ofNat (c.toNat - '0'.toNat) = [c] := by
  obtain ⟨hlow, hhigh⟩ := code_of_isDigit h
  have htable : ∀ n < 58, 48 ≤ n → (n - '0'.toNat).digitChar = Char.ofNat n := by decide
  have hsmall : c.toNat - '0'.toNat < 10 := Nat.sub_lt_left_of_lt_add hlow (Nat.lt_succ_of_le hhigh)
  rw [ofNat, Nat.toDigits_of_lt_base hsmall, htable c.toNat (by omega) hlow, Char.ofNat_toNat]

theorem digitsValue_concat (t : Text) (c : Char) : digitsValue (t ++ [c]) = 10 * digitsValue t + (c.toNat - '0'.toNat) := by
  rw [digitsValue, digitsValue, Nat.ofDigitChars_append, Nat.ofDigitChars_cons, Nat.ofDigitChars_nil]

theorem writes_digitsValue (h : isDigits t = true) : Writes t (digitsValue t) := by
  induction t using List.reverseRecOn with
  | nil => cases h
  | append_singleton init c ih =>
    have hdigits : ∀ d ∈ init ++ [c], d.isDigit = true := (isDigits_iff.1 h).2
    have hdigit : c.isDigit = true := hdigits c List.mem_concat_self
    have hc : ofNat (c.toNat - '0'.toNat) = [c] := ofNat_of_isDigit hdigit
    rw [digitsValue_concat]
    by_cases hinit : init = []
    · subst hinit
      exact ⟨0, by rw [digitsValue, Nat.ofDigitChars_nil, Nat.mul_zero, Nat.zero_add, hc]; rfl⟩
    · obtain ⟨zeros, hzeros⟩ := ih (isDigits_iff.2 ⟨hinit, fun d hd => hdigits d (List.mem_append_left _ hd)⟩)
      rcases Nat.eq_zero_or_pos (digitsValue init) with hzero | hpos
      · -- so far there are only zeros, and all of them stand in front
        refine ⟨zeros + 1, ?_⟩
        rw [hzero] at hzeros ⊢
        rw [hzeros, Nat.mul_zero, Nat.zero_add, hc, List.replicate_succ']
        rfl
      · have hsmall : c.toNat - '0'.toNat < 10 :=
          Nat.sub_lt_left_of_lt_add (code_of_isDigit hdigit).1 (Nat.lt_succ_of_le (code_of_isDigit hdigit).2)
        have happend := Nat.toDigits_append_toDigits (b := 10) (by decide) hpos hsmall
        rw [← ofNat, ← ofNat, ← ofNat, hc] at happend
        exact ⟨zeros, by rw [← happend, ← List.append_assoc, ← hzeros]⟩

/-- **Digits write one number.** -/
theorem writes_iff : Writes t n ↔ isDigits t = true ∧ digitsValue t = n := by
  refine ⟨fun ⟨zeros, ht⟩ => ?_, fun ⟨h, hn⟩ => hn ▸ writes_digitsValue h⟩
  have hdigits : isDigits (ofNat n) = true := isDigits_ofNat n
  subst ht
  constructor
  · refine isDigits_iff.2 ⟨by simp [(isDigits_iff.1 hdigits).1], fun c hc => ?_⟩
    rcases List.mem_append.1 hc with hzero | hin
    · rw [List.eq_of_mem_replicate hzero]
      rfl
    · exact (isDigits_iff.1 hdigits).2 c hin
  · rw [digitsValue, Nat.ofDigitChars_append, Nat.ofDigitChars_replicate_zero, Nat.mul_zero]
    exact digitsValue_ofNat n

end Text
end GameShelf
