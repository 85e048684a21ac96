import GameShelf.Proofs.Selection.Resolution
/-!
# Printing — the normal form of a token

What is printed of a selection that was read means that selection (`readable_of_read`, `read_print_iff`): a token without
the white space around it, without zeros in front of its numbers, and with no number beyond the largest word.  A failure
carries its token in this form, which picks from any list what the token itself picks (`resolve_failure_token`).
-/
namespace GameShelf
namespace Selection

variable {α β : Type} {nameOf : α → Text} {candidates : List α} {token n : Text} {s : Selection} {failure : Failure}

/-! ## What a token can mean -/

/-- **A token that is none of the other things is a name**, and no other token is: the token without the white space
around it. -/
theorem read_eq_ok_name_iff : read token = .ok (.name n) ↔ n = Text.trim token ∧ IsName n := by
  constructor
  · intro h
    simp only [read] at h
    split at h
    · cases h
    · next hne =>
      split at h
      · cases h
      · next hall =>
        split at h
        · cases h
        · next hdigits =>
          split at h
          · cases h
          · next hrange =>
            cases h
            refine ⟨rfl, by simpa using hne, hall, hdigits, fun a b ht hab => ?_⟩
            rw [splitRange_eq_some_iff.2 ⟨ht, hab⟩] at hrange
            cases hrange
  · rintro ⟨rfl, hname⟩
    exact IsName.read_eq token hname

/-- The selections that a token can mean: all of them, but for a name that is not trimmed or that reads as something
else. -/
inductive Readable : Selection → Prop
  | all : Readable .all
  | index (i : UInt64) : Readable (.index i)
  | range (i j : UInt64) : Readable (.range i j)
  | name {n : Text} (trimmed : Text.Trimmed n) (isName : IsName n) : Readable (.name n)

theorem readable_of_read (h : read token = .ok s) : s.Readable := by
  cases s with
  | all => exact .all
  | index i => exact .index i
  | range i j => exact .range i j
  | name n =>
    obtain ⟨rfl, hname⟩ := read_eq_ok_name_iff.1 h
    exact .name (Text.trimmed_trim token) hname

/-! ## Printed and read again -/

theorem position_ofNat_toNat (i : UInt64) : position (Text.ofNat i.toNat) = i := by
  have hword : i.toNat < UInt64.size := i.toNat_lt
  refine UInt64.toNat_inj.1 ?_
  rw [toNat_position_ofNat]
  omega

/-- **The printed form of a selection that can be meant means it.** -/
theorem Readable.read_print (h : s.Readable) : read s.print = .ok s := by
  cases h with
  | all => rfl
  | index i =>
    rw [print, read_of_isDigits (Text.isDigits_ofNat _), position_ofNat_toNat]
  | range i j =>
    rw [print, read_dash (Text.isDigits_ofNat _) (Text.isDigits_ofNat _), position_ofNat_toNat, position_ofNat_toNat]
  | @name n htrimmed hname =>
    exact read_eq_ok_name_iff.2 ⟨(Text.trim_eq_self_iff.2 htrimmed).symm, hname⟩

theorem read_print_iff : read s.print = .ok s ↔ s.Readable :=
  ⟨readable_of_read, Readable.read_print⟩

/-! ## Failures -/

theorem token_of_pick (h : s.pick nameOf candidates = .error failure) : failure.token = s.print := by
  cases s with
  | all => cases h
  | index i =>
    simp only [pick] at h
    split at h <;> cases h
    rfl
  | range i j =>
    simp only [pick] at h
    split at h <;> cases h
    rfl
  | name wanted =>
    simp only [pick] at h
    split at h <;> cases h
    rfl

theorem read_eq_error_iff : read token = .error failure ↔ Text.trim token = [] ∧ failure = ⟨[], .empty⟩ := by
  constructor
  · intro h
    simp only [read] at h
    split at h
    · next hempty =>
      cases h
      exact ⟨List.isEmpty_iff.1 hempty, rfl⟩
    · repeat' split at h
      all_goals cases h
  · rintro ⟨hempty, rfl⟩
    exact if_pos (List.isEmpty_iff.2 hempty)

/-- **The token that a failure carries is read as the token that failed is.** -/
theorem read_failure_token (h : resolve nameOf candidates token = .error failure) : read failure.token = read token := by
  rcases hread : read token with cause | s
  · rw [resolve, hread] at h
    obtain rfl : cause = failure := Except.error.inj h
    obtain ⟨-, rfl⟩ := read_eq_error_iff.1 hread
    rfl
  · rw [resolve_of_read hread] at h
    rw [token_of_pick h, (readable_of_read hread).read_print]

theorem resolve_failure_token (h : resolve nameOf candidates token = .error failure) (other : β → Text) (items : List β) :
    resolve other items failure.token = resolve other items token := by
  rw [resolve, resolve, read_failure_token h]

/-- **Tokens have a normal form.**  What a token means is meant again by its printed form; so the token that a failure
carries fails against the same candidates with the same failure.  Of all selections, the ones that their printed forms mean
are all but some names: a name must be trimmed and must not read as something else. -/
theorem tokens_normalise :
    (∀ (token : Text) (s : Selection), read token = .ok s → read s.print = .ok s) ∧
    (∀ {α : Type} (nameOf : α → Text) (candidates : List α) (token : Text) (failure : Failure),
      resolve nameOf candidates token = .error failure → resolve nameOf candidates failure.token = .error failure) ∧
    ∀ s : Selection, read s.print = .ok s ↔
      s = .all ∨ (∃ i, s = .index i) ∨ (∃ i j, s = .range i j) ∨
      ∃ n, s = .name n ∧ n ≠ [] ∧ Text.Trimmed n ∧ n.map Char.toLower ≠ "all".toList ∧ ¬ Text.isDigits n = true ∧
        ∀ a b, n = a ++ '-' :: b → ¬ (Text.isDigits a = true ∧ Text.isDigits b = true) := by
  refine ⟨fun token s h => (readable_of_read h).read_print, fun nameOf candidates token failure h => ?_, fun s => ?_⟩
  · rw [resolve_failure_token h, h]
  · rw [read_print_iff]
    constructor
    · rintro (_ | i | ⟨i, j⟩ | ⟨htrimmed, hname⟩)
      · exact .inl rfl
      · exact .inr (.inl ⟨i, rfl⟩)
      · exact .inr (.inr (.inl ⟨i, j, rfl⟩))
      · exact .inr (.inr (.inr ⟨_, rfl, hname.ne_nil, htrimmed, hname.ne_all, hname.not_digits, hname.not_range⟩))
    · rintro (rfl | ⟨i, rfl⟩ | ⟨i, j, rfl⟩ | ⟨n, rfl, hne, htrimmed, hall, hdigits, hrange⟩)
      · exact .all
      · exact .index i
      · exact .range i j
      · exact .name htrimmed ⟨hne, hall, hdigits, hrange⟩

/-- Zeros in front, a number beyond the largest word, and white space, gone from what is printed; and a name that cannot be
meant, as it reads as a range. -/
theorem tokens_normalise_words :
    let items := ["Go".toList, "Chess".toList]
    let beyond : Selection := .range 18446744073709551615 7
    let failure : Failure := ⟨"18446744073709551615-7".toList, .invalidRange 18446744073709551615 7 2⟩
    (read "\u3000018446744073709551616-007".toList = .ok beyond ∧ beyond.print = failure.token ∧
      read beyond.print = .ok beyond) ∧
    (resolve id items "018446744073709551616-007".toList = .error failure ∧
      resolve id items failure.token = .error failure) ∧
    ¬ read (Selection.name "1-2".toList).print = .ok (.name "1-2".toList) := by
  intro items beyond failure
  obtain ⟨hread, hresolve, hreadable⟩ := tokens_normalise
  have hbeyond : read "\u3000018446744073709551616-007".toList = .ok beyond := by decide +kernel
  have hfails : resolve id items "018446744073709551616-007".toList = .error failure := by decide +kernel
  refine ⟨⟨hbeyond, by decide +kernel, hread _ _ hbeyond⟩, ⟨hfails, hresolve _ _ _ _ hfails⟩, fun hname => ?_⟩
  rcases (hreadable _).1 hname with h | ⟨i, h⟩ | ⟨i, j, h⟩ | ⟨n, h, -, -, -, -, hrange⟩
  · cases h
  · cases h
  · cases h
  · obtain rfl := Selection.name.inj h
    exact hrange "1".toList "2".toList rfl ⟨by decide, by decide⟩

end Selection
end GameShelf
