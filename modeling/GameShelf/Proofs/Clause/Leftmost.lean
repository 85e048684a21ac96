import GameShelf.Proofs.Clause.Printing
/-!
# Leftmost — a clause read from the left

Tokens are looked for one after the other over the whole text, so the one that is found could stand inside the literal.
In a clause that is read it never does: what stands before it names a column, and a column's name holds no character of a
token; and a longer token at its place would have been found before it.  So an accepted clause is what a reader from the
left makes of it, who takes the longest token at the first character that can begin one (`read?_leftmost`).
-/
namespace GameShelf

namespace Text

theorem mem_trim {c : Char} (hc : CharClass.blank.has c = false) {t : Text} (h : c ∈ t) : c ∈ trim t := by
  have hstart : c ∈ trimStart t := by
    rw [← List.takeWhile_append_dropWhile (p := CharClass.blank.has) (l := t), List.mem_append] at h
    rcases h with h | h
    · rw [List.mem_takeWhile_imp h] at hc
      cases hc
    · exact h
  have hend : c ∈ (trimStart t).reverse := List.mem_reverse.2 hstart
  rw [← List.takeWhile_append_dropWhile (p := CharClass.blank.has) (l := (trimStart t).reverse), List.mem_append] at hend
  rcases hend with hend | hend
  · rw [List.mem_takeWhile_imp hend] at hc
    cases hc
  · exact List.mem_reverse.2 hend

theorem mem_lower {c : Char} (hascii : c.toNat < 0x80) (hlower : c.toLower = c) {t : Text} (h : c ∈ t) :
    c ∈ lower t := by
  have hafter : ∀ (before : Text), c ∈ lowerAfter before t := by
    induction t with
    | nil => cases h
    | cons x t ih =>
      intro before
      rw [lowerAfter]
      rcases List.mem_cons.1 h with rfl | h
      · have hsigma : c ≠ 'Σ' := by
          rintro rfl
          exact absurd hascii (by decide)
        refine List.mem_append_left _ ?_
        rw [if_neg hsigma, lowerChar, if_pos hascii, hlower]
        exact List.mem_cons_self
      · exact List.mem_append_right _ (ih h _)
  exact hafter []

end Text

namespace Operator

/-- A character that stands in no token. -/
def isPlain (c : Char) : Bool :=
  c ∉ tokenChars

end Operator

namespace Column

@[simp] theorem resolve_trim (t : Text) : resolve (Text.trim t) = resolve t := by
  simp only [resolve, Text.trim_trim]

/-- No name of a column, in whatever case, holds a character of a token. -/
theorem isPlain_of_resolve {t : Text} {c : Column} (h : resolve t = some c) : ∀ x ∈ t, Operator.isPlain x = true := by
  have haliases : (Operator.tokenChars.all fun x => c.aliases.all fun name => x ∉ name) = true := by
    cases c <;> decide +kernel
  have hchars : (Operator.tokenChars.all fun x => !CharClass.blank.has x && x.toNat < 0x80 && x.toLower = x) = true := by
    decide
  simp only [List.all_eq_true, Bool.and_eq_true, Bool.not_eq_true', decide_eq_true_eq] at haliases hchars
  intro x hx
  refine decide_eq_true fun hin => ?_
  obtain ⟨⟨hblank, hascii⟩, hlower⟩ := hchars x hin
  have hname : Text.lower (Text.trim t) ∈ c.aliases := by simpa using List.find?_some h
  exact haliases x hin _ hname (Text.mem_lower hascii hlower (Text.mem_trim hblank hx))

end Column

namespace Operator

/-- The operator that a reader from the left finds in a text: the longest token at the first character that can begin
one. -/
structure Leftmost (t : Text) (found : Occurrence) : Prop where
  left_eq : found.left = t.takeWhile isPlain
  rest_eq : found.token ++ found.right = t.dropWhile isPlain
  mem_table : (found.token, found.operator) ∈ tokenTable
  longest : ∀ entry ∈ tokenTable, entry.1 <+: found.token ++ found.right → entry.1.length ≤ found.token.length

theorem operator_unique : ∀ a ∈ tokenTable, ∀ b ∈ tokenTable, a.1 = b.1 → a.2 = b.2 := by decide

/-- Longer tokens are looked for first. -/
theorem mem_earlier_of_longer : ∀ a ∈ tokenTable, ∀ b ∈ tokenTable,
    b.1.length < a.1.length → a.1 ∈ earlier b.1 := by
  decide +kernel

namespace Leftmost

variable {t : Text} {found other : Occurrence}

theorem eq_append (h : Leftmost t found) : t = found.left ++ found.token ++ found.right := by
  rw [List.append_assoc, h.rest_eq, h.left_eq, List.takeWhile_append_dropWhile]

/-- **There is one reading from the left.** -/
theorem unique (h : Leftmost t found) (ho : Leftmost t other) : other = found := by
  have hrest : other.token ++ other.right = found.token ++ found.right := ho.rest_eq.trans h.rest_eq.symm
  have hle : other.token.length ≤ found.token.length :=
    h.longest _ ho.mem_table (hrest ▸ List.prefix_append other.token other.right)
  have hge : found.token.length ≤ other.token.length :=
    ho.longest _ h.mem_table (hrest ▸ List.prefix_append found.token found.right)
  obtain ⟨htoken, hright⟩ := List.append_inj hrest (Nat.le_antisymm hle hge)
  have hop : other.operator = found.operator := operator_unique _ ho.mem_table _ h.mem_table htoken
  have hleft : other.left = found.left := ho.left_eq.trans h.left_eq.symm
  cases other
  cases found
  simp_all

end Leftmost

/-- **What is found behind a text without characters of tokens is leftmost.** -/
theorem leftmost_of_locate {t : Text} {found : Occurrence} (h : locate t = some found)
    (hleft : ∀ x ∈ found.left, isPlain x = true) : Leftmost t found := by
  obtain ⟨hmem, hearlier, hcut⟩ := locate_eq_some_iff.1 h
  have ht : t = found.left ++ (found.token ++ found.right) := by
    rw [← List.append_assoc]
    exact Text.eq_append_of_cut hcut
  obtain ⟨hne, hchars⟩ := chars_of_mem_table _ hmem
  obtain ⟨x, token, htoken⟩ : ∃ x token, found.token = x :: token := List.exists_cons_of_ne_nil hne
  have hx : ¬ isPlain x = true := by
    have hin : x ∈ tokenChars := hchars x (by simp [htoken])
    simpa [isPlain] using hin
  refine ⟨?_, ?_, hmem, fun entry hentry hprefix => ?_⟩
  · rw [ht, htoken, List.cons_append, List.takeWhile_append_of_pos hleft, List.takeWhile_cons_of_neg hx, List.append_nil]
  · rw [ht, htoken, List.cons_append, List.dropWhile_append_of_pos hleft, List.dropWhile_cons_of_neg hx]
  · -- a longer token would have been looked for earlier, and found anywhere in the text
    by_contra hlonger
    refine hearlier entry.1 (mem_earlier_of_longer entry hentry _ hmem (Nat.lt_of_not_le hlonger)) ?_
    rw [ht]
    exact List.infix_append_of_infix_right hprefix.isInfix

end Operator

namespace Clause

/-- **A clause that is read is read from the left.**  The text falls into what stands before the first character of a
token, which names the column, the longest token there, which is one of the operator, and the rest, which is the literal.
No other reading from the left is there: what a literal holds can only keep the clause from being read. -/
theorem read?_leftmost {raw : Text} {c : Clause} (h : read? raw = some c) :
    ∃ found, Operator.Leftmost (Text.trim raw) found ∧
      (∀ other, Operator.Leftmost (Text.trim raw) other → other = found) ∧
      Text.trim raw = found.left ++ found.token ++ found.right ∧ found.token ∈ c.operator.tokens ∧
      Column.resolve found.left = some c.column ∧ Text.trim found.right ≠ [] ∧ c.literal = Text.trim found.right := by
  obtain ⟨found, hfound, -, -, hright, hcolumn, hop, hliteral⟩ := read?_eq_some_iff.1 h
  rw [Column.resolve_trim] at hcolumn
  have hleftmost : Operator.Leftmost (Text.trim raw) found :=
    Operator.leftmost_of_locate hfound (Column.isPlain_of_resolve hcolumn)
  refine ⟨found, hleftmost, fun other => hleftmost.unique, hleftmost.eq_append, ?_, hcolumn, hright, hliteral.symm⟩
  rw [← hop]
  exact Operator.mem_tokenTable_iff.1 hleftmost.mem_table

/-- Two tokens overlap where the first of them stands, and the literal begins with a third. -/
theorem read?_leftmost_overlap :
    read? " Year ==>< 5".toList = some ⟨.year, .equal, ">< 5".toList⟩ ∧
    ∃ found, Operator.Leftmost "Year ==>< 5".toList found ∧
      (∀ other, Operator.Leftmost "Year ==>< 5".toList other → other = found) ∧
      "Year ==>< 5".toList = found.left ++ found.token ++ found.right ∧ found.token ∈ Operator.equal.tokens ∧
      Column.resolve found.left = some .year ∧ Text.trim found.right ≠ [] ∧ ">< 5".toList = Text.trim found.right :=
  have hread : read? " Year ==>< 5".toList = some ⟨.year, .equal, ">< 5".toList⟩ := by decide
  ⟨hread, read?_leftmost hread⟩

end Clause
end GameShelf
