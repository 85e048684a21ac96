import GameShelf.Clause.Expression
import GameShelf.Proofs.Operator
import GameShelf.Proofs.Text.Trim
/-!
# Printing — clauses that can be read back from their printed form

Printing may put another token in the place of the one that was read, with spaces around it.  A clause survives that
when no token up to the printed one stands in its literal (`read?_print`), and every clause that was read is such a
clause, whatever token it was read with (`carries_of_read?`).  So it survives in no other case (`read?_print_iff`).
-/
namespace GameShelf

namespace Operator

/-- The tokens that must not stand in a literal if the printed operator is to be found: the printed token and those
looked for before it. -/
def rivals (op : Operator) : List Text :=
  earlier op.token ++ [op.token]

/-- A literal that can be read back after the printed operator. -/
structure Carries (op : Operator) (literal : Text) : Prop where
  nonempty : literal ≠ []
  trimmed : Text.Trimmed literal
  free : ∀ s ∈ op.rivals, ¬ s <:+: literal

/-- What `==` can carry: of the tokens only its own stands in its way. -/
theorem carries_equal {literal : Text} (hne : literal ≠ []) (htrim : Text.Trimmed literal)
    (hfree : ¬ "==".toList <:+: literal) : equal.Carries literal where
  nonempty := hne
  trimmed := htrim
  free s hs := by
    have hrivals : equal.rivals = ["==".toList] := by decide
    rw [hrivals, List.mem_singleton] at hs
    rwa [hs]

/-- The characters that tokens are made of. -/
def tokenChars : Text := "=!~<>".toList

theorem chars_of_mem_table : ∀ entry ∈ tokenTable, entry.1 ≠ [] ∧ ∀ c ∈ entry.1, c ∈ tokenChars := by
  have h : tokenTable.all (fun entry => !entry.1.isEmpty && entry.1.all (· ∈ tokenChars)) = true := by decide
  simpa using h

theorem exists_token_eq_cons (op : Operator) : ∃ x rest, op.token = x :: rest ∧ x ∈ tokenChars := by
  cases op <;> exact ⟨_, _, rfl, by decide⟩

theorem token_mem_table (op : Operator) : (op.token, op) ∈ tokenTable := by
  cases op <;> decide

theorem mem_table_of_mem_earlier {s token : Text} (h : s ∈ earlier token) : ∃ op, (s, op) ∈ tokenTable := by
  obtain ⟨entry, hentry, rfl⟩ := List.mem_map.1 ((List.takeWhile_sublist _).subset h)
  exact ⟨entry.2, hentry⟩

theorem contains_token_earlier (op : Operator) : ∀ s ∈ earlier op.token, Text.contains s op.token = false := by
  cases op <;> decide

theorem rivals_subset : ∀ entry ∈ tokenTable, ∀ s ∈ entry.2.rivals, s ∈ earlier entry.1 ∨ s = entry.1 := by decide

end Operator

namespace Column

theorem canonical_mem_aliases (c : Column) : c.canonical ∈ c.aliases :=
  List.mem_cons_self

/-- What the names of a column have in common: each means the column, and holds neither a character of a token nor a comma
nor white space at its ends. -/
theorem alias_spec (c : Column) : ∀ name ∈ c.aliases,
    name ≠ [] ∧ Text.trim name = name ∧ resolve name = some c ∧ ∀ x ∈ ',' :: Operator.tokenChars, x ∉ name := by
  have h : c.aliases.all (fun name => !name.isEmpty && Text.trim name = name && resolve name = some c &&
      (',' :: Operator.tokenChars).all (· ∉ name)) = true := by
    cases c <;> decide
  simpa [and_assoc] using h

end Column

namespace Clause

/-- **What it takes to read a clause**: an operator token that does not occur again, something on its two sides, and a
column on the left. -/
theorem read?_eq_some_iff {raw : Text} {c : Clause} :
    read? raw = some c ↔ ∃ found, Operator.locate (Text.trim raw) = some found ∧
      ¬ found.token <:+: found.right ∧ Text.trim found.left ≠ [] ∧ Text.trim found.right ≠ [] ∧
      Column.resolve (Text.trim found.left) = some c.column ∧
      found.operator = c.operator ∧ Text.trim found.right = c.literal := by
  simp only [read?, parse]
  cases Operator.locate (Text.trim raw) with
  | none => simp
  | some found =>
    cases hrepeat : Text.contains found.token found.right with
    | true => simp [hrepeat, ← Text.contains_iff]
    | false =>
      have hfree := Text.contains_eq_false_iff.1 hrepeat
      cases hleft : Text.trim found.left with
      | nil => simp [hrepeat, hleft]
      | cons x left =>
        cases hright : Text.trim found.right with
        | nil => simp [hrepeat, hleft, hright]
        | cons y right =>
          cases hcolumn : Column.resolve (x :: left) with
          | none => simp [hrepeat, hleft, hright, hcolumn]
          | some column => cases c; simp [hrepeat, hleft, hright, hcolumn, hfree]

/-- **What was read can be printed**: no token that would be found before the printed one, or again, is in the
literal. -/
theorem carries_of_read? {raw : Text} {c : Clause} (h : read? raw = some c) : c.operator.Carries c.literal := by
  obtain ⟨found, hfound, honce, -, hright, -, hop, hliteral⟩ := read?_eq_some_iff.1 h
  obtain ⟨hmem, hearlier, hcut⟩ := Operator.locate_eq_some_iff.1 hfound
  rw [← hliteral, ← hop]
  refine ⟨hright, Text.trimmed_trim _, fun s hs hin => ?_⟩
  have hin : s <:+: found.right := hin.trans (Text.trim_infix _)
  rcases Operator.rivals_subset _ hmem s hs with hs | rfl
  · refine hearlier s hs ?_
    rw [Text.eq_append_of_cut hcut]
    exact List.infix_append_of_infix_right hin
  · exact honce hin

/-- The printed form of a clause, but with this name for its column. -/
def printAs (name : Text) (c : Clause) : Text :=
  name ++ ' ' :: (c.operator.token ++ ' ' :: c.literal)

theorem print_eq_printAs (c : Clause) : c.print = c.printAs c.column.canonical := by
  simp [print, printAs]

section Names

variable {c : Clause} {name : Text} (hname : name ∈ c.column.aliases)
include hname

theorem not_mem_alias {x : Char} (hx : x ∈ Operator.tokenChars) : x ∉ name :=
  (c.column.alias_spec name hname).2.2.2 x (List.mem_cons_of_mem _ hx)

/-- Of the parts of a printed clause, a token can only stand in the operator or in the literal. -/
theorem infix_printAs_iff {entry : Text × Operator} (h : entry ∈ Operator.tokenTable) :
    entry.1 <:+: c.printAs name ↔ entry.1 <:+: c.operator.token ∨ entry.1 <:+: c.literal := by
  obtain ⟨hne, hchars⟩ := Operator.chars_of_mem_table entry h
  have hspace : ' ' ∉ entry.1 := fun hin => absurd (hchars _ hin) (by decide)
  have hcolumn : ¬ entry.1 <:+: name := fun hin => by
    obtain ⟨x, rest, hx⟩ := List.exists_cons_of_ne_nil hne
    have hxin : x ∈ entry.1 := by rw [hx]; exact List.mem_cons_self
    exact not_mem_alias hname (hchars x hxin) (hin.subset hxin)
  rw [printAs, Text.infix_append_cons_iff hspace, Text.infix_append_cons_iff hspace]
  simp [hcolumn]

theorem trim_printAs (h : c.operator.Carries c.literal) : Text.trim (c.printAs name) = c.printAs name := by
  obtain ⟨hne, htrim, -⟩ := c.column.alias_spec name hname
  refine Text.trim_eq_self_iff.2 ?_
  have hprint : c.printAs name = name ++ (' ' :: c.operator.token ++ [' ']) ++ c.literal := by simp [printAs]
  rw [hprint]
  exact Text.Trimmed.append (Text.trim_eq_self_iff.1 htrim) h.trimmed hne h.nonempty _

theorem locate_printAs (h : c.operator.Carries c.literal) :
    Operator.locate (c.printAs name) = some ⟨c.operator, c.operator.token, name ++ [' '], ' ' :: c.literal⟩ := by
  refine Operator.locate_eq_some_iff.2 ⟨c.operator.token_mem_table, fun s hs => ?_, ?_⟩
  · obtain ⟨op, hop⟩ := Operator.mem_table_of_mem_earlier hs
    rw [infix_printAs_iff hname hop, not_or]
    exact ⟨Text.contains_eq_false_iff.1 (c.operator.contains_token_earlier s hs),
      h.free s (List.mem_append_left _ hs)⟩
  · obtain ⟨x, rest, hx, hxc⟩ := c.operator.exists_token_eq_cons
    have hleft : x ∉ name ++ [' '] := by
      simp only [List.mem_append, List.mem_singleton, not_or]
      refine ⟨not_mem_alias hname hxc, ?_⟩
      rintro rfl
      exact absurd hxc (by decide)
    have hprint : c.printAs name = (name ++ [' ']) ++ (x :: rest) ++ ' ' :: c.literal := by
      rw [← hx]; simp [printAs]
    show Text.cut c.operator.token (c.printAs name) = _
    rw [hprint, hx, Text.cut_append _ hleft]

/-- **A clause whose literal the operator carries is read back from its printed form**, by whatever name of its column. -/
theorem read?_printAs (h : c.operator.Carries c.literal) : read? (c.printAs name) = some c := by
  obtain ⟨hne, htrim, hresolve, -⟩ := c.column.alias_spec name hname
  have hcolumn : Text.trim (name ++ [' ']) = name := by
    rw [Text.trim_concat_blank (by decide), htrim]
  have hliteral : Text.trim (' ' :: c.literal) = c.literal := by
    rw [Text.trim_cons_blank (by decide), Text.trim_eq_self_iff.2 h.trimmed]
  refine read?_eq_some_iff.2 ⟨_, (trim_printAs hname h).symm ▸ locate_printAs hname h, ?_, ?_, ?_, ?_, rfl, hliteral⟩
  · intro hin
    obtain ⟨x, rest, hx, hxc⟩ := c.operator.exists_token_eq_cons
    rcases List.infix_cons_iff.1 hin with hin | hin
    · simp only [hx, List.cons_prefix_cons] at hin
      rw [hin.1] at hxc
      exact absurd hxc (by decide)
    · exact h.free _ (List.mem_append_right _ List.mem_cons_self) hin
  · rw [hcolumn]
    exact hne
  · rw [hliteral]
    exact h.nonempty
  · rw [hcolumn]
    exact hresolve

end Names

theorem read?_print {c : Clause} (h : c.operator.Carries c.literal) : read? c.print = some c := by
  rw [print_eq_printAs]
  exact read?_printAs c.column.canonical_mem_aliases h

theorem read?_print_iff {c : Clause} : read? c.print = some c ↔ c.operator.Carries c.literal :=
  ⟨carries_of_read?, read?_print⟩

end Clause
end GameShelf
