import GameShelf.Proofs.Clause.Printing
/-!
# Expression — expressions put together and taken apart at commas

Joining expressions by commas joins their clauses (`clauses_joinCommas`), whatever is dropped on the way.  A printed
clause holds no comma, so the clauses of an expression are those of their printed forms joined by commas.
-/
namespace GameShelf

theorem Text.not_mem_of_mem_splitOn {x : Char} {t piece : Text} (h : piece ∈ t.splitOn x) : x ∉ piece := by
  induction t generalizing piece with
  | nil => simp_all
  | cons c t ih =>
    by_cases hc : c = x
    · subst hc
      rw [← List.nil_append (c :: t), List.splitOn_append_cons_self, List.splitOn_nil] at h
      rcases List.mem_append.1 h with h | h
      · simp_all
      · exact ih h
    · rw [List.splitOn_cons_eq_if_modifyHead, if_neg (by simpa using hc)] at h
      cases hs : t.splitOn x with
      | nil => exact absurd hs (List.splitOn_ne_nil x t)
      | cons first rest =>
        simp only [hs, List.modifyHead_cons, List.mem_cons] at h ih
        rcases h with rfl | h
        · simp [Ne.symm hc, ih (.inl rfl)]
        · exact ih (.inr h)

namespace Expression

theorem clauses_eq_filterMap (e : Text) : clauses e = (pieces e).filterMap Clause.read? := by
  rw [clauses, parse, List.filterMap_map]
  rfl

theorem reports_eq_flatMap (e : Text) : reports e = (pieces e).flatMap fun piece => (Clause.parse piece).2 := by
  rw [reports, parse, List.flatMap_map]

theorem pieces_append_comma (a b : Text) : pieces (a ++ ',' :: b) = pieces a ++ pieces b := by
  simp only [pieces, List.splitOn_append_cons_self, List.map_append, List.filter_append]

theorem pieces_joinCommas : ∀ ts : List Text, pieces (Text.joinCommas ts) = ts.flatMap pieces
  | [] => rfl
  | [t] => by simp [Text.joinCommas]
  | t :: u :: ts => by
    rw [Text.joinCommas, List.intercalate_cons_cons, List.append_assoc, List.singleton_append, ← Text.joinCommas,
      pieces_append_comma, pieces_joinCommas (u :: ts)]
    rfl

/-- **The clauses of joined expressions are the clauses of the expressions, joined.** -/
theorem clauses_joinCommas (ts : List Text) : clauses (Text.joinCommas ts) = ts.flatMap clauses := by
  rw [clauses_eq_filterMap, pieces_joinCommas, List.filterMap_flatMap]
  exact List.flatMap_congr fun e _ => (clauses_eq_filterMap e).symm

theorem admits_joinCommas (ts : List Text) (g : Game) : admits (Text.joinCommas ts) g = ts.all (admits · g) := by
  rw [admits, clauses_joinCommas, List.all_flatMap]
  rfl

/-- The clauses of several expressions depend on the pieces between their commas only, and follow their order. -/
theorem clauses_perm {ts us : List Text} (h : (ts.flatMap (·.splitOn ',')).Perm (us.flatMap (·.splitOn ','))) :
    (ts.flatMap clauses).Perm (us.flatMap clauses) := by
  have hpieces : ∀ ts : List Text, ts.flatMap clauses =
      (((ts.flatMap (·.splitOn ',')).map Text.trim).filter (!·.isEmpty)).filterMap Clause.read? := fun ts => by
    rw [List.map_flatMap, List.filter_flatMap, List.filterMap_flatMap]
    exact List.flatMap_congr fun e _ => clauses_eq_filterMap e
  rw [hpieces, hpieces]
  exact ((h.map _).filter _).filterMap _

theorem carries_of_mem_clauses {e : Text} {c : Clause} (h : c ∈ clauses e) :
    c.operator.Carries c.literal ∧ ',' ∉ c.literal := by
  rw [clauses_eq_filterMap] at h
  obtain ⟨piece, hpiece, hread⟩ := List.mem_filterMap.1 h
  refine ⟨Clause.carries_of_read? hread, fun hin => ?_⟩
  obtain ⟨raw, hraw, rfl⟩ := List.mem_map.1 (List.mem_filter.1 hpiece).1
  obtain ⟨found, hfound, -, -, -, -, -, hliteral⟩ := Clause.read?_eq_some_iff.1 hread
  have hright : found.right <:+: Text.trim (Text.trim raw) := by
    rw [Text.eq_append_of_cut (Operator.locate_eq_some_iff.1 hfound).2.2]
    exact List.infix_append_right
  rw [Text.trim_trim] at hright
  rw [← hliteral] at hin
  exact Text.not_mem_of_mem_splitOn hraw
    (((Text.trim_infix _).trans (hright.trans (Text.trim_infix raw))).subset hin)

/-- A printed clause, read as an expression, is that clause alone, by whatever name of its column. -/
theorem clauses_printAs {c : Clause} {name : Text} (hname : name ∈ c.column.aliases) (h : c.operator.Carries c.literal)
    (hcomma : ',' ∉ c.literal) : clauses (c.printAs name) = [c] := by
  have hprint : ',' ∉ c.printAs name := by
    have hcolumn : ',' ∉ name := (c.column.alias_spec name hname).2.2.2 ',' List.mem_cons_self
    have htoken : ',' ∉ c.operator.token := by cases c.operator <;> decide
    simp [Clause.printAs, hcolumn, htoken, hcomma]
  have hne : c.printAs name ≠ [] := by simp [Clause.printAs]
  have hread : Clause.read? (c.printAs name) = some c := Clause.read?_printAs hname h
  simp [clauses_eq_filterMap, pieces, List.splitOn_eq_singleton hprint, Clause.trim_printAs hname h, hne, hread]

theorem clauses_print {c : Clause} (h : c.operator.Carries c.literal) (hcomma : ',' ∉ c.literal) :
    clauses c.print = [c] := by
  rw [Clause.print_eq_printAs]
  exact clauses_printAs c.column.canonical_mem_aliases h hcomma

/-- **What was read is read again from its printed form**, a clause and an expression alike, whatever spelling it was
read from. -/
theorem printed_reads_back :
    (∀ e : Text, clauses (Text.joinCommas ((clauses e).map Clause.print)) = clauses e) ∧
    (∀ (raw : Text) (c : Clause), Clause.read? raw = some c → Clause.read? c.print = some c) := by
  refine ⟨fun e => ?_, fun raw c h => ?_⟩
  · have hone : ∀ c ∈ clauses e, clauses c.print = [c] := fun c hc =>
      clauses_print (carries_of_mem_clauses hc).1 (carries_of_mem_clauses hc).2
    rw [clauses_joinCommas, List.flatMap_map, List.flatMap_congr hone, List.flatMap_singleton']
  · exact Clause.read?_print (Clause.carries_of_read? h)

/-- Read by another token and another name of the column, without spaces, and with a token inside the literal. -/
theorem printed_reads_back_atMost :
    Clause.read? "Min_Players=<>4".toList = some ⟨.minPlayers, .atMost, ">4".toList⟩ ∧
    Clause.read? (Clause.print ⟨.minPlayers, .atMost, ">4".toList⟩) = some ⟨.minPlayers, .atMost, ">4".toList⟩ :=
  ⟨by decide, printed_reads_back.2 "Min_Players=<>4".toList _ (by decide)⟩

/-- An expression is the clause alone that it prints, when a clause can be that at all and the literal has no comma. -/
theorem clauses_print_iff {c : Clause} : clauses c.print = [c] ↔ c.operator.Carries c.literal ∧ ',' ∉ c.literal := by
  constructor
  · intro h
    have hc : c ∈ clauses c.print := by rw [h]; exact List.mem_singleton_self c
    exact carries_of_mem_clauses hc
  · rintro ⟨hcarries, hcomma⟩
    exact clauses_print hcarries hcomma

/-- **Which clauses can be written**: those whose literal is not empty, has no white space at its ends, and holds neither
the operator's printed token nor one that is looked for before it.  Within an expression it must hold no comma either. -/
theorem expressible_iff (c : Clause) :
    (Clause.read? c.print = some c ↔
      c.literal ≠ [] ∧ Text.Trimmed c.literal ∧
        ∀ s ∈ Operator.earlier c.operator.token ++ [c.operator.token], ¬ s <:+: c.literal) ∧
    (clauses c.print = [c] ↔
      (c.literal ≠ [] ∧ Text.Trimmed c.literal ∧
        ∀ s ∈ Operator.earlier c.operator.token ++ [c.operator.token], ¬ s <:+: c.literal) ∧ ',' ∉ c.literal) := by
  have hcarries : c.operator.Carries c.literal ↔ c.literal ≠ [] ∧ Text.Trimmed c.literal ∧
      ∀ s ∈ Operator.earlier c.operator.token ++ [c.operator.token], ¬ s <:+: c.literal :=
    ⟨fun h => ⟨h.nonempty, h.trimmed, h.free⟩, fun ⟨hne, htrim, hfree⟩ => ⟨hne, htrim, hfree⟩⟩
  rw [Clause.read?_print_iff, clauses_print_iff, hcarries]
  exact ⟨Iff.rfl, Iff.rfl⟩

/-- After `>` a literal may begin with a token that is looked for later, and not with one that is looked for before. -/
example : Clause.read? (Clause.print ⟨.year, .above, "<5".toList⟩) = some ⟨.year, .above, "<5".toList⟩ ∧
    Clause.read? (Clause.print ⟨.year, .above, "=5".toList⟩) = none := by decide

end Expression
end GameShelf
