import GameShelf.Operator
import GameShelf.Proofs.Stability
/-!
# Operator — which token of a text is its operator

A token is an operator of a text when the text contains it and none of the tokens looked for before it
(`locate_eq_some_iff`).  A token holds no character of a column's name and no white space, so it stands on one side of
such a character or on the other (`infix_append_cons_iff`).
-/
namespace GameShelf
namespace Text

theorem contains_eq_false_iff {pattern t : Text} : contains pattern t = false ↔ ¬ pattern <:+: t := by
  rw [← contains_iff, Bool.not_eq_true]

theorem cut_eq_none_iff {pattern t : Text} : cut pattern t = none ↔ ¬ pattern <:+: t := by
  rw [← contains_eq_false_iff, contains, Option.isSome_eq_false_iff, Option.isNone_iff_eq_none]

/-- The first occurrence of a pattern is no later than the first of its characters. -/
theorem cut_append {x : Char} {rest : Text} : ∀ {left : Text} (right : Text), x ∉ left →
    cut (x :: rest) (left ++ (x :: rest) ++ right) = some (left, right)
  | [], right, _ => by
    rw [List.nil_append, List.cons_append, cut, if_pos (by simp)]
    simp
  | c :: left, right, h => by
    have hc : x ≠ c := List.ne_of_not_mem_cons h
    have hleft : x ∉ left := List.not_mem_of_not_mem_cons h
    rw [List.cons_append, List.cons_append, cut, if_neg (fun hp => hc (List.cons_prefix_cons.1 hp).1),
      cut_append right hleft]
    rfl

/-- A block without the character `c` stands on one side of it. -/
theorem infix_append_cons_iff {s a b : Text} {c : Char} (hc : c ∉ s) : s <:+: a ++ c :: b ↔ s <:+: a ∨ s <:+: b := by
  constructor
  · intro h
    rcases List.infix_append_iff.1 h with h | h | ⟨l, r, rfl, hl, hr⟩
    · exact .inl h
    · rcases List.infix_cons_iff.1 h with h | h
      · cases s with
        | nil => exact .inl (List.nil_infix)
        | cons x s => exact absurd (List.cons_prefix_cons.1 h).1 (fun hx => hc (hx ▸ List.mem_cons_self))
      · exact .inr h
    · cases r with
      | nil => exact .inl (by simpa using hl.isInfix)
      | cons x r => exact absurd (List.cons_prefix_cons.1 hr).1 (fun hx => hc (by simp [hx]))
  · rintro (h | h)
    · exact List.infix_append_of_infix_left h
    · exact List.infix_append_of_infix_right (List.infix_cons h)

end Text

namespace Operator

/-! ## The table of tokens -/

theorem mem_all (op : Operator) : op ∈ all := by
  cases op <;> decide

theorem mem_entries_iff {token : Text} {op : Operator} : (token, op) ∈ entries ↔ token ∈ op.tokens := by
  simp [entries, mem_all]

theorem mem_tokenTable_iff {token : Text} {op : Operator} : (token, op) ∈ tokenTable ↔ token ∈ op.tokens := by
  rw [tokenTable, (Sorting.sortBy_perm longestFirst entries).mem_iff, mem_entries_iff]

instance : Std.TransCmp longestFirst where
  eq_swap := (Nat.compare_swap _ _).symm
  isLE_trans hab hbc := Nat.isLE_compare.2 (Nat.le_trans (Nat.isLE_compare.1 hbc) (Nat.isLE_compare.1 hab))

/-- **The table holds the tokens of the operators, longest first**, and those of one length in the order of the operators. -/
theorem tokenTable_longest_first :
    tokenTable.Perm entries ∧ tokenTable.Pairwise (fun a b => b.1.length ≤ a.1.length) ∧
      ∀ n, tokenTable.filter (·.1.length = n) = entries.filter (·.1.length = n) := by
  have hsorted : tokenTable.Pairwise fun a b => (longestFirst a b).isLE := Sorting.pairwise_sortBy entries
  refine ⟨Sorting.sortBy_perm longestFirst entries, hsorted.imp Nat.isLE_compare.1, fun n => ?_⟩
  -- tokens of one length are in order already
  rw [tokenTable, Sorting.filter_sortBy]
  refine Sorting.sortBy_of_pairwise (List.pairwise_of_forall_mem_list fun a ha b hb => Nat.isLE_compare.2 ?_)
  have ha : a.1.length = n := by simpa using (List.mem_filter.1 ha).2
  have hb : b.1.length = n := by simpa using (List.mem_filter.1 hb).2
  exact Nat.le_of_eq (hb.trans ha.symm)

example : tokenTable =
    [("==".toList, equal), ("!=".toList, notEqual), ("~=".toList, contains), (">=".toList, atLeast), ("=>".toList, atLeast),
      ("<=".toList, atMost), ("=<".toList, atMost), ("=".toList, equal), (">".toList, above), ("<".toList, below)] := by
  decide

/-! ## The operator of a text -/

/-- The tokens that are looked for before `token`. -/
def earlier (token : Text) : List Text :=
  (tokenTable.map (·.1)).takeWhile (· ≠ token)

theorem nodup_tokens : (tokenTable.map (·.1)).Nodup := by decide

theorem earlier_eq {before after : List (Text × Operator)} {token : Text} {op : Operator}
    (h : tokenTable = before ++ (token, op) :: after) : earlier token = before.map (·.1) := by
  have hnd := nodup_tokens
  rw [h, List.map_append, List.map_cons] at hnd
  have hne : ∀ s ∈ before.map (·.1), decide (s ≠ token) = true := fun s hs =>
    decide_eq_true ((List.nodup_append.1 hnd).2.2 s hs token List.mem_cons_self)
  rw [earlier, h, List.map_append, List.map_cons, List.takeWhile_append_of_pos hne, List.takeWhile_cons_of_neg (by simp),
    List.append_nil]

/-- **The operator of a text is named by the first token of the table that the text contains.** -/
theorem locate_eq_some_iff {t : Text} {found : Occurrence} :
    locate t = some found ↔
      (found.token, found.operator) ∈ tokenTable ∧ (∀ s ∈ earlier found.token, ¬ s <:+: t) ∧
        Text.cut found.token t = some (found.left, found.right) := by
  rw [locate, List.findSome?_eq_some_iff]
  constructor
  · rintro ⟨before, ⟨token, op⟩, after, htable, hfound, hnone⟩
    obtain ⟨⟨left, right⟩, hcut, rfl⟩ := Option.map_eq_some_iff.1 hfound
    refine ⟨by rw [htable]; simp, fun s hs => ?_, hcut⟩
    rw [earlier_eq htable] at hs
    obtain ⟨entry, hentry, rfl⟩ := List.mem_map.1 hs
    exact Text.cut_eq_none_iff.1 (Option.map_eq_none_iff.1 (hnone entry hentry))
  · rintro ⟨hmem, hearlier, hcut⟩
    obtain ⟨before, after, htable⟩ := List.append_of_mem hmem
    refine ⟨before, (found.token, found.operator), after, htable, by simp [hcut], fun entry hentry => ?_⟩
    rw [Option.map_eq_none_iff, Text.cut_eq_none_iff]
    refine hearlier entry.1 ?_
    rw [earlier_eq htable]
    exact List.mem_map_of_mem hentry

theorem locate_eq_none_iff {t : Text} : locate t = none ↔ ∀ entry ∈ tokenTable, ¬ entry.1 <:+: t := by
  simp only [locate, List.findSome?_eq_none_iff, Option.map_eq_none_iff, Text.cut_eq_none_iff]

end Operator
end GameShelf
