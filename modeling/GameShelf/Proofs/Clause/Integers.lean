import GameShelf.Proofs.Clause.Blocks
import GameShelf.Proofs.Expression
import GameShelf.Proofs.Number.Integer
/-!
# Integers — clauses on a column of whole numbers

Such a clause says of the integers what its operator says (`holds_order_iff`), with the integer that its literal denotes:
a literal of any length counts by its true value, and one outside the 64 bits matches nothing, whatever the operator
(`integer_literals`).  A game is matched by its own number, written in decimal.
-/
namespace GameShelf

/-- What an operator says of two integers. -/
def Operator.Relates : Operator → Int → Int → Prop
  | equal, a, b => a = b
  | notEqual, a, b => a ≠ b
  | contains, _, _ => False
  | atLeast, a, b => b ≤ a
  | atMost, a, b => a ≤ b
  | above, a, b => b < a
  | below, a, b => a < b

theorem Operator.holds_order_iff (op : Operator) (n m : Int64) :
    op.holds (Integer.order n m) = true ↔ op.Relates n.toInt m.toInt := by
  unfold Integer.order
  rcases Int.lt_trichotomy n.toInt m.toInt with hlt | heq | hgt
  · rw [Int.compare_eq_lt.2 hlt]
    cases op <;> simp [holds, Relates] <;> omega
  · rw [Int.compare_eq_eq.2 heq]
    cases op <;> simp [holds, Relates] <;> omega
  · rw [Int.compare_eq_gt.2 hgt]
    cases op <;> simp [holds, Relates] <;> omega

namespace Clause

open Integer (Denotes InRange decimal)

variable {c : Column} {g : Game} {n : Int64}

theorem exists_integer (h : c.kind = .integer) (g : Game) : ∃ n, g.value c = .integer n := by
  have hkind : (g.value c).kind = .integer := (c.kind_value g).trans h
  cases hv : g.value c with
  | integer n => exact ⟨n, rfl⟩
  | text t => rw [hv] at hkind; cases hkind
  | real x => rw [hv] at hkind; cases hkind

/-- **A clause on whole numbers**, by what its literal denotes. -/
theorem admits_integer_iff (hn : g.value c = .integer n) (op : Operator) (literal : Text) :
    (Clause.mk c op literal).admits g = true ↔ ∃ i, Denotes literal i ∧ InRange i ∧ op.Relates n.toInt i := by
  rw [admits, hn]
  constructor
  · intro h
    cases hread : Integer.read literal with
    | none => simp [Operator.test, hread] at h
    | some m =>
      simp only [Operator.test, hread] at h
      exact ⟨m.toInt, Integer.read_eq_some_iff.1 hread, Integer.inRange_toInt m, (op.holds_order_iff n m).1 h⟩
  · rintro ⟨i, hi, hrange, hrelates⟩
    obtain ⟨m, rfl⟩ := Integer.exists_toInt hrange
    simp only [Operator.test, Integer.read_eq_some_iff.2 hi]
    exact (op.holds_order_iff n m).2 hrelates

/-- `==` with the decimal form of an integer is read as it stands, by every name of the column. -/
theorem clauses_equal_decimal (c : Column) {name : Text} (hname : name ∈ c.aliases) (i : Int) :
    Expression.clauses (name ++ " == ".toList ++ decimal i) = [⟨c, .equal, decimal i⟩] := by
  have hcomma : ',' ∉ decimal i := Integer.not_mem_decimal (by decide) (by decide)
  have hequals : '=' ∉ decimal i := Integer.not_mem_decimal (by decide) (by decide)
  have hfree : ¬ "==".toList <:+: decimal i := fun hin => hequals (hin.subset List.mem_cons_self)
  have hprinted : name ++ " == ".toList ++ decimal i = (Clause.mk c .equal (decimal i)).printAs name :=
    List.append_assoc _ _ _
  rw [hprinted]
  exact Expression.clauses_printAs hname
    (Operator.carries_equal (Integer.decimal_ne_nil i) (Integer.trimmed_decimal i) hfree) hcomma

/-- **Literals of whole numbers count by their true value.**  A clause on a column of whole numbers holds exactly if its
literal is digits, with a sign or without, for an integer of 64 bits, and the operator holds between the integers.  A
literal for any other integer, or for none, matches nothing, whatever the operator.  And every game is matched by its own
number in decimal. -/
theorem integer_literals (c : Column) (hc : c.kind = .integer) (g : Game) :
    ∃ n, g.value c = .integer n ∧
      (∀ op literal, (Clause.mk c op literal).admits g = true ↔
        ∃ i, Denotes literal i ∧ InRange i ∧ op.Relates n.toInt i) ∧
      (∀ op literal i, Denotes literal i → ¬ InRange i → (Clause.mk c op literal).admits g = false) ∧
      (∀ op literal, (∀ i, ¬ Denotes literal i) → (Clause.mk c op literal).admits g = false) ∧
      ∀ name ∈ c.aliases, Expression.admits (name ++ " == ".toList ++ decimal n.toInt) g = true := by
  obtain ⟨n, hn⟩ := exists_integer hc g
  refine ⟨n, hn, admits_integer_iff hn, fun op literal i hi hout => ?_, fun op literal hnone => ?_, fun name hname => ?_⟩
  · rw [← Bool.not_eq_true, admits_integer_iff hn]
    rintro ⟨j, hj, hin, -⟩
    exact hout (hi.unique hj ▸ hin)
  · rw [← Bool.not_eq_true, admits_integer_iff hn]
    rintro ⟨i, hi, -⟩
    exact hnone i hi
  · rw [Expression.admits, clauses_equal_decimal c hname, List.all_cons, List.all_nil, Bool.and_true,
      admits_integer_iff hn]
    exact ⟨n.toInt, Integer.denotes_decimal _, Integer.inRange_toInt n, rfl⟩

/-- The least year: written with zeros in front, beside one that is too large, and beside a text that is no integer. -/
theorem integer_literals_least :
    let g : Game := { Game.ofName "Ur".toList 1 with year := Int64.minValue }
    let huge := "99999999999999999999".toList
    Column.year.kind = .integer ∧
    (Denotes "-0009223372036854775808".toList (-2 ^ 63) ∧
      (Clause.mk .year .equal "-0009223372036854775808".toList).admits g = true) ∧
    (Denotes huge 99999999999999999999 ∧ ¬ InRange 99999999999999999999 ∧
      (Clause.mk .year .below huge).admits g = false ∧ (Clause.mk .year .notEqual huge).admits g = false) ∧
    ((∀ i, ¬ Denotes "2e3".toList i) ∧ (Clause.mk .year .notEqual "2e3".toList).admits g = false) ∧
    Expression.admits "year == -9223372036854775808".toList g = true := by
  intro g huge
  have hkind : Column.year.kind = .integer := rfl
  obtain ⟨n, hn, hiff, hout, hnone, hown⟩ := integer_literals .year hkind g
  obtain rfl : Int64.minValue = n := Value.integer.inj hn
  have hleast : Denotes "-0009223372036854775808".toList (-2 ^ 63) := .minus ⟨3, by decide⟩
  have hhuge : Denotes huge 99999999999999999999 := .plain ⟨0, by decide⟩
  have hbeyond : ¬ InRange 99999999999999999999 := by unfold InRange; omega
  have htext : ∀ i, ¬ Denotes "2e3".toList i := fun i hi => by
    have hread : Integer.readSigned Text.readDecimal "2e3".toList = none := by decide
    rw [Integer.readSigned_eq_some_iff.2 hi] at hread
    cases hread
  refine ⟨hkind, ⟨hleast, (hiff _ _).2 ⟨_, hleast, by unfold InRange; omega, rfl⟩⟩,
    ⟨hhuge, hbeyond, hout _ _ _ hhuge hbeyond, hout _ _ _ hhuge hbeyond⟩, ⟨htext, hnone _ _ htext⟩, ?_⟩
  exact hown "year".toList (by decide)

end Clause
end GameShelf
