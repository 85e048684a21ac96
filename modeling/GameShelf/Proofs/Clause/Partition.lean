import GameShelf.Proofs.Clause.Blocks
/-!
# Partition — what the comparisons with one literal make of a list

All operators but `~=` ask only how a value compares with the literal (`test_eq_holdsBetween`), and two values compare in
one way at most.  So every game with a number is below the literal, level with it or above it, and none is two of these
(`comparisons_partition`).  A literal that is no number of the column's kind stands outside all this, and one that is a
NaN leaves `!=` alone to hold.
-/
namespace GameShelf

namespace Sorting

variable {α : Type} {p q : α → Bool}

theorem disjoint_filter_filter (h : ∀ a, (p a && q a) = false) (xs : List α) :
    (xs.filter p).Disjoint (xs.filter q) := by
  refine List.disjoint_left.2 fun a hp hq => ?_
  have hboth : (p a && q a) = true := Bool.and_eq_true_iff.2 ⟨(List.mem_filter.1 hp).2, (List.mem_filter.1 hq).2⟩
  rw [h a] at hboth
  cases hboth

theorem filter_append_filter_perm (h : ∀ a, (p a && q a) = false) (xs : List α) :
    (xs.filter p ++ xs.filter q).Perm (xs.filter fun a => p a || q a) := by
  have hp : (xs.filter fun a => p a || q a).filter p = xs.filter p := by
    rw [List.filter_filter]
    refine List.filter_congr fun a _ => ?_
    cases p a <;> simp
  have hq : (xs.filter fun a => p a || q a).filter (fun a => !p a) = xs.filter q := by
    rw [List.filter_filter]
    refine List.filter_congr fun a _ => ?_
    have ha := h a
    cases hpa : p a with
    | false => rfl
    | true =>
      rw [hpa, Bool.true_and] at ha
      rw [ha]
      rfl
  rw [← hp, ← hq]
  exact List.filter_append_perm p _

end Sorting

theorem Value.isNaN_iff_against {literal : Text} {v : Value} (hreads : v.kind.Reads literal) :
    v.isNaN = true ↔ v.against literal = none := by
  rw [Value.isNaN_iff_stage hreads]
  rcases v.against literal with _ | _ | _ | _ <;> simp [stage]

namespace Operator

variable {op : Operator} {literal : Text} {v : Value}

theorem holdsBetween_atMost (o : Option Ordering) :
    atMost.holdsBetween o = (below.holdsBetween o || equal.holdsBetween o) := by
  rcases o with _ | _ | _ | _ <;> rfl

theorem holdsBetween_atLeast (o : Option Ordering) :
    atLeast.holdsBetween o = (equal.holdsBetween o || above.holdsBetween o) := by
  rcases o with _ | _ | _ | _ <;> rfl

theorem holdsBetween_notEqual (o : Option Ordering) : notEqual.holdsBetween o = !equal.holdsBetween o := by
  rcases o with _ | _ | _ | _ <;> rfl

theorem isSome_eq_holdsBetween (o : Option Ordering) : o.isSome = (atMost.holdsBetween o || above.holdsBetween o) := by
  rcases o with _ | _ | _ | _ <;> rfl

theorem not_atMost_and_above (o : Option Ordering) : (atMost.holdsBetween o && above.holdsBetween o) = false := by
  rcases o with _ | _ | _ | _ <;> rfl

theorem holdsBetween_exclusive (o : Option Ordering) :
    (below.holdsBetween o && equal.holdsBetween o) = false ∧ (below.holdsBetween o && above.holdsBetween o) = false ∧
      (equal.holdsBetween o && above.holdsBetween o) = false := by
  rcases o with _ | _ | _ | _ <;> exact ⟨rfl, rfl, rfl⟩

/-- **What has an order is below, level or above.** -/
theorem filter_holdsBetween_perm {α : Type} (place : α → Option Ordering) (xs : List α) :
    ((xs.filter fun a => below.holdsBetween (place a)) ++ (xs.filter fun a => equal.holdsBetween (place a)) ++
      xs.filter fun a => above.holdsBetween (place a)).Perm (xs.filter fun a => (place a).isSome) := by
  have hlow : ((xs.filter fun a => below.holdsBetween (place a)) ++ xs.filter fun a => equal.holdsBetween (place a)).Perm
      (xs.filter fun a => atMost.holdsBetween (place a)) := by
    simp only [holdsBetween_atMost]
    exact Sorting.filter_append_filter_perm (fun a => (holdsBetween_exclusive (place a)).1) xs
  simp only [isSome_eq_holdsBetween]
  exact (hlow.append_right _).trans (Sorting.filter_append_filter_perm (fun a => not_atMost_and_above (place a)) xs)

theorem test_of_read_eq_none (h : v.kind = .integer ∧ Integer.read literal = none ∨
    v.kind = .real ∧ Binary64.read literal = none) : op.test literal v = false := by
  cases v with
  | text t => rcases h with ⟨h, -⟩ | ⟨h, -⟩ <;> cases h
  | integer n =>
    rcases h with ⟨-, hread⟩ | ⟨h, -⟩
    · simp only [test, hread]
    · cases h
  | real x =>
    rcases h with ⟨h, -⟩ | ⟨-, hread⟩
    · cases h
    · simp only [test, hread]

theorem test_of_isNaN {y : Binary64} (h : v.kind = .real) (hy : Binary64.read literal = some y) (hnan : y.isNaN = true) :
    op.test literal v = decide (op = .notEqual) := by
  cases v with
  | text t => cases h
  | integer n => cases h
  | real x =>
    have hnone : x.compare? y = none := by simp [Binary64.compare?, hnan]
    simp only [test, hy, hnone]
    rfl

end Operator

namespace Column

/-- **The comparisons with a literal divide a list.**  Of below the literal, level with it and above it no game is two, and
the games that have a number are those that are one; at most and at least the literal are two of the three each, and
unlike it are all games that are not level with it.  A literal that is no number of the column's kind matches nothing,
whatever the operator; and one that is a NaN matches everything by `!=`, and nothing by the others. -/
theorem comparisons_partition (c : Column) (literal : Text) (games : List Game) :
    let admits := fun op => (Clause.mk c op literal).admits
    let kept := fun op => games.filter (admits op)
    (c.kind.Reads literal →
      ((kept .below).Disjoint (kept .equal) ∧ (kept .below).Disjoint (kept .above) ∧
        (kept .equal).Disjoint (kept .above)) ∧
      (kept .below ++ kept .equal ++ kept .above).Perm (games.filter fun g => !(g.value c).isNaN) ∧
      kept .atMost = games.filter (fun g => admits .below g || admits .equal g) ∧
      kept .atLeast = games.filter (fun g => admits .equal g || admits .above g) ∧
      kept .notEqual = games.filter (fun g => !admits .equal g)) ∧
    (c.kind = .integer ∧ Integer.read literal = none ∨ c.kind = .real ∧ Binary64.read literal = none →
      ∀ op, kept op = []) ∧
    (∀ y, c.kind = .real → Binary64.read literal = some y → y.isNaN = true →
      kept .notEqual = games ∧ ∀ op, op ≠ .notEqual → kept op = []) := by
  intro admits kept
  refine ⟨fun hreads => ?_, fun hunread => ?_, fun y hreal hy hnan => ?_⟩
  · let place := fun g : Game => (g.value c).against literal
    have hreads : ∀ g : Game, (g.value c).kind.Reads literal := fun g => by rwa [kind_value]
    have hadmits : ∀ op, op ≠ .contains → ∀ g, admits op g = op.holdsBetween (place g) := fun op hop g =>
      Operator.test_eq_holdsBetween hop (.inr (hreads g))
    have hnumber : ∀ g : Game, (!(g.value c).isNaN) = (place g).isSome := fun g => by
      rw [Bool.eq_iff_iff, Bool.not_eq_true', ← Bool.not_eq_true, Value.isNaN_iff_against (hreads g),
        ← Option.ne_none_iff_isSome]
    have hkept : ∀ op, op ≠ .contains → kept op = games.filter fun g => op.holdsBetween (place g) := fun op hop =>
      List.filter_congr fun g _ => hadmits op hop g
    have hnumbers : games.filter (fun g => !(g.value c).isNaN) = games.filter fun g => (place g).isSome :=
      List.filter_congr fun g _ => hnumber g
    rw [hnumbers, hkept .below (by decide), hkept .equal (by decide), hkept .above (by decide)]
    refine ⟨⟨?_, ?_, ?_⟩, ?_, ?_, ?_, ?_⟩
    · exact Sorting.disjoint_filter_filter (fun g => (Operator.holdsBetween_exclusive (place g)).1) games
    · exact Sorting.disjoint_filter_filter (fun g => (Operator.holdsBetween_exclusive (place g)).2.1) games
    · exact Sorting.disjoint_filter_filter (fun g => (Operator.holdsBetween_exclusive (place g)).2.2) games
    · exact Operator.filter_holdsBetween_perm place games
    all_goals refine List.filter_congr fun g _ => ?_
    · simp (disch := decide) only [hadmits, Operator.holdsBetween_atMost]
    · simp (disch := decide) only [hadmits, Operator.holdsBetween_atLeast]
    · simp (disch := decide) only [hadmits, Operator.holdsBetween_notEqual]
  · refine fun op => List.filter_eq_nil_iff.2 fun g _ => Bool.eq_false_iff.1 ?_
    exact Operator.test_of_read_eq_none (by rwa [kind_value])
  · have htest : ∀ op g, admits op g = decide (op = .notEqual) := fun op g =>
      Operator.test_of_isNaN ((kind_value c g).trans hreal) hy hnan
    refine ⟨List.filter_eq_self.2 fun g _ => ?_, fun op hop => List.filter_eq_nil_iff.2 fun g _ => ?_⟩
    · rw [htest]
      rfl
    · rw [htest, decide_eq_false hop]
      exact Bool.false_ne_true

/-- A negative zero, a five and a NaN beside the literal `0`, beside one that is no number and beside one that is a NaN. -/
theorem comparisons_partition_zero :
    let flat : Game := { Game.ofName "Flat".toList 1 with rating := .ofSignMagnitude true 0 }
    let five : Game := { Game.ofName "Five".toList 2 with rating := .ofSignMagnitude false 0x4014000000000000 }
    let odd : Game := { Game.ofName "Odd".toList 3 with rating := .ofSignMagnitude true Binary64.quietNaN }
    let games := [flat, five, odd]
    let kept := fun (literal : Text) op => games.filter (Clause.mk .rating op literal).admits
    (Column.rating.kind.Reads "0".toList ∧
      (kept "0".toList .below ++ kept "0".toList .equal ++ kept "0".toList .above).Perm [flat, five] ∧
      kept "0".toList .notEqual = [five, odd]) ∧
    (Binary64.read "five".toList = none ∧ ∀ op, kept "five".toList op = []) ∧
    (Binary64.read "-NaN".toList = some (.ofSignMagnitude true Binary64.quietNaN) ∧
      kept "-NaN".toList .notEqual = games ∧ ∀ op, op ≠ .notEqual → kept "-NaN".toList op = []) := by
  intro flat five odd games kept
  have hreads : Column.rating.kind.Reads "0".toList := ⟨.ofSignMagnitude false 0, by decide +kernel, by decide +kernel⟩
  have hunread : Binary64.read "five".toList = none := by decide +kernel
  have hnan : Binary64.read "-NaN".toList = some (.ofSignMagnitude true Binary64.quietNaN) := by decide +kernel
  obtain ⟨-, hperm, -, -, hne⟩ := (comparisons_partition .rating "0".toList games).1 hreads
  have hnumbers : games.filter (fun g => !(g.value .rating).isNaN) = [flat, five] := by decide +kernel
  have hlevel : games.filter (fun g => !(Clause.mk .rating .equal "0".toList).admits g) = [five, odd] := by
    decide +kernel
  rw [hnumbers] at hperm
  rw [hlevel] at hne
  exact ⟨⟨hreads, hperm, hne⟩,
    ⟨hunread, (comparisons_partition .rating "five".toList games).2.1 (.inr ⟨rfl, hunread⟩)⟩,
    hnan, (comparisons_partition .rating "-NaN".toList games).2.2 _ rfl hnan (by decide +kernel)⟩

end Column
end GameShelf
