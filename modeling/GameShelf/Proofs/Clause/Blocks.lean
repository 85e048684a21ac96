import GameShelf.Clause
import GameShelf.Proofs.SortKey
/-!
# Blocks — what comparisons keep of a sorted list

Games are sorted by one order and compared with a literal by another: for sorting the zeros are two and every NaN is last,
for comparing the zeros are one and a NaN has no order.  Still the second never steps back while the first goes on
(`Value.stage_mono`), so in a sorted list the games below a literal, those equal to it and those above it stand in three
blocks, with the games without a number behind them (`sort_eq_append`).
-/
namespace GameShelf

open Std (TransCmp)

/-! ## Bands of a list whose levels never fall -/

namespace Sorting

variable {α : Type} {level : α → Nat} {first mid last : Nat} {xs : List α}

theorem filter_or_eq_append {p q : α → Bool} (hxs : xs.Pairwise fun a b => level a ≤ level b)
    (hpq : ∀ a b, p a = true → q b = true → level a < level b) :
    xs.filter (fun a => p a || q a) = xs.filter p ++ xs.filter q := by
  induction xs with
  | nil => rfl
  | cons x xs ih =>
    have ih := ih hxs.of_cons
    by_cases hp : p x = true
    · have hq : ¬ q x = true := fun hq => Nat.lt_irrefl _ (hpq x x hp hq)
      simp [hp, hq, ih]
    · by_cases hq : q x = true
      · have hnone : xs.filter p = [] := List.filter_eq_nil_iff.2 fun y hy hpy => by
          have hle := List.rel_of_pairwise_cons hxs hy
          have hlt := hpq y x hpy hq
          omega
        rw [hnone, List.nil_append] at ih
        simp [hp, hq, ih, hnone]
      · simp [hp, hq, ih]

/-- The elements from one level to another, both included. -/
def band (level : α → Nat) (first last : Nat) (xs : List α) : List α :=
  xs.filter fun a => first ≤ level a ∧ level a ≤ last

theorem band_all (h : ∀ a, level a ≤ last) (xs : List α) : band level 0 last xs = xs :=
  List.filter_eq_self.2 fun a _ => decide_eq_true ⟨Nat.zero_le _, h a⟩

/-- **A band is a lower band and, behind it, a higher one.** -/
theorem band_eq_append (hxs : xs.Pairwise fun a b => level a ≤ level b) (hfirst : first ≤ mid + 1) (hlast : mid ≤ last) :
    band level first last xs = band level first mid xs ++ band level (mid + 1) last xs := by
  unfold band
  rw [← filter_or_eq_append hxs fun a b ha hb => ?_]
  · refine List.filter_congr fun a _ => ?_
    rw [Bool.eq_iff_iff, Bool.or_eq_true, decide_eq_true_iff, decide_eq_true_iff, decide_eq_true_iff]
    omega
  · rw [decide_eq_true_iff] at ha hb
    omega

end Sorting

/-! ## Where a value stands to a literal -/

/-- How far past a literal something stands that compares with it so: before it, level with it, past it; and last what has
no order to it. -/
def stage : Option Ordering → Nat
  | some .lt => 0
  | some .eq => 1
  | some .gt => 2
  | none => 3

theorem stage_le_three (o : Option Ordering) : stage o ≤ 3 := by
  rcases o with _ | _ | _ | _ <;> decide

/-- What goes up in an order goes up against every value of that order. -/
theorem stage_compare_mono {α : Type} {cmp : α → α → Ordering} [TransCmp cmp] {a b : α} (v : α) (hab : (cmp a b).isLE) :
    stage (some (cmp a v)) ≤ stage (some (cmp b v)) := by
  cases hb : cmp b v with
  | lt =>
    have ha : cmp a v = .lt := TransCmp.lt_of_isLE_of_lt hab hb
    exact Nat.le_of_eq (by rw [ha])
  | eq =>
    have ha : (cmp a v).isLE := TransCmp.isLE_trans hab (by rw [hb]; rfl)
    cases hav : cmp a v with
    | lt => decide
    | eq => decide
    | gt => rw [hav] at ha; cases ha
  | gt => cases cmp a v <;> decide

namespace Binary64

variable {x y v : Binary64}

/-- Up to the last number, the order for sorting goes no other way than the order of arithmetic. -/
theorem place_le_of_rank_le (hy : y.isNaN = false) (h : x.rank ≤ y.rank) : x.isNaN = false ∧ x.place ≤ y.place := by
  have hy_le : y.magnitude ≤ infinite := by simpa [isNaN] using hy
  by_cases hx : x.isNaN = true
  · rw [rank, if_pos hx, rank, if_neg (Bool.eq_false_iff.1 hy)] at h
    split at h <;> omega
  · refine ⟨Bool.eq_false_iff.2 hx, ?_⟩
    rw [rank, if_neg hx, rank, if_neg (Bool.eq_false_iff.1 hy)] at h
    unfold place
    cases hxs : x.isNegative with
    | false =>
      cases hys : y.isNegative with
      | false => simpa [hxs, hys] using h
      | true =>
        -- a negative number, its rank below every magnitude, cannot come after one that is not
        simp only [hxs, hys, Bool.false_eq_true, if_false, if_true] at h
        omega
    | true =>
      cases hys : y.isNegative with
      | false => simp only [Bool.false_eq_true, if_false, if_true]; omega
      | true =>
        simp only [hxs, hys, if_true] at h ⊢
        omega

theorem stage_mono (hv : v.isNaN = false) (h : x.rank ≤ y.rank) : stage (x.compare? v) ≤ stage (y.compare? v) := by
  by_cases hy : y.isNaN = true
  · -- a NaN is sorted last and stands last, whatever came before it
    have hlast : y.compare? v = none := by simp [compare?, hy]
    rw [hlast]
    exact stage_le_three _
  · obtain ⟨hx, hplace⟩ := place_le_of_rank_le (Bool.eq_false_iff.2 hy) h
    rw [compare?, compare?, if_neg (by simp [hx, hv]), if_neg (by simp [hy, hv])]
    exact stage_compare_mono v.place (Std.isLE_compare.2 hplace)

end Binary64

/-- A literal with which values of the kind can be compared: any text, and of the numbers all but the NaNs. -/
def Kind.Reads (literal : Text) : Kind → Prop
  | .text => True
  | .integer => ∃ m, Integer.read literal = some m
  | .real => ∃ y, Binary64.read literal = some y ∧ y.isNaN = false

namespace Value

variable {literal : Text} {a b : Value}

def kind : Value → Kind
  | text _ => .text
  | integer _ => .integer
  | real _ => .real

def isNaN : Value → Bool
  | real x => x.isNaN
  | _ => false

/-- How a value compares with a literal; a NaN on either side, or a literal of another kind, has no order to it. -/
def against (literal : Text) : Value → Option Ordering
  | text t => some (Text.compareFolded t literal)
  | integer n => (Integer.read literal).map (Integer.order n)
  | real x => (Binary64.read literal).bind x.compare?

/-- **What is sorted later stands no less far past a literal.** -/
theorem stage_mono (hkind : a.kind = b.kind) (hreads : a.kind.Reads literal) (hab : (order a b).isLE) :
    stage (a.against literal) ≤ stage (b.against literal) := by
  cases a with
  | text s =>
    cases b with
    | text t => exact stage_compare_mono literal hab
    | integer m => cases hkind
    | real y => cases hkind
  | integer n =>
    obtain ⟨v, hv⟩ := hreads
    cases b with
    | text t => cases hkind
    | integer m =>
      rw [against, against, hv]
      exact stage_compare_mono v hab
    | real y => cases hkind
  | real x =>
    obtain ⟨v, hv, hnan⟩ := hreads
    cases b with
    | text t => cases hkind
    | integer m => cases hkind
    | real y =>
      rw [against, against, hv]
      exact Binary64.stage_mono hnan (Std.isLE_compare.1 hab)

theorem isNaN_iff_stage (hreads : a.kind.Reads literal) : a.isNaN = true ↔ stage (a.against literal) = 3 := by
  cases a with
  | text s => cases h : Text.compareFolded s literal <;> simp [against, h, stage, isNaN]
  | integer n =>
    obtain ⟨v, hv⟩ := hreads
    cases h : Integer.order n v <;> simp [against, hv, h, stage, isNaN]
  | real x =>
    obtain ⟨v, hv, hnan⟩ := hreads
    cases hx : x.isNaN with
    | true => simp [against, hv, isNaN, Binary64.compare?, hx, stage]
    | false => cases h : compare x.place v.place <;> simp [against, hv, isNaN, Binary64.compare?, hx, hnan, h, stage]

end Value

namespace Operator

variable {op : Operator} {first last : Nat}

/-- The first and the last stage at which an operator holds, if it asks for one side of an order. -/
def stages? : Operator → Option (Nat × Nat)
  | below => some (0, 0)
  | atMost => some (0, 1)
  | equal => some (1, 1)
  | atLeast => some (1, 2)
  | above => some (2, 2)
  | notEqual => none
  | contains => none

theorem holdsBetween_iff_stage (h : op.stages? = some (first, last)) (o : Option Ordering) :
    op.holdsBetween o = true ↔ first ≤ stage o ∧ stage o ≤ last := by
  cases op <;> cases h <;> rcases o with _ | _ | _ | _ <;> decide

/-- **A comparison asks only how the value compares with the literal.**  Of a literal that does not compare `!=` asks
whether it is one of the value's kind, too. -/
theorem test_eq_holdsBetween {literal : Text} {v : Value} (hcontains : op ≠ .contains)
    (h : op ≠ .notEqual ∨ v.kind.Reads literal) : op.test literal v = op.holdsBetween (v.against literal) := by
  have hnone : op ≠ .notEqual → op.holdsBetween none = false := decide_eq_false
  cases v with
  | text t => rw [test, if_neg hcontains]; rfl
  | integer n =>
    cases hread : Integer.read literal with
    | some m => simp only [test, Value.against, hread]; rfl
    | none =>
      have hop : op ≠ .notEqual := h.resolve_right (by rintro ⟨m, hm⟩; rw [hread] at hm; cases hm)
      simp only [test, Value.against, hread]
      exact (hnone hop).symm
  | real x =>
    cases hread : Binary64.read literal with
    | some y => simp only [test, Value.against, hread]; rfl
    | none =>
      have hop : op ≠ .notEqual := h.resolve_right (by rintro ⟨y, hy, -⟩; rw [hread] at hy; cases hy)
      simp only [test, Value.against, hread]
      exact (hnone hop).symm

theorem test_iff_stage (h : op.stages? = some (first, last)) (literal : Text) (v : Value) :
    op.test literal v = true ↔ first ≤ stage (v.against literal) ∧ stage (v.against literal) ≤ last := by
  have hcontains : op ≠ .contains := by rintro rfl; cases h
  have hnotEqual : op ≠ .notEqual := by rintro rfl; cases h
  rw [test_eq_holdsBetween hcontains (.inl hnotEqual), holdsBetween_iff_stage h]

end Operator

/-! ## The blocks of a sorted list -/

namespace Column

variable {c : Column} {literal : Text}

theorem kind_value (c : Column) (g : Game) : (g.value c).kind = c.kind := by
  cases c <;> rfl

/-- How far past a literal a game stands in a column. -/
def stage (c : Column) (literal : Text) (g : Game) : Nat :=
  GameShelf.stage ((g.value c).against literal)

/-- **Games sorted by a column never step back against a literal.** -/
theorem pairwise_stage (h : c.kind.Reads literal) (games : List Game) :
    (c.sort games).Pairwise fun a b => c.stage literal a ≤ c.stage literal b := by
  have hsorted : (c.sort games).Pairwise fun a b => (c.order a b).isLE := Sorting.pairwise_sortBy games
  refine hsorted.imp fun {a b} hab => Value.stage_mono ?_ ?_ hab
  · rw [kind_value, kind_value]
  · rwa [kind_value]

end Column

namespace SortKey

variable {c : Column} {literal : Text}

/-- Those games of a list, sorted by the key, between whose column and the literal the operator holds. -/
def admitted (key : SortKey) (op : Operator) (literal : Text) (games : List Game) : List Game :=
  (key.sort games).filter (Clause.mk key.column op literal).admits

/-- Those games of a list, sorted by the key, whose column holds a NaN. -/
def numberless (key : SortKey) (games : List Game) : List Game :=
  (key.sort games).filter fun g => (g.value key.column).isNaN

theorem admitted_eq_band {op : Operator} {first last : Nat} (h : op.stages? = some (first, last)) (c : Column)
    (literal : Text) (games : List Game) :
    (ascending c).admitted op literal games = Sorting.band (c.stage literal) first last (c.sort games) := by
  refine List.filter_congr fun g _ => ?_
  rw [Bool.eq_iff_iff, decide_eq_true_iff]
  exact Operator.test_iff_stage h literal (g.value c)

theorem numberless_eq_band (h : c.kind.Reads literal) (games : List Game) :
    (ascending c).numberless games = Sorting.band (c.stage literal) 3 3 (c.sort games) := by
  refine List.filter_congr fun g _ => ?_
  have hlast : (g.value c).isNaN = true ↔ c.stage literal g = 3 := Value.isNaN_iff_stage (by rwa [Column.kind_value])
  rw [Bool.eq_iff_iff, decide_eq_true_iff, SortKey.ascending, hlast]
  omega

theorem admitted_atMost (h : c.kind.Reads literal) (games : List Game) :
    (ascending c).admitted .atMost literal games =
      (ascending c).admitted .below literal games ++ (ascending c).admitted .equal literal games := by
  rw [admitted_eq_band rfl, admitted_eq_band rfl, admitted_eq_band rfl]
  exact Sorting.band_eq_append (Column.pairwise_stage h games) (by decide) (by decide)

theorem admitted_atLeast (h : c.kind.Reads literal) (games : List Game) :
    (ascending c).admitted .atLeast literal games =
      (ascending c).admitted .equal literal games ++ (ascending c).admitted .above literal games := by
  rw [admitted_eq_band rfl, admitted_eq_band rfl, admitted_eq_band rfl]
  exact Sorting.band_eq_append (Column.pairwise_stage h games) (by decide) (by decide)

theorem sort_eq_append (h : c.kind.Reads literal) (games : List Game) :
    (ascending c).sort games = (ascending c).admitted .below literal games ++
      (ascending c).admitted .equal literal games ++ (ascending c).admitted .above literal games ++
      (ascending c).numberless games := by
  have hstages := Column.pairwise_stage h games
  rw [← admitted_atMost h, admitted_eq_band rfl, admitted_eq_band rfl, numberless_eq_band h]
  calc c.sort games
      = Sorting.band (c.stage literal) 0 3 (c.sort games) := (Sorting.band_all (fun g => stage_le_three _) _).symm
    _ = Sorting.band (c.stage literal) 0 2 (c.sort games) ++ Sorting.band (c.stage literal) 3 3 (c.sort games) :=
      Sorting.band_eq_append hstages (by decide) (by decide)
    _ = Sorting.band (c.stage literal) 0 1 (c.sort games) ++ Sorting.band (c.stage literal) 2 2 (c.sort games) ++
          Sorting.band (c.stage literal) 3 3 (c.sort games) := by
      rw [Sorting.band_eq_append hstages (show 0 ≤ 1 + 1 by decide) (show 1 ≤ 2 by decide)]

theorem admitted_descending (c : Column) (op : Operator) (literal : Text) (games : List Game) :
    (descending c).admitted op literal games = ((ascending c).admitted op literal games).reverse :=
  List.filter_reverse

theorem numberless_descending (c : Column) (games : List Game) :
    (descending c).numberless games = ((ascending c).numberless games).reverse :=
  List.filter_reverse

/-- **Comparisons with a literal keep blocks of a sorted list.**  In ascending order the games below the literal come
first, then those equal to it, then those above, and last those without a number; at most the literal are the first two
blocks, at least the literal the second and the third.  In descending order the same blocks stand the other way round. -/
theorem sort_blocks (c : Column) (literal : Text) (games : List Game) (h : c.kind.Reads literal) :
    let up := ascending c
    let down := descending c
    (up.sort games = up.admitted .below literal games ++ up.admitted .equal literal games ++
        up.admitted .above literal games ++ up.numberless games ∧
      up.admitted .atMost literal games = up.admitted .below literal games ++ up.admitted .equal literal games ∧
      up.admitted .atLeast literal games = up.admitted .equal literal games ++ up.admitted .above literal games) ∧
    (down.sort games = down.numberless games ++ down.admitted .above literal games ++
        down.admitted .equal literal games ++ down.admitted .below literal games ∧
      down.admitted .atMost literal games = down.admitted .equal literal games ++ down.admitted .below literal games ∧
      down.admitted .atLeast literal games = down.admitted .above literal games ++ down.admitted .equal literal games) ∧
    (∀ op, down.admitted op literal games = (up.admitted op literal games).reverse) ∧
    down.numberless games = (up.numberless games).reverse := by
  intro up down
  have hdown : down.sort games = (up.sort games).reverse := rfl
  refine ⟨⟨sort_eq_append h games, admitted_atMost h games, admitted_atLeast h games⟩, ⟨?_, ?_, ?_⟩,
    fun op => admitted_descending c op literal games, numberless_descending c games⟩
  · rw [hdown, sort_eq_append h, numberless_descending, admitted_descending, admitted_descending, admitted_descending]
    simp only [List.reverse_append, List.append_assoc]
  · rw [admitted_descending, admitted_descending, admitted_descending, admitted_atMost h, List.reverse_append]
  · rw [admitted_descending, admitted_descending, admitted_descending, admitted_atLeast h, List.reverse_append]

/-- Two zeros, which the sort keeps apart and a literal does not, between a game rated five and one without a rating. -/
theorem sort_blocks_zero :
    let five : Game := { Game.ofName "Five".toList 1 with rating := .ofSignMagnitude false 0x4014000000000000 }
    let odd : Game := { Game.ofName "Odd".toList 2 with rating := .ofSignMagnitude true Binary64.quietNaN }
    let zero : Game := .ofName "Zero".toList 3
    let flat : Game := { Game.ofName "Flat".toList 4 with rating := .ofSignMagnitude true 0 }
    let games := [five, odd, zero, flat]
    Column.rating.kind.Reads "-0".toList ∧
      (descending .rating).admitted .equal "-0".toList games = [zero, flat] ∧
      (descending .rating).sort games = (descending .rating).numberless games ++
        (descending .rating).admitted .above "-0".toList games ++ [zero, flat] ++
        (descending .rating).admitted .below "-0".toList games := by
  intro five odd zero flat games
  have hreads : Column.rating.kind.Reads "-0".toList := ⟨.ofSignMagnitude true 0, by decide +kernel, by decide +kernel⟩
  have hequal : (descending .rating).admitted .equal "-0".toList games = [zero, flat] := by decide +kernel
  have hsort := (sort_blocks .rating "-0".toList games hreads).2.1.1
  rw [hequal] at hsort
  exact ⟨hreads, hequal, hsort⟩

end SortKey
end GameShelf
