import GameShelf.Proofs.SortKey
import Mathlib.Data.List.Induction
/-!
# Chain — games sorted by one key after another

A stable sort leaves what ties in the order that the sorts before it made, and a descending one leaves it in the reverse of
that order.  So a chain of keys is one order, by its last key first (`orderByLast_concat`), in which a descending key turns
every key before it round, and the places that the games came in at as well (`sort_in_turn`).
-/
namespace GameShelf

open Std (TransCmp OrientedCmp)

namespace Direction

/-- An order, turned round if the direction is descending. -/
def turn : Direction → Ordering → Ordering
  | ascending, o => o
  | descending, o => o.swap

theorem turn_eq (d : Direction) : d.turn .eq = .eq := by
  cases d <;> rfl

theorem turn_swap (d : Direction) (o : Ordering) : d.turn o.swap = (d.turn o).swap := by
  cases d <;> rfl

theorem turn_comm (d e : Direction) (o : Ordering) : d.turn (e.turn o) = e.turn (d.turn o) := by
  cases d with
  | ascending => rfl
  | descending => exact (e.turn_swap o).symm

theorem turn_then (d : Direction) (o p : Ordering) : d.turn (o.then p) = (d.turn o).then (d.turn p) := by
  cases d with
  | ascending => rfl
  | descending => exact Ordering.swap_then o p

end Direction

namespace SortKey

/-! ## The order of a chain -/

/-- The order by a key, in its own direction. -/
def order (key : SortKey) (a b : Game) : Ordering :=
  key.direction.turn (key.column.order a b)

/-- An order turned round once for every descending key. -/
def turn (keys : List SortKey) (o : Ordering) : Ordering :=
  keys.foldr (fun key => key.direction.turn) o

/-- The order by keys, the last one first: each acts in its own direction, turned round once for every descending key
behind it. -/
def orderByLast : List SortKey → Game → Game → Ordering
  | [], _, _ => .eq
  | key :: later, a, b => (orderByLast later a b).then (turn later (key.order a b))

/-- How many of the keys are descending. -/
def descents (keys : List SortKey) : Nat :=
  keys.countP (·.direction.isDescending)

/-- The order of two places: ascending, or descending if an odd number of the keys is. -/
def placeOrder (keys : List SortKey) (i j : Nat) : Ordering :=
  if descents keys % 2 = 0 then compare i j else compare j i

/-- The order by keys of games with their places, by which games that tie are told apart. -/
def placedOrder (keys : List SortKey) (a b : Game × Nat) : Ordering :=
  (orderByLast keys a.1 b.1).then (placeOrder keys a.2 b.2)

theorem turn_concat (keys : List SortKey) (key : SortKey) (o : Ordering) :
    turn (keys ++ [key]) o = key.direction.turn (turn keys o) := by
  induction keys with
  | nil => rfl
  | cons first keys ih =>
    show first.direction.turn (turn (keys ++ [key]) o) = key.direction.turn (first.direction.turn (turn keys o))
    rw [ih, Direction.turn_comm]

theorem turn_swap (keys : List SortKey) (o : Ordering) : turn keys o.swap = (turn keys o).swap := by
  induction keys with
  | nil => rfl
  | cons key keys ih =>
    show key.direction.turn (turn keys o.swap) = (key.direction.turn (turn keys o)).swap
    rw [ih, Direction.turn_swap]

theorem order_swap (key : SortKey) (a b : Game) : (key.order a b).swap = key.order b a := by
  have hcolumn : (key.column.order a b).swap = key.column.order b a := OrientedCmp.eq_swap.symm
  rw [order, ← Direction.turn_swap, hcolumn, order]

theorem orderByLast_swap (keys : List SortKey) (a b : Game) : (orderByLast keys a b).swap = orderByLast keys b a := by
  induction keys with
  | nil => rfl
  | cons key later ih => rw [orderByLast, Ordering.swap_then, ih, ← turn_swap, order_swap, orderByLast]

theorem placeOrder_swap (keys : List SortKey) (i j : Nat) : (placeOrder keys i j).swap = placeOrder keys j i := by
  unfold placeOrder
  split <;> exact Nat.compare_swap _ _

theorem placedOrder_swap (keys : List SortKey) (a b : Game × Nat) :
    (placedOrder keys a b).swap = placedOrder keys b a := by
  rw [placedOrder, Ordering.swap_then, orderByLast_swap, placeOrder_swap, placedOrder]

/-- **A key at the end goes first**, and turns the order by the others round if it is descending. -/
theorem orderByLast_concat (keys : List SortKey) (key : SortKey) (a b : Game) :
    orderByLast (keys ++ [key]) a b = (key.order a b).then (key.direction.turn (orderByLast keys a b)) := by
  induction keys with
  | nil =>
    rw [orderByLast, Direction.turn_eq, Ordering.then_eq]
    exact Ordering.eq_then
  | cons first later ih =>
    calc orderByLast (first :: later ++ [key]) a b
        = ((key.order a b).then (key.direction.turn (orderByLast later a b))).then
            (key.direction.turn (turn later (first.order a b))) := by
          rw [List.cons_append, orderByLast, ih, turn_concat]
      _ = (key.order a b).then (key.direction.turn (orderByLast (first :: later) a b)) := by
          rw [Ordering.then_assoc, ← Direction.turn_then, orderByLast]

theorem placeOrder_concat (keys : List SortKey) (key : SortKey) (i j : Nat) :
    placeOrder (keys ++ [key]) i j = key.direction.turn (placeOrder keys i j) := by
  have hdescents : descents (keys ++ [key]) = descents keys + descents [key] := List.countP_append
  cases hdir : key.direction with
  | ascending =>
    have hkey : descents [key] = 0 := by simp [descents, hdir, Direction.isDescending]
    rw [placeOrder, hdescents, hkey, Nat.add_zero]
    rfl
  | descending =>
    have hkey : descents [key] = 1 := by simp [descents, hdir, Direction.isDescending]
    rw [placeOrder, hdescents, hkey, placeOrder, Direction.turn]
    rcases Nat.mod_two_eq_zero_or_one (descents keys) with heven | hodd
    · rw [if_neg (by omega), if_pos heven, Nat.compare_swap]
    · rw [if_pos (by omega), if_neg (by omega), Nat.compare_swap]

theorem placedOrder_concat (keys : List SortKey) (key : SortKey) (a b : Game × Nat) :
    placedOrder (keys ++ [key]) a b = (key.order a.1 b.1).then (key.direction.turn (placedOrder keys a b)) := by
  rw [placedOrder, orderByLast_concat, placeOrder_concat, Ordering.then_assoc, ← Direction.turn_then, placedOrder]

/-! ## Sorting by a chain -/

/-- Games with their places, in the order by some keys. -/
def InOrder (keys : List SortKey) (placed : List (Game × Nat)) : Prop :=
  placed.Pairwise fun a b => placedOrder keys a b = .lt

theorem InOrder.eq_of_perm {keys : List SortKey} {placed other : List (Game × Nat)} (h : InOrder keys placed)
    (hother : InOrder keys other) (hperm : other.Perm placed) : other = placed := by
  refine List.Perm.eq_of_pairwise (fun a b _ _ hab hba => ?_) hother h hperm
  rw [← placedOrder_swap, hab] at hba
  cases hba

theorem inOrder_zipIdx (games : List Game) : InOrder [] games.zipIdx := by
  have hplaces : (games.zipIdx.map Prod.snd).Pairwise (· < ·) := by
    rw [List.zipIdx_map_snd]
    exact List.pairwise_lt_range'
  exact (List.pairwise_map.1 hplaces).imp Nat.compare_eq_lt.2

instance (c : Column) : TransCmp fun a b : Game × Nat => c.order a.1 b.1 :=
  Column.transCmp_field c.order Prod.fst

/-- **One more key** takes games from the order by some keys to the order by these and the new one. -/
theorem exists_inOrder_sort {keys : List SortKey} {placed : List (Game × Nat)} (key : SortKey) (h : InOrder keys placed) :
    ∃ next, next.Perm placed ∧ InOrder (keys ++ [key]) next ∧ key.sort (placed.map Prod.fst) = next.map Prod.fst := by
  let sorted := Sorting.sortBy (fun a b : Game × Nat => key.column.order a.1 b.1) placed
  have hperm : sorted.Perm placed := Sorting.sortBy_perm _ placed
  have hmap : key.column.sort (placed.map Prod.fst) = sorted.map Prod.fst := by
    rw [Column.sort_eq_sortBy, ← Sorting.map_sortBy]
  have hsorted : sorted.Pairwise fun a b => (key.column.order a.1 b.1).then (placedOrder keys a b) = .lt :=
    (Sorting.pairwise_sortBy_of_pairwise h).imp Ordering.then_eq_lt.2
  cases hdir : key.direction with
  | ascending =>
    refine ⟨sorted, hperm, hsorted.imp fun {a b} hlt => ?_, ?_⟩
    · rw [placedOrder_concat, order, hdir]
      exact hlt
    · rw [sort, hdir, hmap]
  | descending =>
    refine ⟨sorted.reverse, (List.reverse_perm _).trans hperm, ?_, ?_⟩
    · -- the list turned round swaps two games, and the key turns round the order of the two
      refine List.pairwise_reverse.2 (hsorted.imp fun {a b} hlt => ?_)
      have hcolumn : (key.column.order b.1 a.1).swap = key.column.order a.1 b.1 := OrientedCmp.eq_swap.symm
      rw [placedOrder_concat, order, hdir, Direction.turn, Direction.turn, hcolumn, placedOrder_swap]
      exact hlt
    · rw [sort, hdir, hmap, List.map_reverse]

theorem exists_inOrder_foldl (keys : List SortKey) (games : List Game) :
    ∃ placed, placed.Perm games.zipIdx ∧ InOrder keys placed ∧
      keys.foldl (fun games key => key.sort games) games = placed.map Prod.fst := by
  -- from the end: the last key sorts what the others have left
  induction keys using List.reverseRecOn with
  | nil => exact ⟨games.zipIdx, List.Perm.refl _, inOrder_zipIdx games, (List.zipIdx_map_fst 0 games).symm⟩
  | append_singleton keys key ih =>
    obtain ⟨placed, hperm, horder, hfold⟩ := ih
    obtain ⟨next, hnext, hnextOrder, hsort⟩ := exists_inOrder_sort key horder
    refine ⟨next, hnext.trans hperm, hnextOrder, ?_⟩
    rw [List.foldl_append, hfold, List.foldl_cons, List.foldl_nil, hsort]

/-- **Sorting by one key after another is one order, by the last key first.**  Behind it comes the key before it, and so on
to the first key, and where games tie by all of them, the place they came in at.  Each key acts in its own direction,
turned round once for every descending key behind it, and the places stand descending if an odd number of the keys does.
There is one such arrangement of the games, and it is the result. -/
theorem sort_in_turn (keys : List SortKey) (games : List Game) :
    ∃ placed : List (Game × Nat),
      (∀ other : List (Game × Nat), other.Perm games.zipIdx ∧ InOrder keys other ↔ other = placed) ∧
      keys.foldl (fun games key => key.sort games) games = placed.map Prod.fst := by
  obtain ⟨placed, hperm, horder, hfold⟩ := exists_inOrder_foldl keys games
  refine ⟨placed, fun other => ⟨fun ⟨hother, hotherOrder⟩ => ?_, ?_⟩, hfold⟩
  · exact horder.eq_of_perm hotherOrder (hother.trans hperm.symm)
  · rintro rfl
    exact ⟨hperm, horder⟩

/-- By name, and then backwards by year: the games of one year stand backwards by name, and of one name the later first. -/
example :
    let games := [⟨"go".toList, 1, 0, 0, 0, 0, .zero, 0, .zero, 5⟩, ⟨"Go".toList, 2, 0, 0, 0, 0, .zero, 0, .zero, 5⟩,
      ⟨"Chess".toList, 3, 0, 0, 0, 0, .zero, 0, .zero, 5⟩, ⟨"Ur".toList, 4, 0, 0, 0, 0, .zero, 0, .zero, 6⟩]
    ([ascending .name, descending .year].foldl (fun games key => key.sort games) games).map Game.id = [4, 2, 1, 3] := by
  decide +kernel

end SortKey
end GameShelf
