/-!
# Sorting — stable sorting by an order

Halves are sorted and merged; of two elements that tie, the one from the first half goes first.  All
recursion is on the data, so a sorted list can be computed inside a proof.  The result is that of the
library's merge sort (`sort_eq_mergeSort`), whose laws then hold here.
-/
namespace GameShelf
namespace Sorting

/-- The merge of `x :: xs` with a list, where `mergeRest` merges `xs` with one. -/
def mergeFrom (le : α → α → Bool) (x : α) (xs : List α) (mergeRest : List α → List α) :
    List α → List α
  | [] => x :: xs
  | y :: ys => if le x y then x :: mergeRest (y :: ys) else y :: mergeFrom le x xs mergeRest ys

def merge (le : α → α → Bool) : List α → List α → List α
  | [], ys => ys
  | x :: xs, ys => mergeFrom le x xs (merge le xs) ys

/-- A list in order, if it is no longer than `bound`. -/
def sortWithin (le : α → α → Bool) : (bound : Nat) → List α → List α
  | 0, xs => xs
  | bound + 1, xs =>
    match xs with
    | [] => []
    | [x] => [x]
    | xs =>
      let half := (xs.length + 1) / 2
      merge le (sortWithin le bound (xs.take half)) (sortWithin le bound (xs.drop half))

/-- The list in ascending order; elements that tie keep their relative order. -/
def sort (le : α → α → Bool) (xs : List α) : List α :=
  sortWithin le xs.length xs

def sortBy (order : α → α → Ordering) (xs : List α) : List α :=
  sort (fun a b => (order a b).isLE) xs

theorem merge_eq (le : α → α → Bool) (xs ys : List α) : merge le xs ys = xs.merge ys le := by
  induction xs generalizing ys with
  | nil => simp [merge]
  | cons x xs ih =>
    induction ys with
    | nil => simp [merge, mergeFrom]
    | cons y ys ihy =>
      have ihy : mergeFrom le x xs (merge le xs) ys = (x :: xs).merge ys le := ihy
      simp only [merge, mergeFrom, List.cons_merge_cons, ih, ihy]

theorem sortWithin_eq (le : α → α → Bool) (bound : Nat) (xs : List α) (h : xs.length ≤ bound) :
    sortWithin le bound xs = xs.mergeSort le := by
  induction bound generalizing xs with
  | zero =>
    have : xs = [] := by simpa using h
    simp [this, sortWithin]
  | succ bound ih =>
    match xs, h with
    | [], _ => simp [sortWithin]
    | [x], _ => simp [sortWithin]
    | x :: y :: xs, h =>
      rw [sortWithin, List.mergeSort]
      · simp only [merge_eq]
        rw [ih _ (by simp only [List.length_take, List.length_cons] at *; omega),
          ih _ (by simp only [List.length_drop, List.length_cons] at *; omega)]
        simp [List.MergeSort.Internal.splitInTwo_fst, List.MergeSort.Internal.splitInTwo_snd]
      · simp
      · simp

theorem sort_eq_mergeSort (le : α → α → Bool) (xs : List α) : sort le xs = xs.mergeSort le :=
  sortWithin_eq le xs.length xs (Nat.le_refl _)

theorem sortBy_perm (order : α → α → Ordering) (xs : List α) : (sortBy order xs).Perm xs := by
  rw [sortBy, sort_eq_mergeSort]
  exact List.mergeSort_perm xs _

end Sorting
end GameShelf
