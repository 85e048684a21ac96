import GameShelf.Sorting
import Mathlib.Data.List.Forall2
/-!
# Stability — what a stable sort is, apart from how it is computed

A sorted list is settled by its ties: two lists in order are equal once every element has the same ties in both, in the
same order (`eq_of_ties`).  Stable sorting changes no such list of ties (`ties_sortBy`), so it commutes with leaving
elements out (`filter_sortBy`), whatever ties there are.  Sorting by one order after another is sorting by both
(`sortBy_sortBy_eq_compareLex`).  Turning a sorted list round turns its ties round, and sorting it and turning it round
once more turns them back (`sortBy_reverse_sortBy`).
-/
namespace GameShelf
namespace Sorting

open Std (TransCmp OrientedCmp ReflCmp LawfulEqCmp)

variable {α : Type} {order : α → α → Ordering}

/-- The elements of a list that tie with `a`, in their order there. -/
def ties (order : α → α → Ordering) (a : α) (xs : List α) : List α :=
  xs.filter fun b => order a b = .eq

theorem mem_ties {a b : α} {xs : List α} : b ∈ ties order a xs ↔ b ∈ xs ∧ order a b = .eq := by
  simp [ties]

theorem ties_filter (a : α) (p : α → Bool) (xs : List α) : ties order a (xs.filter p) = (ties order a xs).filter p := by
  simp only [ties, List.filter_filter, Bool.and_comm]

theorem ties_reverse (a : α) (xs : List α) : ties order a xs.reverse = (ties order a xs).reverse :=
  List.filter_reverse

theorem sortBy_of_pairwise {xs : List α} (h : xs.Pairwise fun a b => (order a b).isLE) : sortBy order xs = xs := by
  rw [sortBy, sort_eq_mergeSort, List.mergeSort_of_pairwise h]

theorem map_sortBy {β : Type} (trait : β → α) (xs : List β) :
    (sortBy (fun a b => order (trait a) (trait b)) xs).map trait = sortBy order (xs.map trait) := by
  simp only [sortBy, sort_eq_mergeSort]
  exact List.map_mergeSort fun _ _ _ _ => rfl

section Preorder

variable [TransCmp order]

theorem order_self (a : α) : order a a = .eq := ReflCmp.compare_self

theorem isLE_total (a b : α) : ((order a b).isLE || (order b a).isLE) = true := by
  cases h : order a b with
  | lt | eq => rfl
  | gt => simp [OrientedCmp.lt_of_gt h]

theorem pairwise_sortBy (xs : List α) : (sortBy order xs).Pairwise fun a b => (order a b).isLE := by
  rw [sortBy, sort_eq_mergeSort]
  exact List.pairwise_mergeSort (fun _ _ _ => TransCmp.isLE_trans) isLE_total xs

theorem pairwise_ties (a : α) (xs : List α) : (ties order a xs).Pairwise fun b c => (order b c).isLE :=
  List.pairwise_of_forall_mem_list fun b hb c hc => by
    have hbc : order b c = .eq := TransCmp.eq_trans (OrientedCmp.eq_symm (mem_ties.1 hb).2) (mem_ties.1 hc).2
    rw [hbc]
    rfl

/-- **Elements that tie keep their relative order.** -/
theorem ties_sortBy (a : α) (xs : List α) : ties order a (sortBy order xs) = ties order a xs := by
  have hperm : (ties order a (sortBy order xs)).Perm (ties order a xs) := (sortBy_perm order xs).filter _
  have hsub : (ties order a xs).Sublist (sortBy order xs) := by
    rw [sortBy, sort_eq_mergeSort]
    exact List.sublist_mergeSort (fun _ _ _ => TransCmp.isLE_trans) isLE_total (pairwise_ties a xs) List.filter_sublist
  have hsub' : (ties order a xs).Sublist (ties order a (sortBy order xs)) := by
    have h := hsub.filter fun b => decide (order a b = .eq)
    rwa [show (ties order a xs).filter (fun b => decide (order a b = .eq)) = ties order a xs from by
      simp [ties, List.filter_filter]] at h
  exact (hsub'.eq_of_length hperm.length_eq.symm).symm

/-- Among elements that tie, what held between an earlier and a later one still does. -/
theorem pairwise_sortBy_of_pairwise {R : α → α → Prop} {xs : List α} (h : xs.Pairwise R) :
    (sortBy order xs).Pairwise fun a b => order a b = .lt ∨ order a b = .eq ∧ R a b := by
  refine List.pairwise_iff_forall_sublist.2 fun {a b} hab => ?_
  have hle : (order a b).isLE := List.pairwise_iff_forall_sublist.1 (pairwise_sortBy xs) hab
  refine (Ordering.isLE_iff_eq_lt_or_eq_eq.1 hle).imp_right fun htie => ⟨htie, ?_⟩
  have hties : (ties order a [a, b]).Sublist (ties order a (sortBy order xs)) := hab.filter _
  have hboth : ties order a [a, b] = [a, b] := by simp [ties, order_self, htie]
  rw [hboth, ties_sortBy] at hties
  exact List.pairwise_iff_forall_sublist.1 h (hties.trans List.filter_sublist)

theorem isLE_head {x y : α} {xs ys : List α} (hys : (y :: ys).Pairwise fun a b => (order a b).isLE)
    (h : (ties order x (x :: xs)).length = (ties order x (y :: ys)).length) : (order y x).isLE := by
  have hx : x ∈ ties order x (x :: xs) := mem_ties.2 ⟨List.mem_cons_self, order_self x⟩
  obtain ⟨z, hz⟩ := List.exists_mem_of_length_pos (h ▸ List.length_pos_of_mem hx)
  obtain ⟨hz, hxz⟩ := mem_ties.1 hz
  have hzx : (order z x).isLE := by simp [OrientedCmp.eq_symm hxz]
  rcases List.mem_cons.1 hz with rfl | hz
  · exact hzx
  · exact TransCmp.isLE_trans (List.rel_of_pairwise_cons hys hz) hzx

/-- **Two lists in order tie place by place**, if every element has as many ties in the one as in the other. -/
theorem forall₂_of_pairwise : ∀ {xs ys : List α}, xs.Pairwise (fun a b => (order a b).isLE) →
    ys.Pairwise (fun a b => (order a b).isLE) → (∀ a, (ties order a xs).length = (ties order a ys).length) →
    List.Forall₂ (fun a b => order a b = .eq) xs ys
  | [], [], _, _, _ => .nil
  | [], y :: ys, _, _, h => by simpa [ties, order_self] using h y
  | x :: xs, [], _, _, h => by simpa [ties, order_self] using h x
  | x :: xs, y :: ys, hxs, hys, h => by
    have hxy : order x y = .eq := OrientedCmp.isLE_antisymm (isLE_head hxs (h y).symm) (isLE_head hys (h x))
    refine .cons hxy (forall₂_of_pairwise hxs.of_cons hys.of_cons fun a => ?_)
    have ha := h a
    have hboth : order a x = order a y := TransCmp.congr_right hxy
    simp only [ties, List.filter_cons, hboth] at ha ⊢
    split at ha
    · exact Nat.succ.inj ha
    · exact ha

/-- **Two lists with the same ties are the same list**, if both tie place by place with a third. -/
theorem eq_of_forall₂ : ∀ {zs xs ys : List α}, List.Forall₂ (fun a b => order a b = .eq) zs xs →
    List.Forall₂ (fun a b => order a b = .eq) zs ys → (∀ a, ties order a xs = ties order a ys) → xs = ys
  | _, _, _, .nil, .nil, _ => rfl
  | z :: zs, x :: xs, y :: ys, .cons hx hxs, .cons hy hys, h => by
    have hxy : order x y = .eq := TransCmp.eq_trans (OrientedCmp.eq_symm hx) hy
    obtain rfl : x = y := by
      have hx := h x
      simp only [ties, List.filter_cons, order_self, hxy, decide_true, if_true,
        List.cons.injEq] at hx
      exact hx.1
    refine congrArg (x :: ·) (eq_of_forall₂ hxs hys fun a => ?_)
    have ha := h a
    simp only [ties, List.filter_cons] at ha ⊢
    split at ha
    · exact (List.cons.inj ha).2
    · exact ha

/-- **Two lists in order with the same ties are the same list.** -/
theorem eq_of_ties {xs ys : List α} (hxs : xs.Pairwise fun a b => (order a b).isLE)
    (hys : ys.Pairwise fun a b => (order a b).isLE) (h : ∀ a, ties order a xs = ties order a ys) : xs = ys :=
  eq_of_forall₂ (forall₂_of_pairwise hxs hxs fun _ => rfl) (forall₂_of_pairwise hxs hys fun a => by rw [h a]) h

/-- **Leaving elements out and sorting commute.** -/
theorem filter_sortBy (p : α → Bool) (xs : List α) : (sortBy order xs).filter p = sortBy order (xs.filter p) := by
  refine eq_of_ties ((pairwise_sortBy xs).filter p) (pairwise_sortBy _) fun a => ?_
  calc ties order a ((sortBy order xs).filter p)
      = (ties order a xs).filter p := by rw [ties_filter, ties_sortBy]
    _ = ties order a (sortBy order (xs.filter p)) := by rw [ties_sortBy, ties_filter]

/-- A stable sort depends on nothing but the ties. -/
theorem sortBy_congr {xs ys : List α} (h : ∀ a, ties order a xs = ties order a ys) :
    sortBy order xs = sortBy order ys :=
  eq_of_ties (pairwise_sortBy xs) (pairwise_sortBy ys) fun a => by rw [ties_sortBy, ties_sortBy, h a]

theorem sortBy_sortBy (xs : List α) : sortBy order (sortBy order xs) = sortBy order xs :=
  sortBy_of_pairwise (pairwise_sortBy xs)

section Lawful

variable [LawfulEqCmp order] {xs ys : List α}

/-- **Where only equal elements tie, a list in order is settled by what it holds.** -/
theorem eq_of_perm_of_pairwise (h : xs.Perm ys) (hxs : xs.Pairwise fun a b => (order a b).isLE)
    (hys : ys.Pairwise fun a b => (order a b).isLE) : xs = ys := by
  refine List.Perm.eq_of_pairwise (fun a b _ _ hab hba => ?_) hxs hys h
  exact LawfulEqCmp.eq_of_compare (OrientedCmp.isLE_antisymm hab hba)

theorem sortBy_eq_of_perm (h : xs.Perm ys) : sortBy order xs = sortBy order ys :=
  eq_of_perm_of_pairwise ((sortBy_perm order xs).trans (h.trans (sortBy_perm order ys).symm)) (pairwise_sortBy xs)
    (pairwise_sortBy ys)

/-- In a list in order, nothing stands between equal elements but elements equal to them. -/
theorem eq_of_between {before middle behind : List α} {a b : α}
    (h : (before ++ a :: middle ++ a :: behind).Pairwise fun a b => (order a b).isLE) (hb : b ∈ middle) : b = a := by
  obtain ⟨hfront, -, hcross⟩ := List.pairwise_append.1 h
  obtain ⟨-, hmiddle, -⟩ := List.pairwise_append.1 hfront
  have hab : (order a b).isLE := List.rel_of_pairwise_cons hmiddle hb
  have hba : (order b a).isLE :=
    hcross b (List.mem_append_right before (List.mem_cons_of_mem a hb)) a List.mem_cons_self
  exact LawfulEqCmp.eq_of_compare (OrientedCmp.isLE_antisymm hba hab)

end Lawful

end Preorder

/-! ## Two orders -/

section Lexicographic

variable {first second : α → α → Ordering}

theorem ties_compareLex (a : α) (xs : List α) :
    ties (compareLex first second) a xs = ties second a (ties first a xs) := by
  simp only [ties, List.filter_filter]
  refine List.filter_congr fun b _ => ?_
  simp [compareLex, Ordering.then_eq_eq, Bool.and_comm]

variable [TransCmp first] [TransCmp second]

/-- **Sorting by a second order and then by a first one is one sort**, by the first and among its ties by the second. -/
theorem sortBy_sortBy_eq_compareLex (xs : List α) :
    sortBy first (sortBy second xs) = sortBy (compareLex first second) xs := by
  have hsorted : (sortBy first (sortBy second xs)).Pairwise fun a b => (compareLex first second a b).isLE := by
    refine (pairwise_sortBy_of_pairwise (pairwise_sortBy xs)).imp fun {a b} hab => ?_
    rcases hab with hlt | ⟨heq, hle⟩
    · simp [compareLex, hlt]
    · simpa [compareLex, heq] using hle
  refine eq_of_ties hsorted (pairwise_sortBy xs) fun a => ?_
  calc ties (compareLex first second) a (sortBy first (sortBy second xs))
      = ties second a (ties first a (sortBy second xs)) := by rw [ties_compareLex, ties_sortBy]
    _ = ties first a (ties second a xs) := by rw [ties, ← ties_filter, ← ties, ties_sortBy]
    _ = ties (compareLex first second) a (sortBy (compareLex first second) xs) := by
      rw [ties_sortBy, ties_compareLex, ties, ← ties_filter, ← ties]

end Lexicographic

/-! ## Ties turned round -/

/-- The second list is the first with its ties turned round: place by place the two tie, and what ties stands in the
reverse order. -/
structure TiesTurned (order : α → α → Ordering) (xs ys : List α) : Prop where
  places : List.Forall₂ (fun a b => order a b = .eq) xs ys
  turned : ∀ a, ties order a ys = (ties order a xs).reverse

section Turning

variable [TransCmp order]

theorem ties_reverse_sortBy (a : α) (xs : List α) :
    ties order a (sortBy order xs).reverse = (ties order a xs).reverse := by
  rw [ties_reverse, ties_sortBy]

theorem TiesTurned.unique {xs ys zs : List α} (hys : TiesTurned order xs ys) (hzs : TiesTurned order xs zs) : ys = zs :=
  eq_of_forall₂ hys.places hzs.places fun a => (hys.turned a).trans (hzs.turned a).symm

/-- **Sorting a descending list in descending order again turns its ties round**, and nothing else. -/
theorem tiesTurned_reverse_sortBy (xs : List α) :
    TiesTurned order (sortBy order xs).reverse (sortBy order (sortBy order xs).reverse).reverse where
  places := by
    refine List.rel_reverse (forall₂_of_pairwise (pairwise_sortBy _) (pairwise_sortBy _) fun a => ?_)
    rw [ties_sortBy, ties_sortBy, ties_reverse_sortBy, List.length_reverse]
  turned a := ties_reverse_sortBy a _

/-- Turned round twice, the ties stand as they did. -/
theorem sortBy_reverse_sortBy (xs : List α) :
    sortBy order (sortBy order (sortBy order xs).reverse).reverse = sortBy order xs :=
  sortBy_congr fun a => by rw [ties_reverse_sortBy, ties_reverse_sortBy, List.reverse_reverse]

end Turning

end Sorting
end GameShelf
