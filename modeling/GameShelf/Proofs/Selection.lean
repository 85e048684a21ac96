import GameShelf.Selection
/-!
# Selection — what is picked stands together

Whatever its shape, a selection picks the items between two positions of the list, or nothing at all
(`pick_eq_ok_iff`).  Positions count from 1, and both ends are included.
-/
namespace GameShelf
namespace Selection

variable {α : Type} {nameOf : α → Text} {candidates picked : List α} {s : Selection} {first last : Nat}

/-- The first and the last position that a selection picks. -/
def span? (nameOf : α → Text) (candidates : List α) : Selection → Option (Nat × Nat)
  | all => some (1, candidates.length)
  | index i =>
    if 1 ≤ i.toNat ∧ i.toNat ≤ candidates.length then some (i.toNat, i.toNat) else none
  | range i j =>
    if 1 ≤ i.toNat ∧ i.toNat ≤ j.toNat ∧ j.toNat ≤ candidates.length then some (i.toNat, j.toNat) else none
  | name wanted =>
    (candidates.findIdx? fun x => Text.compareFolded (nameOf x) wanted = .eq).map fun k => (k + 1, k + 1)

/-- The items from one position to another. -/
def slice (candidates : List α) (first last : Nat) : List α :=
  (candidates.take last).drop (first - 1)

theorem length_slice (hlast : last ≤ candidates.length) : (slice candidates first last).length = last - (first - 1) := by
  rw [slice, List.length_drop, List.length_take, Nat.min_eq_left hlast]

/-- What is picked, and what stands before and after it. -/
theorem take_append_slice (hfirst : first ≤ last + 1) :
    candidates.take (first - 1) ++ slice candidates first last ++ candidates.drop last = candidates := by
  have htake : candidates.take (first - 1) = (candidates.take last).take (first - 1) := by
    rw [List.take_take, Nat.min_eq_left (by omega)]
  rw [slice, htake, List.take_append_drop, List.take_append_drop]

theorem bounds_of_span? (h : s.span? nameOf candidates = some (first, last)) (hall : s ≠ .all) :
    1 ≤ first ∧ first ≤ last ∧ last ≤ candidates.length := by
  cases s with
  | all => exact absurd rfl hall
  | index i =>
    simp only [span?, Option.ite_none_right_eq_some, Option.some.injEq, Prod.mk.injEq] at h
    omega
  | range i j =>
    simp only [span?, Option.ite_none_right_eq_some, Option.some.injEq, Prod.mk.injEq] at h
    omega
  | name wanted =>
    obtain ⟨k, hk, he⟩ := Option.map_eq_some_iff.1 h
    obtain ⟨hlt, -⟩ := List.findIdx?_eq_some_iff_getElem.1 hk
    simp only [Prod.mk.injEq] at he
    omega

/-- **A selection picks the items of its span**, and picks nothing when it has none. -/
theorem pick_eq_ok_iff : s.pick nameOf candidates = .ok picked ↔
    ∃ ends, s.span? nameOf candidates = some ends ∧ picked = slice candidates ends.1 ends.2 := by
  cases s with
  | all => simp [pick, span?, slice, eq_comm]
  | index i =>
    by_cases hi : 1 ≤ i.toNat ∧ i.toNat ≤ candidates.length
    · have hpick : pick nameOf candidates (.index i) = .ok ((candidates.drop (i.toNat - 1)).take 1) :=
        if_neg (by omega)
      have hone : slice candidates i.toNat i.toNat = (candidates.drop (i.toNat - 1)).take 1 := by
        rw [slice, List.drop_take, show i.toNat - (i.toNat - 1) = 1 by omega]
      simp [hpick, span?, hi, hone, eq_comm]
    · have hpick : pick nameOf candidates (.index i) = .error _ := if_pos (by omega)
      simp [hpick, span?, hi]
  | range i j =>
    by_cases hij : 1 ≤ i.toNat ∧ i.toNat ≤ j.toNat ∧ j.toNat ≤ candidates.length
    · have hpick : pick nameOf candidates (.range i j) = .ok (slice candidates i.toNat j.toNat) :=
        if_neg (by omega)
      simp [hpick, span?, hij, eq_comm]
    · have hpick : pick nameOf candidates (.range i j) = .error _ := if_pos (by omega)
      simp [hpick, span?, hij]
  | name wanted =>
    simp only [pick, span?, List.find?_eq_bind_findIdx?_getElem?]
    cases hk : candidates.findIdx? fun x => Text.compareFolded (nameOf x) wanted = .eq with
    | none => simp
    | some k =>
      obtain ⟨hlt, -⟩ := List.findIdx?_eq_some_iff_getElem.1 hk
      have hone : slice candidates (k + 1) (k + 1) = [candidates[k]] := by
        rw [slice, List.drop_take, Nat.add_sub_cancel, Nat.add_sub_cancel_left, List.drop_eq_getElem_cons hlt]
        rfl
      simp [hone, hlt, eq_comm]

theorem resolve_of_read {token : Text} (h : read token = .ok s) : resolve nameOf candidates token = s.pick nameOf candidates := by
  rw [resolve, h]
  rfl

end Selection
end GameShelf
