import GameShelf.Proofs.Game
import GameShelf.Proofs.Selection
import GameShelf.Shortlist
/-!
# Shortlist edits — no game is chosen twice

An edit inserts or erases what its token picks, and one that fails leaves the list as it was (`add_cases`, `remove_cases`).
A list comes from the empty one by edits with any tokens and any candidates; through all of them no two games in it are the
same (`distinct_of_reachable`).
-/
namespace GameShelf
namespace Shortlist

variable {list next : Shortlist} {g : Game} {candidates picked doomed : List Game} {token : Text} {n : Nat}
  {cause : Selection.Failure}

inductive Edit
  | add (candidates : List Game) (token : Text)
  | remove (token : Text)
  | clear

def step (list : Shortlist) : Edit → Shortlist
  | .add candidates token => (list.add candidates token).1
  | .remove token => (list.remove token).1
  | .clear => empty

def run (edits : List Edit) : Shortlist :=
  edits.foldl step empty

def Reachable (list : Shortlist) : Prop :=
  ∃ edits, run edits = list

/-! ## What an edit does -/

theorem contains_eq_false_iff : list.contains g = false ↔ ∀ x ∈ list.games, x.same g = false := by
  simp [contains]

theorem insert_of_contains (h : list.contains g = true) : list.insert g = list :=
  if_pos h

theorem insert_of_not_contains (h : list.contains g = false) : list.insert g = ⟨list.games ++ [g]⟩ :=
  if_neg (Bool.eq_false_iff.1 h)

theorem add_of_resolve (h : Selection.resolve Game.name candidates token = .ok picked) :
    list.add candidates token = (picked.foldl insert list, .ok ((picked.foldl insert list).count - list.count)) := by
  rw [add, h]

theorem add_of_resolve_error (h : Selection.resolve Game.name candidates token = .error cause) :
    list.add candidates token = (list, .error cause) := by
  rw [add, h]

/-- **An addition inserts what its token picks**, or leaves the list as it was. -/
theorem add_cases (list : Shortlist) (candidates : List Game) (token : Text) :
    (∃ cause, Selection.resolve Game.name candidates token = .error cause ∧
      list.add candidates token = (list, .error cause)) ∨
    ∃ picked, Selection.resolve Game.name candidates token = .ok picked ∧
      list.add candidates token = (picked.foldl insert list, .ok ((picked.foldl insert list).count - list.count)) := by
  cases h : Selection.resolve Game.name candidates token with
  | error cause => exact .inl ⟨cause, rfl, add_of_resolve_error h⟩
  | ok picked => exact .inr ⟨picked, rfl, add_of_resolve h⟩

theorem remove_of_resolve (hall : Selection.read token ≠ .ok .all)
    (hpick : Selection.resolve Game.name list.games token = .ok doomed) :
    list.remove token = (list.erase doomed, .ok (list.count - (list.erase doomed).count)) := by
  cases hread : Selection.read token with
  | error cause =>
    rw [Selection.resolve, hread] at hpick
    cases hpick
  | ok s =>
    rw [Selection.resolve_of_read hread] at hpick
    have hs : ¬ s.isAll = true := fun h => hall (hread.trans (congrArg Except.ok (of_decide_eq_true h)))
    simp only [remove, hread, if_neg hs, hpick]

theorem remove_of_resolve_error (h : Selection.resolve Game.name list.games token = .error cause) :
    list.remove token = (list, .error cause) := by
  cases hread : Selection.read token with
  | error e =>
    rw [Selection.resolve, hread] at h
    cases h
    rw [remove, hread]
  | ok s =>
    rw [Selection.resolve_of_read hread] at h
    have hs : ¬ s.isAll = true := by
      intro hall
      obtain rfl : s = .all := of_decide_eq_true hall
      cases h
    simp only [remove, hread, if_neg hs, h]

/-- **A removal erases what its token picks**, all of the list at once if it is told so, or leaves the list as it was. -/
theorem remove_cases (list : Shortlist) (token : Text) :
    (∃ cause, Selection.resolve Game.name list.games token = .error cause ∧ list.remove token = (list, .error cause)) ∨
    (Selection.read token = .ok .all ∧ list.remove token = (empty, .ok list.count)) ∨
    ∃ doomed, Selection.read token ≠ .ok .all ∧ Selection.resolve Game.name list.games token = .ok doomed ∧
      list.remove token = (list.erase doomed, .ok (list.count - (list.erase doomed).count)) := by
  by_cases hall : Selection.read token = .ok .all
  · exact .inr (.inl ⟨hall, by rw [remove, hall]; rfl⟩)
  · cases h : Selection.resolve Game.name list.games token with
    | error cause => exact .inl ⟨cause, rfl, remove_of_resolve_error h⟩
    | ok doomed => exact .inr (.inr ⟨doomed, hall, rfl, remove_of_resolve hall h⟩)

theorem add_eq_ok (h : list.add candidates token = (next, .ok n)) :
    ∃ picked, Selection.resolve Game.name candidates token = .ok picked ∧ next = picked.foldl insert list ∧
      n = next.count - list.count := by
  obtain ⟨cause, -, hadd⟩ | ⟨picked, hpick, hadd⟩ := add_cases list candidates token
  · cases hadd.symm.trans h
  · cases hadd.symm.trans h
    exact ⟨picked, hpick, rfl, rfl⟩

theorem fst_add_of_error (h : (list.add candidates token).2 = .error cause) : (list.add candidates token).1 = list := by
  obtain ⟨_, -, hadd⟩ | ⟨picked, -, hadd⟩ := add_cases list candidates token
  · rw [hadd]
  · rw [hadd] at h
    cases h

theorem fst_remove_of_error (h : (list.remove token).2 = .error cause) : (list.remove token).1 = list := by
  obtain ⟨_, -, hremove⟩ | ⟨-, hremove⟩ | ⟨doomed, -, -, hremove⟩ := remove_cases list token
  · rw [hremove]
  · rw [hremove] at h
    cases h
  · rw [hremove] at h
    cases h

/-! ## No game twice -/

/-- No two games of the list are the same.  A game with a NaN may stand in it twice: it is the same as no game. -/
def Distinct (list : Shortlist) : Prop :=
  list.games.Pairwise fun a b => a.same b = false

theorem distinct_empty : empty.Distinct :=
  List.Pairwise.nil

theorem distinct_insert (h : list.Distinct) : (list.insert g).Distinct := by
  cases hin : list.contains g with
  | true => rwa [insert_of_contains hin]
  | false =>
    rw [insert_of_not_contains hin]
    have hnew : ∀ x ∈ list.games, x.same g = false := contains_eq_false_iff.1 hin
    refine List.pairwise_append.2 ⟨h, List.pairwise_singleton _ _, fun x hx y hy => ?_⟩
    rw [List.mem_singleton.1 hy]
    exact hnew x hx

theorem distinct_foldl_insert (picked : List Game) (h : list.Distinct) : (picked.foldl insert list).Distinct := by
  induction picked generalizing list with
  | nil => exact h
  | cons g picked ih => exact ih (distinct_insert h)

theorem distinct_erase (doomed : List Game) (h : list.Distinct) : (list.erase doomed).Distinct :=
  List.Pairwise.filter _ h

theorem distinct_step (edit : Edit) (h : list.Distinct) : (list.step edit).Distinct := by
  cases edit with
  | add candidates token =>
    rw [step]
    obtain ⟨cause, -, hadd⟩ | ⟨picked, -, hadd⟩ := add_cases list candidates token
    · rwa [hadd]
    · rw [hadd]
      exact distinct_foldl_insert picked h
  | remove token =>
    rw [step]
    obtain ⟨cause, -, hremove⟩ | ⟨-, hremove⟩ | ⟨doomed, -, -, hremove⟩ := remove_cases list token
    · rwa [hremove]
    · rw [hremove]
      exact distinct_empty
    · rw [hremove]
      exact distinct_erase doomed h
  | clear => exact distinct_empty

theorem distinct_foldl_step (edits : List Edit) (h : list.Distinct) : (edits.foldl step list).Distinct := by
  induction edits generalizing list with
  | nil => exact h
  | cons edit edits ih => exact ih (distinct_step edit h)

/-- **No two games of a list are the same, however it was edited.** -/
theorem distinct_of_reachable (h : list.Reachable) : list.Distinct := by
  obtain ⟨edits, rfl⟩ := h
  exact distinct_foldl_step edits distinct_empty

end Shortlist
end GameShelf
