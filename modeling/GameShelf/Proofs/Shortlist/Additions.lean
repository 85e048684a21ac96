import GameShelf.Proofs.Shortlist.Edits
import Mathlib.Data.List.Induction
/-!
# Shortlist additions — what a token adds

A picked game goes behind the list unless it is the same as a game before it, one of those just added included
(`add_eq_ok_iff`).  What has no NaN is then in the list, and is not added again; what has one is the same as no game,
so it is never found there and every addition puts it in once more (`foldl_insert_again`).
-/
namespace GameShelf
namespace Shortlist

variable {list next : Shortlist} {g x : Game} {candidates old picked : List Game} {token : Text} {n : Nat}

/-! ## What is gained -/

/-- What a list gains from the games that were picked, each with its place among them: those that are the same as nothing
before them, neither in the old list nor among the gained. -/
structure Gains (old picked : List Game) (gained : List (Game × Nat)) : Prop where
  in_order : gained.Sublist picked.zipIdx
  mem_iff : ∀ g k, picked[k]? = some g →
    ((g, k) ∈ gained ↔ ∀ x ∈ old ++ (gained.filter (·.2 < k)).map Prod.fst, x.same g = false)

theorem filter_append_last {init last : List (Game × Nat)} {k m : Nat} (hlast : last.Sublist [(g, m)]) (hk : k ≤ m) :
    (init ++ last).filter (·.2 < k) = init.filter (·.2 < k) := by
  have hnone : last.filter (·.2 < k) = [] := List.filter_eq_nil_iff.2 fun e he => by
    rw [List.mem_singleton.1 (hlast.subset he)]
    simpa using hk
  rw [List.filter_append, hnone, List.append_nil]

theorem mem_append_last_iff {init last : List (Game × Nat)} {k m : Nat} (hlast : last.Sublist [(g, m)]) (hk : k < m) :
    (x, k) ∈ init ++ last ↔ (x, k) ∈ init := by
  have hnot : (x, k) ∉ last := by
    intro hin
    have heq : (x, k) = (g, m) := List.mem_singleton.1 (hlast.subset hin)
    exact Nat.ne_of_lt hk (congrArg Prod.snd heq)
  simp [hnot]

/-- One more picked game is gained unless the list then has the same. -/
theorem gains_concat_iff {init last : List (Game × Nat)} (hinit : init.Sublist picked.zipIdx)
    (hlast : last.Sublist [(g, picked.length)]) :
    Gains old (picked ++ [g]) (init ++ last) ↔
      Gains old picked init ∧ ((g, picked.length) ∈ last ↔ ∀ x ∈ old ++ init.map Prod.fst, x.same g = false) := by
  have hlt : ∀ e ∈ init, e.2 < picked.length := fun e he => List.snd_lt_of_mem_zipIdx (hinit.subset he)
  have hall : (init ++ last).filter (·.2 < picked.length) = init := by
    rw [filter_append_last hlast (Nat.le_refl _)]
    exact List.filter_eq_self.2 fun e he => by simpa using hlt e he
  have hnew : (g, picked.length) ∈ init ++ last ↔ (g, picked.length) ∈ last := by
    have hnot : (g, picked.length) ∉ init := fun hin => Nat.lt_irrefl _ (hlt _ hin)
    simp [hnot]
  have hmid : (picked ++ [g])[picked.length]? = some g := by simp
  constructor
  · intro h
    refine ⟨⟨hinit, fun x k hk => ?_⟩, ?_⟩
    · -- an earlier pick does not see the last one, in what is gained or before it
      have hlt : k < picked.length := (List.getElem?_eq_some_iff.1 hk).1
      have hk' : (picked ++ [g])[k]? = some x := by rwa [List.getElem?_append_left hlt]
      rw [← mem_append_last_iff hlast hlt, h.mem_iff x k hk', filter_append_last hlast (Nat.le_of_lt hlt)]
    · rw [← hnew, h.mem_iff g _ hmid, hall]
  · rintro ⟨h, hg⟩
    refine ⟨?_, fun x k hk => ?_⟩
    · rw [List.zipIdx_append, Nat.zero_add]
      exact hinit.append hlast
    · rcases Nat.lt_or_ge k picked.length with hlt | hge
      · rw [List.getElem?_append_left hlt] at hk
        rw [mem_append_last_iff hlast hlt, h.mem_iff x k hk, filter_append_last hlast (Nat.le_of_lt hlt)]
      · obtain ⟨hbound, -⟩ := List.getElem?_eq_some_iff.1 hk
        rw [List.length_append, List.length_singleton] at hbound
        obtain rfl : k = picked.length := by omega
        obtain rfl : g = x := Option.some.inj (hmid.symm.trans hk)
        rw [hnew, hg, hall]

theorem exists_gains (old picked : List Game) : ∃ gained, Gains old picked gained := by
  -- from the end: whether the last pick is gained depends on what the others gave
  induction picked using List.reverseRecOn with
  | nil => exact ⟨[], List.nil_sublist _, fun g k hk => by simp at hk⟩
  | append_singleton picked g ih =>
    obtain ⟨init, hinit⟩ := ih
    by_cases hnew : ∀ x ∈ old ++ init.map Prod.fst, x.same g = false
    · exact ⟨init ++ [(g, picked.length)],
        (gains_concat_iff hinit.in_order (List.Sublist.refl _)).2 ⟨hinit, by simpa using hnew⟩⟩
    · exact ⟨init ++ [], (gains_concat_iff hinit.in_order (List.nil_sublist _)).2 ⟨hinit, by simpa using hnew⟩⟩

/-- **Inserting games one after the other puts what is gained behind the list.** -/
theorem Gains.foldl_insert {gained : List (Game × Nat)} (h : Gains list.games picked gained) :
    picked.foldl insert list = ⟨list.games ++ gained.map Prod.fst⟩ := by
  induction picked using List.reverseRecOn generalizing gained with
  | nil =>
    have hnil : gained = [] := List.sublist_nil.1 h.in_order
    rw [hnil, List.map_nil, List.append_nil, List.foldl_nil]
  | append_singleton picked g ih =>
    have horder := h.in_order
    rw [List.zipIdx_append, Nat.zero_add] at horder
    obtain ⟨init, last, rfl, hinit, hlast⟩ := List.sublist_append_iff.1 horder
    obtain ⟨hgains, hnew⟩ := (gains_concat_iff hinit hlast).1 h
    rw [List.foldl_append, List.foldl_cons, List.foldl_nil, ih hgains]
    rcases List.sublist_cons_iff.1 hlast with hnil | ⟨rest, hrest, hnil⟩
    · obtain rfl : last = [] := List.sublist_nil.1 hnil
      have hin : contains ⟨list.games ++ init.map Prod.fst⟩ g = true := by
        by_contra hout
        exact List.not_mem_nil (hnew.2 (contains_eq_false_iff.1 (Bool.eq_false_iff.2 hout)))
      rw [insert_of_contains hin, List.append_nil]
    · obtain rfl : rest = [] := List.sublist_nil.1 hnil
      subst hrest
      have hout : contains ⟨list.games ++ init.map Prod.fst⟩ g = false :=
        contains_eq_false_iff.2 (hnew.1 List.mem_cons_self)
      rw [insert_of_not_contains hout, List.map_append, List.append_assoc]
      rfl

/-- **An addition succeeds when its token means something, and appends exactly what is gained.** -/
theorem add_eq_ok_iff : list.add candidates token = (next, .ok n) ↔
    ∃ picked gained, Selection.resolve Game.name candidates token = .ok picked ∧ Gains list.games picked gained ∧
      next.games = list.games ++ gained.map Prod.fst ∧ n = gained.length := by
  constructor
  · intro h
    obtain ⟨picked, hpick, rfl, rfl⟩ := add_eq_ok h
    obtain ⟨gained, hgains⟩ := exists_gains list.games picked
    rw [hgains.foldl_insert]
    exact ⟨picked, gained, hpick, hgains, rfl, by simp [count]⟩
  · rintro ⟨picked, gained, hpick, hgains, hnext, rfl⟩
    obtain rfl : next = ⟨list.games ++ gained.map Prod.fst⟩ := by cases next; exact congrArg _ hnext
    rw [add_of_resolve hpick, hgains.foldl_insert]
    simp [count]

/-! ## Adding again -/

theorem contains_of_hasNaN (h : g.hasNaN = true) : list.contains g = false :=
  contains_eq_false_iff.2 fun x _ => Game.same_of_hasNaN h x

theorem contains_insert_mono (g : Game) (h : list.contains x = true) : (list.insert g).contains x = true := by
  cases hin : list.contains g with
  | true => rwa [insert_of_contains hin]
  | false =>
    rw [insert_of_not_contains hin]
    simp only [contains, List.any_append, Bool.or_eq_true] at h ⊢
    exact .inl h

theorem contains_insert_self (h : g.hasNaN = false) : (list.insert g).contains g = true := by
  cases hin : list.contains g with
  | true => rwa [insert_of_contains hin]
  | false =>
    rw [insert_of_not_contains hin]
    have hself : g.same g = true := by rw [Game.same_self, h]; rfl
    simp [contains, hself]

theorem contains_foldl_insert_mono (picked : List Game) (h : list.contains x = true) :
    (picked.foldl insert list).contains x = true := by
  induction picked generalizing list with
  | nil => exact h
  | cons g picked ih => exact ih (contains_insert_mono g h)

/-- **Of the games inserted, the list then contains those without a NaN.** -/
theorem contains_foldl_insert (hg : g ∈ picked) : (picked.foldl insert list).contains g = !g.hasNaN := by
  cases hnan : g.hasNaN with
  | true => exact contains_of_hasNaN hnan
  | false =>
    obtain ⟨before, after, rfl⟩ := List.append_of_mem hg
    rw [List.foldl_append, List.foldl_cons]
    exact contains_foldl_insert_mono after (contains_insert_self hnan)

/-- Inserting games of which a list contains all it can puts those with a NaN behind it. -/
theorem foldl_insert_again (h : ∀ g ∈ picked, list.contains g = !g.hasNaN) :
    picked.foldl insert list = ⟨list.games ++ picked.filter Game.hasNaN⟩ := by
  induction picked generalizing list with
  | nil => simp
  | cons g picked ih =>
    have hg : list.contains g = !g.hasNaN := h g List.mem_cons_self
    have hrest : ∀ x ∈ picked, list.contains x = !x.hasNaN := fun x hx => h x (List.mem_cons_of_mem g hx)
    rw [List.foldl_cons]
    cases hnan : g.hasNaN with
    | false =>
      rw [hnan] at hg
      rw [insert_of_contains hg, ih hrest, List.filter_cons_of_neg (by simp [hnan])]
    | true =>
      rw [hnan] at hg
      have hnext : ∀ x ∈ picked, (list.insert g).contains x = !x.hasNaN := by
        intro x hx
        cases hx' : x.hasNaN with
        | true => exact contains_of_hasNaN hx'
        | false => exact contains_insert_mono g (by rw [hrest x hx, hx']; rfl)
      rw [ih hnext, insert_of_not_contains hg, List.filter_cons_of_pos hnan, List.append_assoc]
      rfl

theorem Distinct.nodup (h : list.Distinct) : (list.games.filter fun g => !g.hasNaN).Nodup := by
  refine List.Pairwise.imp_of_mem (fun {a b} ha _ hne hab => ?_) (List.Pairwise.filter _ h)
  have ha : (!a.hasNaN) = true := (List.mem_filter.1 ha).2
  rw [← hab, Game.same_self, ha] at hne
  cases hne

/-- **Adding a second time adds the picked games with a NaN once more, and nothing else.**  So what a token adds is in the
list, and adding it again changes nothing, exactly when none of it has a NaN. -/
theorem add_again (hreach : list.Reachable) (hadd : list.add candidates token = (next, .ok n)) :
    ∃ picked, Selection.resolve Game.name candidates token = .ok picked ∧
      (∀ g ∈ picked, next.contains g = !g.hasNaN) ∧
      next.add candidates token = (⟨next.games ++ picked.filter Game.hasNaN⟩, .ok (picked.countP Game.hasNaN)) ∧
      (next.games.filter fun g => !g.hasNaN).Nodup ∧
      ((∀ g ∈ picked, next.contains g = true) ∧ next.add candidates token = (next, .ok 0) ↔
        ∀ g ∈ picked, g.hasNaN = false) := by
  obtain ⟨picked, hpick, rfl, -⟩ := add_eq_ok hadd
  have hcontains : ∀ g ∈ picked, (picked.foldl insert list).contains g = !g.hasNaN := fun g hg =>
    contains_foldl_insert hg
  have hagain : (picked.foldl insert list).add candidates token =
      (⟨(picked.foldl insert list).games ++ picked.filter Game.hasNaN⟩, .ok (picked.countP Game.hasNaN)) := by
    rw [add_of_resolve hpick, foldl_insert_again hcontains, List.countP_eq_length_filter]
    simp [count]
  refine ⟨picked, hpick, hcontains, hagain, ?_, ?_⟩
  · exact (distinct_foldl_insert picked (distinct_of_reachable hreach)).nodup
  · constructor
    · rintro ⟨hall, -⟩ g hg
      have hg' := hcontains g hg
      rw [hall g hg] at hg'
      simpa using hg'
    · intro hnone
      have hnil : picked.filter Game.hasNaN = [] := List.filter_eq_nil_iff.2 fun g hg => by simp [hnone g hg]
      refine ⟨fun g hg => by rw [hcontains g hg, hnone g hg]; rfl, ?_⟩
      rw [hagain, List.countP_eq_length_filter, hnil, List.append_nil]
      rfl

/-- A game of which the list has an equal record, with the other zero, and a new one that the candidates hold twice: the
second time there is nothing to add. -/
theorem add_again_all :
    let flat : Game := { Game.ofName "Go".toList 1 with rating := .ofSignMagnitude true 0 }
    let shelf := [flat, .ofName "Chess".toList 7, .ofName "Chess".toList 7]
    let list := run [.add [.ofName "Go".toList 1] "1".toList]
    let next : Shortlist := ⟨[.ofName "Go".toList 1, .ofName "Chess".toList 7]⟩
    list.Reachable ∧ list.add shelf "all".toList = (next, .ok 1) ∧ (∀ g ∈ shelf, g.hasNaN = false) ∧
      (∀ g ∈ shelf, next.contains g = true) ∧ next.add shelf "all".toList = (next, .ok 0) := by
  intro flat shelf list next
  have hreach : list.Reachable := ⟨_, rfl⟩
  have hall : Selection.resolve Game.name shelf "all".toList = .ok shelf := rfl
  have hfold : shelf.foldl insert list = next := by decide +kernel
  have hadd : list.add shelf "all".toList = (next, .ok 1) := by
    rw [add_of_resolve hall, hfold]
    rfl
  have hnone : ∀ g ∈ shelf, g.hasNaN = false := by decide +kernel
  obtain ⟨picked, hpick, -, -, -, hiff⟩ := add_again hreach hadd
  obtain rfl : shelf = picked := Except.ok.inj (hall.symm.trans hpick)
  exact ⟨hreach, hadd, hnone, hiff.2 hnone⟩

/-- Not every game that was added is contained, nor is every second addition without effect: a game with a NaN is added
once more. -/
theorem add_twice_fails :
    let odd : Game := { Game.ofName "Odd".toList 9 with rating := .ofSignMagnitude false Binary64.quietNaN }
    let list := run [.add [odd] "1".toList]
    list = ⟨[odd]⟩ ∧ list.Reachable ∧ Selection.resolve Game.name [odd] "1".toList = .ok [odd] ∧
    list.contains odd = false ∧ list.add [odd] "1".toList = (⟨[odd, odd]⟩, .ok 1) ∧
    list.add [odd] "1".toList ≠ (list, .ok 0) := by
  intro odd list
  have hadd : list.add [odd] "1".toList = (⟨[odd, odd]⟩, .ok 1) := rfl
  refine ⟨rfl, ⟨_, rfl⟩, rfl, rfl, hadd, ?_⟩
  rw [hadd]
  simp

end Shortlist
end GameShelf
