import GameShelf.Proofs.Shortlist.Additions
import GameShelf.Proofs.SortKey
/-!
# Shortlist names — what the names of a list do not tell

Only equal names tie in the order of names, so the names are settled by which they are (`names_eq_of_perm`).  And which
they are does not depend on the order in which games were inserted, although which of two same games is in the list does:
same games have the same name, and games with a NaN go in as often as they come (`names_foldl_insert_perm`).
-/
namespace GameShelf
namespace Shortlist

open Std (TransCmp LawfulEqCmp)

/-! ## The order of names -/

instance : TransCmp nameOrder :=
  inferInstanceAs (TransCmp (compareLex Text.compareFolded compare))

instance : LawfulEqCmp nameOrder where
  eq_of_compare {a b} h := by
    have hcompare : compare a b = .eq := (Ordering.then_eq_eq.1 h).2
    exact LawfulEqCmp.eq_of_compare hcompare

theorem isLE_nameOrder_iff {a b : Text} :
    (nameOrder a b).isLE ↔
      (Text.compareFolded a b).isLE ∧ (Text.compareFolded a b = .eq → (compare a b).isLE) := by
  rw [nameOrder]
  cases Text.compareFolded a b <;> simp

theorem names_eq_of_perm {list other : Shortlist} (h : (list.games.map Game.name).Perm (other.games.map Game.name)) :
    list.names = other.names :=
  Sorting.sortBy_eq_of_perm h

/-- **The names of a list are canonical.**  They are the names of its games, each as often as games bear it, in ascending
order with case disregarded and by code point where only case differs; so equal names stand together.  There is no other
such list, and so lists that hold the same games have the same names, in whatever order they hold them. -/
theorem names_canonical (list : Shortlist) :
    (list.names.Perm (list.games.map Game.name) ∧
      list.names.Pairwise (fun a b => (Text.compareFolded a b).isLE) ∧
      list.names.Pairwise (fun a b => Text.compareFolded a b = .eq → (compare a b).isLE)) ∧
    (∀ before middle behind name, list.names = before ++ name :: middle ++ name :: behind →
      ∀ other ∈ middle, other = name) ∧
    (∀ names : List Text, names.Perm (list.games.map Game.name) →
      names.Pairwise (fun a b => (Text.compareFolded a b).isLE) →
      names.Pairwise (fun a b => Text.compareFolded a b = .eq → (compare a b).isLE) → names = list.names) ∧
    ∀ other : Shortlist, other.games.Perm list.games → other.names = list.names := by
  have hperm : list.names.Perm (list.games.map Game.name) := Sorting.sortBy_perm nameOrder _
  have hordered : list.names.Pairwise fun a b => (nameOrder a b).isLE := Sorting.pairwise_sortBy _
  refine ⟨⟨hperm, ?_, ?_⟩, fun before middle behind name hnames other hother => ?_, fun names hnames hfolded hcode => ?_,
    fun other hgames => ?_⟩
  · exact hordered.imp fun h => (isLE_nameOrder_iff.1 h).1
  · exact hordered.imp fun h => (isLE_nameOrder_iff.1 h).2
  · rw [hnames] at hordered
    exact Sorting.eq_of_between hordered hother
  · have hboth := (hfolded.and hcode).imp fun h => isLE_nameOrder_iff.2 h
    exact Sorting.eq_of_perm_of_pairwise (hnames.trans hperm.symm) hboth hordered
  · exact names_eq_of_perm (hgames.map Game.name)

/-- A capital with a dot, which lower-cases to two characters, and the two characters: they tie, and the code points
decide. -/
theorem names_canonical_dotted :
    let dotted : Game := .ofName "\u0130".toList 1
    let spelled : Game := .ofName "i\u0307".toList 2
    let go : Game := .ofName "Go".toList 3
    Text.compareFolded dotted.name spelled.name = .eq ∧
    (Shortlist.mk [go, dotted, go, spelled]).names = ["Go".toList, "Go".toList, "i\u0307".toList, "\u0130".toList] ∧
    [spelled, go, dotted, go].Perm [go, dotted, go, spelled] ∧
    (Shortlist.mk [spelled, go, dotted, go]).names = (Shortlist.mk [go, dotted, go, spelled]).names := by
  intro dotted spelled go
  obtain ⟨-, -, hunique, hsame⟩ := names_canonical ⟨[go, dotted, go, spelled]⟩
  have hperm : [spelled, go, dotted, go].Perm [go, dotted, go, spelled] := by decide +kernel
  have hnames := hunique ["Go".toList, "Go".toList, "i\u0307".toList, "\u0130".toList] (by decide +kernel)
    (by decide +kernel) (by decide +kernel)
  exact ⟨by decide +kernel, hnames.symm, hperm, hsame ⟨[spelled, go, dotted, go]⟩ hperm⟩
/-! ## Games inserted one after the other -/

variable {list : Shortlist} {x g : Game} {picked others : List Game}

/-- Inserting games into an empty list takes each of the same games once, the first of them. -/
theorem games_foldl_insert (picked : List Game) : (picked.foldl insert empty).games = picked.eraseDupsBy Game.same := by
  have hloop : ∀ kept : List Game,
      (picked.foldl insert ⟨kept.reverse⟩).games = List.eraseDupsBy.loop Game.same picked kept := by
    induction picked with
    | nil => exact fun kept => rfl
    | cons g picked ih =>
      intro kept
      have hcontains : contains ⟨kept.reverse⟩ g = kept.any (g.same ·) := by
        simp only [contains, List.any_reverse, Game.same_comm g]
      rw [List.foldl_cons, List.eraseDupsBy.loop]
      cases hin : kept.any (g.same ·) with
      | true => rw [insert_of_contains (hcontains.trans hin), ih]
      | false =>
        rw [insert_of_not_contains (hcontains.trans hin), ← List.reverse_cons, ih]
  exact hloop []

theorem mem_foldl_insert (h : x ∈ (picked.foldl insert list).games) : x ∈ list.games ∨ x ∈ picked := by
  induction picked generalizing list with
  | nil => exact .inl h
  | cons g picked ih =>
    rcases ih h with hin | hin
    · cases hg : list.contains g with
      | true => rw [insert_of_contains hg] at hin; exact .inl hin
      | false =>
        rw [insert_of_not_contains hg] at hin
        rcases List.mem_append.1 hin with hin | hin
        · exact .inl hin
        · exact .inr (List.mem_cons.2 (.inl (List.mem_singleton.1 hin)))
    · exact .inr (List.mem_cons_of_mem g hin)

/-- Of the inserted games, all that have a NaN go in, each as often as it comes. -/
theorem filter_hasNaN_foldl_insert (picked : List Game) :
    (picked.foldl insert list).games.filter Game.hasNaN = list.games.filter Game.hasNaN ++ picked.filter Game.hasNaN := by
  induction picked generalizing list with
  | nil => simp
  | cons g picked ih =>
    rw [List.foldl_cons, ih]
    cases hnan : g.hasNaN with
    | true =>
      rw [insert_of_not_contains (contains_of_hasNaN hnan), List.filter_append, List.filter_cons_of_pos hnan,
        List.filter_cons_of_pos hnan]
      simp
    | false =>
      have hinsert : (list.insert g).games.filter Game.hasNaN = list.games.filter Game.hasNaN := by
        unfold insert
        split
        · rfl
        · simp [hnan]
      rw [hinsert, List.filter_cons_of_neg (by simp [hnan])]

/-- What the games without a NaN have in their columns. -/
def numberTraits (games : List Game) : List (Text × List Int64 × Int × Int) :=
  (games.filter fun g => !g.hasNaN).map Game.traits

theorem mem_numberTraits {games : List Game} {t : Text × List Int64 × Int × Int} :
    t ∈ numberTraits games ↔ ∃ g ∈ games, g.hasNaN = false ∧ g.traits = t := by
  simp [numberTraits, and_assoc]

theorem Distinct.nodup_numberTraits (h : list.Distinct) : (numberTraits list.games).Nodup := by
  refine List.pairwise_map.2 (List.Pairwise.imp_of_mem (fun {a b} ha hb hne htraits => ?_) (List.Pairwise.filter _ h))
  have ha : a.hasNaN = false := by simpa using (List.mem_filter.1 ha).2
  have hb : b.hasNaN = false := by simpa using (List.mem_filter.1 hb).2
  rw [Game.same_iff.2 ⟨ha, hb, htraits⟩] at hne
  cases hne

theorem mem_numberTraits_foldl_insert {t : Text × List Int64 × Int × Int} :
    t ∈ numberTraits (picked.foldl insert empty).games ↔ t ∈ numberTraits picked := by
  rw [mem_numberTraits, mem_numberTraits]
  constructor
  · rintro ⟨g, hg, hnan, rfl⟩
    exact ⟨g, (mem_foldl_insert hg).resolve_left List.not_mem_nil, hnan, rfl⟩
  · rintro ⟨g, hg, hnan, rfl⟩
    have hin : (picked.foldl insert empty).contains g = true := by rw [contains_foldl_insert hg, hnan]; rfl
    obtain ⟨x, hx, hsame⟩ := List.any_eq_true.1 hin
    obtain ⟨hxnan, -, htraits⟩ := Game.same_iff.1 hsame
    exact ⟨x, hx, hxnan, htraits⟩

theorem numberTraits_foldl_insert_perm (h : picked.Perm others) :
    (numberTraits (picked.foldl insert empty).games).Perm (numberTraits (others.foldl insert empty).games) := by
  refine (List.perm_ext_iff_of_nodup (distinct_foldl_insert picked distinct_empty).nodup_numberTraits
    (distinct_foldl_insert others distinct_empty).nodup_numberTraits).2 fun t => ?_
  rw [mem_numberTraits_foldl_insert, mem_numberTraits_foldl_insert, mem_numberTraits, mem_numberTraits]
  simp only [h.mem_iff]

/-- The names of games are those of the games with a NaN, and those told by the traits of the others. -/
theorem map_name_perm (games : List Game) :
    (games.map Game.name).Perm ((games.filter Game.hasNaN).map Game.name ++ (numberTraits games).map Prod.fst) := by
  have hnames : (numberTraits games).map Prod.fst = (games.filter fun g => !g.hasNaN).map Game.name := by
    rw [numberTraits, List.map_map]
    rfl
  rw [hnames, ← List.map_append]
  exact (List.filter_append_perm Game.hasNaN games).symm.map _

/-- **The names are the same in whatever order the games were inserted.** -/
theorem names_foldl_insert_perm (h : picked.Perm others) :
    (picked.foldl insert empty).names = (others.foldl insert empty).names := by
  refine names_eq_of_perm ?_
  have hnan : ((picked.foldl insert empty).games.filter Game.hasNaN).Perm
      ((others.foldl insert empty).games.filter Game.hasNaN) := by
    rw [filter_hasNaN_foldl_insert, filter_hasNaN_foldl_insert]
    exact (h.filter _).append_left _
  have htraits := (numberTraits_foldl_insert_perm h).map Prod.fst
  exact (map_name_perm _).trans (((hnan.map _).append htraits).trans (map_name_perm _).symm)

end Shortlist
end GameShelf
