import GameShelf.Text.Blank
import Mathlib.Data.List.DropRight
/-!
# Trim — texts with no white space at their ends

Trimming gives such a text (`trimmed_trim`), changes none that is one already (`trim_eq_self_iff`), and does not see
white space that is put at an end (`trim_cons_blank`, `trim_concat_blank`).
-/
namespace GameShelf
namespace Text

/-- Neither the first nor the last character is white space. -/
def Trimmed (t : Text) : Prop :=
  (∀ c ∈ t.head?, CharClass.blank.has c = false) ∧ (∀ c ∈ t.getLast?, CharClass.blank.has c = false)

theorem trimEnd_eq_rdropWhile (t : Text) : trimEnd t = t.rdropWhile CharClass.blank.has := rfl

theorem exists_trimEnd_append (t : Text) : ∃ rest, trimEnd t ++ rest = t :=
  List.rdropWhile_prefix _ t

theorem trimStart_suffix (t : Text) : trimStart t <:+ t :=
  List.dropWhile_suffix _

theorem trim_infix (t : Text) : trim t <:+: t := by
  obtain ⟨rest, hrest⟩ := exists_trimEnd_append (trimStart t)
  exact List.IsInfix.trans ⟨[], rest, hrest⟩ (trimStart_suffix t).isInfix

theorem trimmed_trim (t : Text) : Trimmed (trim t) := by
  refine ⟨fun c hc => ?_, fun c hc => ?_⟩
  · obtain ⟨rest, hrest⟩ := exists_trimEnd_append (trimStart t)
    have hhead : (t.dropWhile CharClass.blank.has).head? = some c := by
      rw [← trimStart, ← hrest, List.head?_append, ← trim, Option.mem_def.1 hc]
      rfl
    simpa [hhead] using List.head?_dropWhile_not CharClass.blank.has t
  · have hlast : ((trimStart t).reverse.dropWhile CharClass.blank.has).head? = some c := by
      rw [← List.getLast?_reverse]
      exact hc
    simpa [hlast] using List.head?_dropWhile_not CharClass.blank.has (trimStart t).reverse

theorem trim_eq_self_iff {t : Text} : trim t = t ↔ Trimmed t := by
  refine ⟨fun h => h ▸ trimmed_trim t, fun ⟨hhead, hlast⟩ => ?_⟩
  have hstart : trimStart t = t :=
    List.dropWhile_eq_self_iff.2 fun hl => by simp [hhead _ (List.head?_eq_getElem? ▸ List.getElem?_eq_getElem hl)]
  rw [trim, hstart, trimEnd_eq_rdropWhile]
  exact List.rdropWhile_eq_self_iff.2 fun hl => by simp [hlast _ (List.getLast?_eq_some_getLast hl)]

@[simp] theorem trim_trim (t : Text) : trim (trim t) = trim t :=
  trim_eq_self_iff.2 (trimmed_trim t)

theorem trim_eq_nil_iff {t : Text} : trim t = [] ↔ isBlank t = true := by
  rw [trim, trimEnd_eq_rdropWhile, List.rdropWhile_eq_nil_iff, isBlank, List.all_eq_true]
  constructor
  · intro h
    have hstart : trimStart t = [] := by
      by_contra hne
      obtain ⟨c, rest, hc⟩ := List.exists_cons_of_ne_nil hne
      have hhead := List.head?_dropWhile_not CharClass.blank.has t
      rw [← trimStart, hc] at hhead
      simp [h c (hc ▸ List.mem_cons_self)] at hhead
    exact List.dropWhile_eq_nil_iff.1 hstart
  · exact fun h c hc => h c ((trimStart_suffix t).subset hc)

theorem trim_cons_blank {c : Char} (hc : CharClass.blank.has c = true) (t : Text) : trim (c :: t) = trim t := by
  simp [trim, trimStart, hc]

theorem trim_concat_blank {c : Char} (hc : CharClass.blank.has c = true) (t : Text) : trim (t ++ [c]) = trim t := by
  unfold trim trimStart
  rw [List.dropWhile_append]
  split
  · rename_i hn
    have hn : t.dropWhile CharClass.blank.has = [] := List.isEmpty_iff.1 hn
    rw [hn]
    simp [hc]
  · exact List.rdropWhile_concat_pos _ _ c hc

theorem Trimmed.append {a b : Text} (ha : Trimmed a) (hb : Trimmed b) (hane : a ≠ []) (hbne : b ≠ []) (t : Text) :
    Trimmed (a ++ t ++ b) := by
  refine ⟨fun c hc => ha.1 c ?_, fun c hc => hb.2 c ?_⟩
  · rwa [List.append_assoc, List.head?_append_of_ne_nil _ hane] at hc
  · rwa [List.getLast?_append_of_ne_nil _ hbne] at hc

end Text
end GameShelf
