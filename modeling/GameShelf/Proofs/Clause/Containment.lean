import GameShelf.Clause
import GameShelf.Proofs.Text.LowerCase
/-!
# Containment — a clause `name ~= v` beside `name == v`

The two operators disregard case in two ways: `==` folds each character by itself, `~=` lower-cases the name and the literal
as wholes.  So a name can be equal to a literal, or hold it to the letter, and not contain it.  Both happen where a capital
sigma ends a word of the one and not of the other, and nowhere else (`contains_of_sigmasAgree`).
-/
namespace GameShelf
namespace Clause

open Text (fold lower SigmasAgree)

variable {g : Game} {v : Text}

theorem admits_equal_iff : (⟨.name, .equal, v⟩ : Clause).admits g = true ↔ fold g.name = fold v := by
  rw [← Text.compareFolded_eq_iff]
  exact decide_eq_true_iff

theorem admits_contains_iff : (⟨.name, .contains, v⟩ : Clause).admits g = true ↔ lower v <:+: lower g.name :=
  Text.contains_iff

/-- Where no capital sigma is written, a name contains a literal exactly if, but for case, the literal stands in it. -/
theorem admits_contains_iff_fold (hname : 'Σ' ∉ g.name) (hv : 'Σ' ∉ v) :
    (⟨.name, .contains, v⟩ : Clause).admits g = true ↔ fold v <:+: fold g.name := by
  rw [admits_contains_iff, Text.lower_eq_fold hname, Text.lower_eq_fold hv]

/-- **A name contains what it is equal to, and every piece of it in whatever case, where the final sigmas agree.**  For
equality this is the exact condition.  For a piece it is exact at the place where the piece stands, and where neither text
has a final sigma written the name contains the literal at no other place. -/
theorem contains_of_sigmasAgree (g : Game) (v : Text) :
    ((⟨.name, .equal, v⟩ : Clause).admits g = true →
      ((⟨.name, .contains, v⟩ : Clause).admits g = true ↔ SigmasAgree g.name v 0)) ∧
    (∀ a w b, g.name = a ++ w ++ b → fold w = fold v →
      (lower v <+: (lower g.name).drop (fold a).length ↔ SigmasAgree g.name v (fold a).length) ∧
      (SigmasAgree g.name v (fold a).length → (⟨.name, .contains, v⟩ : Clause).admits g = true)) ∧
    ('ς' ∉ g.name → 'ς' ∉ v →
      ((⟨.name, .contains, v⟩ : Clause).admits g = true ↔
        ∃ m, fold v <+: (fold g.name).drop m ∧ SigmasAgree g.name v m)) := by
  refine ⟨fun hequal => ?_, fun a w b hname hw => ?_, fun hname hv => ?_⟩
  · rw [admits_contains_iff]
    exact Text.lower_infix_iff_of_fold_eq (admits_equal_iff.1 hequal)
  · have hpiece : fold v <+: (fold g.name).drop (fold a).length := by
      rw [hname, ← hw]
      exact Text.fold_prefix_drop a w b
    have hplace := Text.lower_prefix_drop_iff hpiece
    refine ⟨hplace, fun hagree => ?_⟩
    rw [admits_contains_iff, Text.infix_iff_prefix_drop]
    exact ⟨_, hplace.2 hagree⟩
  · rw [admits_contains_iff]
    exact Text.lower_infix_iff hname hv

theorem contains_of_sigmasAgree_wise :
    let wise : Game := .ofName "ΣΟΦΟΣ".toList 1
    let verse : Game := .ofName "Ο ΣΟΦΟΣ ΗΡΘΕ".toList 2
    let v : Text := "σΟΦΟΣ".toList
    (⟨.name, .equal, v⟩ : Clause).admits wise = true ∧ SigmasAgree wise.name v 0 ∧
    (⟨.name, .contains, v⟩ : Clause).admits wise = true ∧
    verse.name = "Ο ".toList ++ "ΣΟΦΟΣ".toList ++ " ΗΡΘΕ".toList ∧ fold "ΣΟΦΟΣ".toList = fold v ∧
    SigmasAgree verse.name v (fold "Ο ".toList).length ∧ (⟨.name, .contains, v⟩ : Clause).admits verse = true ∧
    ('ς' ∉ verse.name ∧ 'ς' ∉ v) ∧ ∃ m, fold v <+: (fold verse.name).drop m ∧ SigmasAgree verse.name v m := by
  intro wise verse v
  have hequal : (⟨.name, .equal, v⟩ : Clause).admits wise = true := by decide +kernel
  have hwise : SigmasAgree wise.name v 0 := by decide +kernel
  have hfold : fold "ΣΟΦΟΣ".toList = fold v := by decide +kernel
  have hverse : SigmasAgree verse.name v (fold "Ο ".toList).length := by decide +kernel
  have hwritten : 'ς' ∉ verse.name ∧ 'ς' ∉ v := by decide
  have hpiece : verse.name = "Ο ".toList ++ "ΣΟΦΟΣ".toList ++ " ΗΡΘΕ".toList := by decide +kernel
  have hwiseAdmits := ((contains_of_sigmasAgree wise v).1 hequal).2 hwise
  have hverseAdmits := ((contains_of_sigmasAgree verse v).2.1 _ _ _ hpiece hfold).2 hverse
  have hplace := ((contains_of_sigmasAgree verse v).2.2 hwritten.1 hwritten.2).1 hverseAdmits
  exact ⟨hequal, hwise, hwiseAdmits, hpiece, hfold, hverse, hverseAdmits, hwritten, hplace⟩

/-- A name need not contain a literal it is equal to, nor one that stands in it to the letter. -/
theorem contains_of_sigmasAgree_fails :
    let road : Game := .ofName "ΟΔΟΣ".toList 1
    let odyssey : Game := .ofName "ΟΔΥΣΣΕΙΑ".toList 2
    ((⟨.name, .equal, "οδοσ".toList⟩ : Clause).admits road = true ∧
      (⟨.name, .contains, "οδοσ".toList⟩ : Clause).admits road = false) ∧
    ("ΟΔΥΣ".toList <:+: odyssey.name ∧ (⟨.name, .contains, "ΟΔΥΣ".toList⟩ : Clause).admits odyssey = false) := by
  intro road odyssey
  have hbegins : [] ++ "ΟΔΥΣ".toList ++ "ΣΕΙΑ".toList = odyssey.name := by decide +kernel
  refine ⟨⟨?_, ?_⟩, ⟨_, _, hbegins⟩, ?_⟩ <;> decide +kernel

end Clause
end GameShelf
