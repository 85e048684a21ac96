import GameShelf.Export
import GameShelf.Proofs.Expression
import GameShelf.Proofs.Files.Tree
/-!
# Export — names in the file that they go to

Names are written to one file (`write_cases`), each with a line feed behind it.  A name that has no line feed is one line
there, and a name that has some is several (`splitOn_content`).
-/
namespace GameShelf
namespace Export

theorem write_eq (device : Files.Device) (tree : Files.Tree) (path? : Option Text) (names : List Text) :
    write device tree path? names =
      match tree.write device (resolvePath path?) (Text.encode (content names)) with
      | (after, .ok ()) => (after, .ok (resolvePath path?))
      | (after, .error fault) => (after, .error ⟨resolvePath path?, fault⟩) := by
  simp only [write, writeOn, StateT.run_bind, Files.Tree.run_machine_write]
  rcases tree.write device (resolvePath path?) (Text.encode (content names)) with ⟨after, fault | ⟨⟩⟩ <;> rfl

/-- **Names are written to the file at their path and nowhere else.**  When that fails, no file has been changed, or the
machine has ended the writing and a beginning of the content is there. -/
theorem write_cases (device : Files.Device) (tree : Files.Tree) (path? : Option Text) (names : List Text) :
    (∃ after, write device tree path? names = (after, .ok (resolvePath path?)) ∧
      tree.Writes after (resolvePath path?) (Text.encode (content names))) ∨
    ∃ after fault, write device tree path? names = (after, .error ⟨resolvePath path?, fault⟩) ∧
      (after.files = tree.files ∨
        Files.Tree.Breaks device tree after (resolvePath path?) (Text.encode (content names)) fault) := by
  obtain ⟨after, hwrite, hwrites⟩ | ⟨after, fault, hwrite, hfailed⟩ :=
    tree.write_cases device (resolvePath path?) (Text.encode (content names))
  · exact .inl ⟨after, by rw [write_eq, hwrite], hwrites⟩
  · exact .inr ⟨after, fault, by rw [write_eq, hwrite], hfailed⟩

/-- **The lines of the content are the lines of the names**, and behind the last line feed there is nothing. -/
theorem splitOn_content (names : List Text) :
    (content names).splitOn '\n' = names.flatMap (·.splitOn '\n') ++ [[]] := by
  induction names with
  | nil => rfl
  | cons name names ih =>
    have hcontent : content (name :: names) = name ++ '\n' :: content names := by
      rw [content, List.flatMap_cons, List.append_assoc, List.singleton_append, ← content]
    rw [hcontent, List.splitOn_append_cons_self, ih, List.flatMap_cons, List.append_assoc]

theorem flatMap_splitOn_eq_iff {names : List Text} :
    names.flatMap (·.splitOn '\n') = names ↔ ∀ name ∈ names, '\n' ∉ name := by
  constructor
  · intro h name hname
    -- every name is then a line of some name, and no line holds its separator
    rw [← h] at hname
    obtain ⟨whole, -, hline⟩ := List.mem_flatMap.1 hname
    exact Text.not_mem_of_mem_splitOn hline
  · intro h
    have hone : ∀ name ∈ names, name.splitOn '\n' = [name] := fun name hname => List.splitOn_eq_singleton (h name hname)
    rw [List.flatMap_congr hone, List.flatMap_singleton']

end Export
end GameShelf
