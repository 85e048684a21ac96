import GameShelf.Proofs.Catalog.Names
import GameShelf.Proofs.Export
import GameShelf.Proofs.Shortlist.Edits
/-!
# Lines — a saved list read back line by line

A saved file has a line for each name, in order, exactly when no name of the list has a line feed (`saved_lines`).  Nothing
else in a name matters: it may be empty, and it may hold any other character.
-/
namespace GameShelf
namespace Export

theorem mem_names_iff {list : Shortlist} {name : Text} : name ∈ list.names ↔ ∃ g ∈ list.games, g.name = name := by
  rw [Shortlist.names, (Sorting.sortBy_perm _ _).mem_iff, List.mem_map]

/-- **A list of games of a catalog is saved line by line.**  The lines of the file are those of the names, in order, each
with its end.  They are the names themselves exactly when no game of the list has a line feed in its name; and that is so
whenever the catalog has no line feed inside quotes. -/
theorem saved_lines {bytes : Bytes} {results : List (Option Game)} {list : Shortlist}
    {device : Files.Device} {files after : Files.Tree} {path? : Option Text} {path : Text}
    (hrows : Catalog.rows bytes = some results) (hlist : ∀ g ∈ list.games, g ∈ Catalog.games results)
    (hwrite : write device files path? list.names = (after, .ok path)) :
    ∃ text, after.find path = .ok (.file (Text.encode text)) ∧
      text.splitOn '\n' = list.names.flatMap (·.splitOn '\n') ++ [[]] ∧
      (text.splitOn '\n' = list.names ++ [[]] ↔ ∀ g ∈ list.games, '\n' ∉ g.name) ∧
      (¬ Csv.Quotes Csv.lineFeed (Csv.dropMark bytes) → text.splitOn '\n' = list.names ++ [[]]) := by
  have hfind : after.find path = .ok (.file (Text.encode (content list.names))) := by
    obtain ⟨written, hok, hwrites⟩ | ⟨_, fault, herror, -⟩ := write_cases device files path? list.names
    · rw [hok] at hwrite
      cases hwrite
      exact hwrites.find_eq
    · rw [herror] at hwrite
      cases hwrite
  have hlines := splitOn_content list.names
  have hiff : (content list.names).splitOn '\n' = list.names ++ [[]] ↔ ∀ g ∈ list.games, '\n' ∉ g.name := by
    rw [hlines, List.append_left_inj, flatMap_splitOn_eq_iff]
    simp only [mem_names_iff, forall_exists_index, and_imp, forall_apply_eq_imp_iff₂]
  refine ⟨_, hfind, hlines, hiff, fun hquotes => hiff.2 fun g hg => ?_⟩
  exact Catalog.lineFeed_not_mem_name hquotes hrows (hlist g hg)

/-- A name with a comma and quotes, and an empty one: a catalog may hold them, and each is a line of its own. -/
theorem saved_lines_quoted :
    let go : Game := .ofName "Go, \"weiqi\"".toList 1
    let unnamed : Game := .ofName [] 2
    let bytes := Text.encode (Text.joinCommas (Column.all.map Column.canonical) ++
      "\n\"Go, \"\"weiqi\"\"\",1,0,0,0,0,0,0,0,0\n,2,0,0,0,0,0,0,0,0\n".toList)
    let list := Shortlist.run [.add [go, unnamed] "all".toList]
    let after := (write .sound .empty none list.names).1
    Catalog.rows bytes = some [some go, some unnamed] ∧
    (∀ g ∈ list.games, g ∈ Catalog.games [some go, some unnamed]) ∧
    write .sound .empty none list.names = (after, .ok defaultPath) ∧
    ¬ Csv.Quotes Csv.lineFeed (Csv.dropMark bytes) ∧
    ∃ text, after.find defaultPath = .ok (.file (Text.encode text)) ∧
      text.splitOn '\n' = [[], "Go, \"weiqi\"".toList] ++ [[]] := by
  intro go unnamed bytes list after
  have hrows : Catalog.rows bytes = some [some go, some unnamed] := by decide +kernel
  have hlist : ∀ g ∈ list.games, g ∈ Catalog.games [some go, some unnamed] := by decide +kernel
  have hwrite : write .sound .empty none list.names = (after, .ok defaultPath) := by decide +kernel
  have hquotes : ¬ Csv.Quotes Csv.lineFeed (Csv.dropMark bytes) := by decide +kernel
  have hnames : list.names = [[], "Go, \"weiqi\"".toList] := by decide +kernel
  obtain ⟨text, hfind, -, -, hlines⟩ := saved_lines hrows hlist hwrite
  exact ⟨hrows, hlist, hwrite, hquotes, text, hfind, hnames ▸ hlines hquotes⟩

/-- Not every list is saved line by line: a name that a catalog has in quotes may go over two lines, and does so in the file. -/
theorem saved_lines_fails :
    let fish : Game := .ofName "Go\nFish".toList 1
    let bytes := Text.encode (Text.joinCommas (Column.all.map Column.canonical) ++
      "\n\"Go\nFish\",1,0,0,0,0,0,0,0,0\n".toList)
    let list := Shortlist.run [.add [fish] "all".toList]
    let written := write .sound .empty (some "out.txt".toList) list.names
    Catalog.rows bytes = some [some fish] ∧ list.games = [fish] ∧ list.names = ["Go\nFish".toList] ∧
    written.2 = .ok "out.txt".toList ∧ written.1.find "out.txt".toList = .ok (.file (Text.encode "Go\nFish\n".toList)) ∧
    "Go\nFish\n".toList.splitOn '\n' = ["Go".toList, "Fish".toList, []] ∧
    "Go\nFish\n".toList.splitOn '\n' ≠ list.names ++ [[]] := by
  decide +kernel

end Export
end GameShelf
