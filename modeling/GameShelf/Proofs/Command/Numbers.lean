import GameShelf.Proofs.Command.Additions
import GameShelf.Proofs.Selection.Tokens
import GameShelf.Proofs.View.History
import GameShelf.Proofs.View.Narrowing
/-!
# Numbers — what a run prints, the next run can pick

A run that adds nothing numbers the games of its view.  The next run makes the same view, so that the number of a line picks
the game of that line, two of them with a dash between them the games from one line to the other, and a number that stands
at no line nothing (`run_numbers`).
-/
namespace GameShelf
namespace Command

variable {o : Options} {catalog picked : List Game} {token : Text}

/-! ## The numbered lines -/

theorem length_numbered (games : List Game) : (numbered games).length = games.length := by
  rw [numbered, List.length_map, List.length_zipIdx]

theorem getElem?_numbered {games : List Game} {g : Game} {k : Nat} (hk : 1 ≤ k) (hg : games[k - 1]? = some g) :
    (numbered games)[k - 1]? = some (Text.ofNat k ++ ". ".toList ++ g.name) := by
  have hnumber : 1 + (k - 1) = k := by omega
  have hline : Text.ofNat k ++ ". ".toList ++ g.name = Text.ofNat k ++ '.' :: ' ' :: g.name := by
    rw [List.append_assoc]
    rfl
  rw [numbered, List.getElem?_map, List.getElem?_zipIdx, hg, hline]
  simp only [Option.map_some, hnumber]

theorem length_viewOf_le (o : Options) (catalog : List Game) : (viewOf o catalog).games.length ≤ catalog.length := by
  rw [viewOf, narrow_eq_refine, (View.games_refine_perm _ _ _).length_eq]
  exact List.length_filter_le _ _

/-! ## One addition -/

theorem answer_of_token (o : Options) (catalog : List Game) (token : Text) :
    (answer { o with adds := [token], removes := [], save := none } catalog).1 =
      (addAll (viewOf o catalog).games .empty [token]).1.map .selection :=
  answer_of_adds (List.cons_ne_nil token []) rfl catalog

/-- **One addition lists the names of what its token picks**, in the order of names, and of the same games one only. -/
theorem run_of_resolve (h : Selection.resolve Game.name (viewOf o catalog).games token = .ok picked)
    (device : Files.Device) (files : Files.Tree) :
    (run device { o with adds := [token], removes := [], save := none } catalog files).result =
      .ok (((picked.eraseDupsBy Game.same).map Game.name).mergeSort fun a b => (Shortlist.nameOrder a b).isLE) := by
  have hanswer := answer_of_token o catalog token
  rw [addAll_cons_of_ok h] at hanswer
  have hnames : (picked.foldl Shortlist.insert .empty).names =
      ((picked.eraseDupsBy Game.same).map Game.name).mergeSort fun a b => (Shortlist.nameOrder a b).isLE := by
    rw [Shortlist.names, Shortlist.games_foldl_insert, Sorting.sortBy, Sorting.sort_eq_mergeSort]
  rw [← hnames]
  exact (run_of_selection hanswer files).1

theorem run_of_resolve_error {cause : Selection.Failure}
    (h : Selection.resolve Game.name (viewOf o catalog).games token = .error cause) (device : Files.Device)
    (files : Files.Tree) :
    (run device { o with adds := [token], removes := [], save := none } catalog files).result =
      .error (.cannotAdd token cause) := by
  have hanswer := answer_of_token o catalog token
  rw [addAll_cons_of_error h] at hanswer
  exact (run_of_error hanswer files).1

/-! ## From one run to the next -/

/-- **The numbers that a run prints are tokens for the next one.**  Without additions a run prints the games of its view,
one to a line and with its number.  With the same catalog, filters and order, the number of a line then picks the name on
that line; two numbers with a dash between them pick the games from one to the other, of the same games one only, in the
order of names; and every other number is out of range.  Positions are words, and there are more words than games that a
catalog could hold. -/
theorem run_numbers (device : Files.Device) (o : Options) (catalog : List Game) (files : Files.Tree)
    (hsize : catalog.length < UInt64.size - 1) :
    let view := (viewOf o catalog).games
    let again := fun token => (run device { o with adds := [token], removes := [], save := none } catalog files).result
    ∃ lines, (run device { o with adds := [] } catalog files).result = .ok lines ∧ lines.length = view.length ∧
      (∀ k, 1 ≤ k → k ≤ lines.length → ∃ g, view[k - 1]? = some g ∧
        lines[k - 1]? = some (Text.ofNat k ++ ". ".toList ++ g.name) ∧ again (Text.ofNat k) = .ok [g.name]) ∧
      (∀ i j, 1 ≤ i → i ≤ j → j ≤ lines.length → again (Text.ofNat i ++ '-' :: Text.ofNat j) =
        .ok ((((Selection.slice view i j).eraseDupsBy Game.same).map Game.name).mergeSort
          fun a b => (Shortlist.nameOrder a b).isLE)) ∧
      (∀ m, m = 0 ∨ lines.length < m → again (Text.ofNat m) = .error (.cannotAdd (Text.ofNat m)
        ⟨Text.ofNat (min m (UInt64.size - 1)), .indexOutOfRange (min m (UInt64.size - 1)) lines.length⟩)) := by
  intro view again
  have hview : view.length < UInt64.size - 1 := Nat.lt_of_le_of_lt (length_viewOf_le o catalog) hsize
  have hlength : (numbered view).length = view.length := length_numbered view
  refine ⟨numbered view, (run_of_listing (answer_of_no_adds rfl catalog) files).1, hlength, ?_, ?_, ?_⟩
  · intro k hk hle
    have hlt : k - 1 < view.length := by omega
    have hg : view[k - 1]? = some view[k - 1] := List.getElem?_eq_getElem hlt
    refine ⟨view[k - 1], hg, getElem?_numbered hk hg, ?_⟩
    have hpick := run_of_resolve (Selection.resolve_ofNat hview hk hg) device files
    have honce : [view[k - 1]].eraseDupsBy Game.same = [view[k - 1]] := rfl
    rwa [honce, List.map_singleton, List.mergeSort_singleton] at hpick
  · intro i j hi hij hj
    exact run_of_resolve (Selection.resolve_dash_ofNat hview hi hij (hlength ▸ hj)) device files
  · intro m hm
    rw [hlength] at hm ⊢
    exact run_of_resolve_error (Selection.resolve_ofNat_of_not_mem hview hm) device files

/-- A shelf that holds one game twice, listed backwards by name. -/
theorem run_numbers_backwards :
    let go : Game := .ofName "Go".toList 1
    let chess : Game := .ofName "Chess".toList 7
    let o : Options := ⟨"shelf.csv".toList, [], .descending .name, [], [], none, none, false⟩
    let again := fun token =>
      (run .sound { o with adds := [token], removes := [], save := none } [go, chess, go] .empty).result
    [go, chess, go].length < UInt64.size - 1 ∧
    (run .sound { o with adds := [] } [go, chess, go] .empty).result =
      .ok ["1. Go".toList, "2. Go".toList, "3. Chess".toList] ∧
    again "2".toList = .ok ["Go".toList] ∧ again "1-3".toList = .ok ["Chess".toList, "Go".toList] ∧
    again "4".toList = .error (.cannotAdd "4".toList ⟨"4".toList, .indexOutOfRange 4 3⟩) := by
  intro go chess o again
  have hsize : [go, chess, go].length < UInt64.size - 1 := by decide
  have hview : (viewOf o [go, chess, go]).games = [go, go, chess] := by decide +kernel
  obtain ⟨lines, hrun, hlength, hone, hrange, hout⟩ := run_numbers .sound o [go, chess, go] .empty hsize
  rw [hview] at hlength hrange hone
  obtain rfl : lines = ["1. Go".toList, "2. Go".toList, "3. Chess".toList] := by
    refine Except.ok.inj (hrun.symm.trans ?_)
    decide +kernel
  obtain ⟨g, hg, -, hpick⟩ := hone 2 (by decide) (by decide)
  obtain rfl : go = g := Option.some.inj hg
  have hnames : ((Selection.slice [go, go, chess] 1 3).eraseDupsBy Game.same).map Game.name =
      ["Go".toList, "Chess".toList] := by
    decide +kernel
  have hslice := hrange 1 3 (by decide) (by decide) (by decide)
  rw [hnames] at hslice
  refine ⟨hsize, hrun, hpick, hslice.trans ?_, hout 4 (.inr (by decide))⟩
  rw [← Sorting.sort_eq_mergeSort]
  decide +kernel

end Command
end GameShelf
