import GameShelf.Proofs.Command.Run
import GameShelf.Proofs.Shortlist.Names
/-!
# Additions — a run that only adds

Every addition of a run picks from the same view, whatever was added before it.  So the additions come to one insertion of
all that their tokens pick, and succeed when every token picks something (`toOption_addAll`).  As the names of a list do not
tell in which order its games went in, the order of the additions is not to be seen (`run_adds_perm`).
-/
namespace GameShelf
namespace Command

variable {device : Files.Device} {o : Options} {catalog : List Game} {files : Files.Tree}
  {candidates picked : List Game} {list : Shortlist} {token : Text} {tokens : List Text}

/-! ## The additions of a run -/

/-- The games that a token picks, if it picks any. -/
def picks (candidates : List Game) (token : Text) : List Game :=
  (Selection.resolve Game.name candidates token).toOption.getD []

theorem addAll_cons_of_ok (h : Selection.resolve Game.name candidates token = .ok picked) (list : Shortlist)
    (rest : List Text) :
    (addAll candidates list (token :: rest)).1 = (addAll candidates (picked.foldl Shortlist.insert list) rest).1 := by
  rw [addAll, Shortlist.add_of_resolve h]

theorem addAll_cons_of_error {cause : Selection.Failure}
    (h : Selection.resolve Game.name candidates token = .error cause) (list : Shortlist) (rest : List Text) :
    (addAll candidates list (token :: rest)).1 = .error (.cannotAdd token cause) := by
  rw [addAll, Shortlist.add_of_resolve_error h]

/-- **Additions insert all that their tokens pick**, and fail when one of the tokens picks nothing. -/
theorem toOption_addAll (candidates : List Game) (list : Shortlist) (tokens : List Text) :
    (addAll candidates list tokens).1.toOption =
      if tokens.all fun token => (Selection.resolve Game.name candidates token).isOk
      then some ((tokens.flatMap (picks candidates)).foldl Shortlist.insert list) else none := by
  induction tokens generalizing list with
  | nil => rfl
  | cons token rest ih =>
    cases h : Selection.resolve Game.name candidates token with
    | error cause =>
      rw [addAll_cons_of_error h]
      simp [h, Except.isOk, Except.toBool, Except.toOption]
    | ok picked =>
      have hpicks : picks candidates token = picked := by rw [picks, h]; rfl
      rw [addAll_cons_of_ok h, ih, List.flatMap_cons, hpicks, List.foldl_append]
      simp [h, Except.isOk, Except.toBool]

/-! ## How a run ends -/

/-- The view that a run works on. -/
def viewOf (o : Options) (catalog : List Game) : View :=
  (narrow o.sort (.ofCatalog catalog) o.filters).1

/-- What comes of the names of a selection: they are saved, if that is asked for, and printed. -/
def deliver (device : Files.Device) (o : Options) (files : Files.Tree) (names : List Text) :
    Except Failure (List Text) × Files.Tree :=
  match o.savePath with
  | none => (.ok names, files)
  | some path? =>
    match Export.write device files path? names with
    | (files, .ok _) => (.ok names, files)
    | (files, .error cause) => (.error (.cannotExport cause), files)

theorem answer_of_no_adds (h : o.adds = []) (catalog : List Game) :
    (answer o catalog).1 = .ok (.listing (viewOf o catalog).games) := by
  simp [answer, viewOf, h]

theorem answer_of_adds (hadds : o.adds ≠ []) (hremoves : o.removes = []) (catalog : List Game) :
    (answer o catalog).1 = (addAll (viewOf o catalog).games .empty o.adds).1.map .selection := by
  have hempty : ¬ o.adds.isEmpty = true := by simpa using hadds
  simp only [answer, if_neg hempty, choose, hremoves, removeAll, viewOf]
  rcases addAll (narrow o.sort (.ofCatalog catalog) o.filters).1.games .empty o.adds with ⟨_ | list, events⟩ <;> rfl

/-- What a run prints and leaves in the files counts by its answer only, and for a selection by the names of that. -/
theorem result_files_run (device : Files.Device) (o : Options) (catalog : List Game) (files : Files.Tree) :
    ((run device o catalog files).result, (run device o catalog files).files) =
      match (answer o catalog).1 with
      | .error failure => (.error failure, files)
      | .ok (.listing games) => (.ok (numbered games), files)
      | .ok (.selection list) => deliver device o files list.names := by
  rw [run_eq]
  rcases answer o catalog with ⟨failure | games | list, events⟩
  · rfl
  · rfl
  · cases hsave : o.savePath with
    | none => simp only [deliver, hsave]
    | some path? =>
      rcases hwrite : Export.write device files path? list.names with ⟨after, cause | path⟩ <;>
        simp only [deliver, hsave, hwrite, saved]

theorem run_of_listing {games : List Game} (h : (answer o catalog).1 = .ok (.listing games)) (files : Files.Tree) :
    (run device o catalog files).result = .ok (numbered games) ∧ (run device o catalog files).files = files := by
  have hrun := result_files_run device o catalog files
  rw [h] at hrun
  exact Prod.mk.inj hrun

theorem run_of_error {failure : Failure} (h : (answer o catalog).1 = .error failure) (files : Files.Tree) :
    (run device o catalog files).result = .error failure ∧ (run device o catalog files).files = files := by
  have hrun := result_files_run device o catalog files
  rw [h] at hrun
  exact Prod.mk.inj hrun

theorem run_of_selection (h : (answer o catalog).1 = .ok (.selection list)) (files : Files.Tree) :
    (run device o catalog files).result = (deliver device o files list.names).1 ∧
      (run device o catalog files).files = (deliver device o files list.names).2 := by
  have hrun := result_files_run device o catalog files
  rw [h] at hrun
  exact Prod.mk.inj hrun

/-! ## Additions in another order -/

theorem addAll_empty_perm (candidates : List Game) {adds others : List Text} (h : others.Perm adds) :
    (addAll candidates .empty others).1.toOption.map Shortlist.names =
      (addAll candidates .empty adds).1.toOption.map Shortlist.names := by
  rw [toOption_addAll, toOption_addAll, h.all_eq]
  split
  · exact congrArg some (Shortlist.names_foldl_insert_perm (h.flatMap_right _))
  · rfl

/-- A run that only adds delivers the names that its additions come to, and leaves the files alone when they fail. -/
theorem run_of_adds (hadds : o.adds ≠ []) (hremoves : o.removes = []) (catalog : List Game) (files : Files.Tree) :
    ((run device o catalog files).result.toOption, (run device o catalog files).files) =
      match (addAll (viewOf o catalog).games .empty o.adds).1.toOption.map Shortlist.names with
      | some names => ((deliver device o files names).1.toOption, (deliver device o files names).2)
      | none => (none, files) := by
  have hanswer := answer_of_adds hadds hremoves catalog
  rcases hadd : (addAll (viewOf o catalog).games .empty o.adds).1 with failure | list
  · rw [hadd] at hanswer
    obtain ⟨hresult, hfiles⟩ := run_of_error hanswer files
    rw [hresult, hfiles]
    rfl
  · rw [hadd] at hanswer
    obtain ⟨hresult, hfiles⟩ := run_of_selection hanswer files
    rw [hresult, hfiles]
    rfl

/-- **The order of the additions is not to be seen.**  A run that removes nothing fails with its additions in every order
or in none; and it then prints the same names in the same order, and leaves the same files. -/
theorem run_adds_perm (device : Files.Device) (o : Options) (catalog : List Game) (files : Files.Tree)
    {adds others : List Text} (h : others.Perm adds) :
    let outcome := fun tokens => run device { o with adds := tokens, removes := [] } catalog files
    (outcome others).result.toOption = (outcome adds).result.toOption ∧ (outcome others).files = (outcome adds).files := by
  intro outcome
  rcases eq_or_ne adds [] with rfl | hadds
  · rw [h.eq_nil]
    exact ⟨rfl, rfl⟩
  · have hothers : others ≠ [] := fun hnil => hadds (List.Perm.eq_nil (hnil ▸ h.symm))
    have hboth : ((outcome others).result.toOption, (outcome others).files) =
        ((outcome adds).result.toOption, (outcome adds).files) := by
      rw [run_of_adds hothers rfl, run_of_adds hadds rfl]
      simp only [viewOf, addAll_empty_perm _ h, deliver, Options.savePath]
    exact Prod.mk.inj hboth

/-- Tokens that overlap, and a shelf with a game that stands in it twice, once more with the other zero, and with a game
that has a NaN: that one is listed as often as it was picked. -/
theorem run_adds_perm_overlap :
    let go : Game := .ofName "Go".toList 1
    let flat : Game := { go with rating := .ofSignMagnitude true 0 }
    let odd : Game := { Game.ofName "Odd".toList 9 with rating := .ofSignMagnitude false Binary64.quietNaN }
    let o : Options := ⟨"shelf.csv".toList, [], .ascending .name, [], [], some (some "chosen".toList), none, false⟩
    let outcome := fun tokens => run .sound { o with adds := tokens, removes := [] } [odd, flat, go, go] .empty
    let names := ["Go".toList, "Odd".toList, "Odd".toList, "Odd".toList]
    ["odd".toList, "3-4".toList, "all".toList].Perm ["all".toList, "3-4".toList, "odd".toList] ∧
    (outcome ["all".toList, "3-4".toList, "odd".toList]).result = .ok names ∧
    (outcome ["odd".toList, "3-4".toList, "all".toList]).result.toOption = some names := by
  intro go flat odd o outcome names
  have hperm : ["odd".toList, "3-4".toList, "all".toList].Perm ["all".toList, "3-4".toList, "odd".toList] := by decide
  have hresult : (outcome ["all".toList, "3-4".toList, "odd".toList]).result = .ok names := by decide +kernel
  refine ⟨hperm, hresult, ?_⟩
  rw [(run_adds_perm _ o _ _ hperm).1]
  exact congrArg Except.toOption hresult

end Command
end GameShelf
