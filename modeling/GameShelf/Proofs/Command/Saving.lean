import GameShelf.Proofs.Command.Additions
import GameShelf.Proofs.Export
import GameShelf.Proofs.Shortlist.Runs
/-!
# Saving — a run writes last, and only what it prints

The additions and removals of a run are edits carried out in turn, and the first one that fails ends the run (`Carried`).  No
file has been touched by then: the names are written when every edit has succeeded, to the one path that the options mean,
and they are the lines that the run then prints.  Only a fault of that writing can leave anything else (`run_saves_last`).
So the whole program changes no file but by a run that adds and saves (`program_files`).
-/
namespace GameShelf
namespace Command

open Shortlist (Edit)

variable {device : Files.Device} {o : Options} {catalog candidates : List Game} {files after : Files.Tree}
  {list final : Shortlist} {edits : List Edit} {result : Except Failure Shortlist} {failure : Failure}

/-! ## Edits in turn -/

/-- Edits of a list carried out in turn, up to one that fails, and what comes of them. -/
inductive Carried : Shortlist → List Edit → Except Failure Shortlist → Prop
  | done (list : Shortlist) : Carried list [] (.ok list)
  | failed {list : Shortlist} {edit : Edit} {edits : List Edit} {failure : Failure}
      (h : (list.answer edit).isOk = false) : Carried list (edit :: edits) (.error failure)
  | next {list : Shortlist} {edit : Edit} {edits : List Edit} {result : Except Failure Shortlist}
      (h : (list.answer edit).isOk = true) (hrest : Carried (list.step edit) edits result) :
      Carried list (edit :: edits) result

theorem Carried.eq_foldl (h : Carried list edits result) (hok : result = .ok final) :
    final = edits.foldl Shortlist.step list := by
  induction h with
  | done list => exact (Except.ok.inj hok).symm
  | failed => cases hok
  | next _ _ ih => exact ih hok

/-- **An edit that fails against the list as it then stands** ends the run. -/
theorem Carried.exists_error (h : Carried list edits result) {before behind : List Edit} {edit : Edit}
    (hedits : edits = before ++ edit :: behind)
    (hfailed : ((before.foldl Shortlist.step list).answer edit).isOk = false) : ∃ failure, result = .error failure := by
  induction h generalizing before with
  | done => simp at hedits
  | @failed _ _ _ failure => exact ⟨failure, rfl⟩
  | next hok _ ih =>
    -- this edit succeeds, so the one that fails stands further back
    cases before with
    | nil =>
      obtain ⟨rfl, -⟩ := List.cons.inj hedits
      rw [List.foldl_nil, hok] at hfailed
      cases hfailed
    | cons first before =>
      obtain ⟨rfl, hrest⟩ := List.cons.inj hedits
      exact ih hrest hfailed

theorem Carried.append {mid : Shortlist} {more : List Edit} {start : Except Failure Shortlist}
    (h : Carried list edits start) (hstart : start = .ok mid) (hmore : Carried mid more result) :
    Carried list (edits ++ more) result := by
  induction h with
  | done list =>
    obtain rfl := Except.ok.inj hstart
    exact hmore
  | failed => cases hstart
  | next hok _ ih => exact .next hok (ih hstart)

theorem Carried.append_of_error (h : Carried list edits result) (herror : result = .error failure) (more : List Edit) :
    Carried list (edits ++ more) result := by
  induction h with
  | done => cases herror
  | failed hfailed => exact .failed hfailed
  | next hok _ ih => exact .next hok (ih herror)

theorem carried_addAll (candidates : List Game) (list : Shortlist) (tokens : List Text) :
    Carried list (tokens.map (.add candidates)) (addAll candidates list tokens).1 := by
  induction tokens generalizing list with
  | nil => exact .done list
  | cons token rest ih =>
    rw [List.map_cons, addAll]
    rcases hadd : list.add candidates token with ⟨next, cause | gained⟩
    · exact .failed (by rw [Shortlist.answer, hadd]; rfl)
    · have hstep : list.step (.add candidates token) = next := by rw [Shortlist.step, hadd]
      exact .next (by rw [Shortlist.answer, hadd]; rfl) (hstep ▸ ih next)

theorem carried_removeAll (list : Shortlist) (tokens : List Text) :
    Carried list (tokens.map .remove) (removeAll list tokens).1 := by
  induction tokens generalizing list with
  | nil => exact .done list
  | cons token rest ih =>
    rw [List.map_cons, removeAll]
    rcases hremove : list.remove token with ⟨next, cause | lost⟩
    · exact .failed (by rw [Shortlist.answer, hremove]; rfl)
    · have hstep : list.step (.remove token) = next := by rw [Shortlist.step, hremove]
      exact .next (by rw [Shortlist.answer, hremove]; rfl) (hstep ▸ ih next)

/-- The edits that a run makes: additions from its view, and then removals. -/
def editsOf (o : Options) (catalog : List Game) : List Edit :=
  o.adds.map (.add (viewOf o catalog).games) ++ o.removes.map .remove

theorem carried_choose (o : Options) (catalog : List Game) :
    Carried .empty (editsOf o catalog) (choose (viewOf o catalog).games o.adds o.removes).1 := by
  have hadds := carried_addAll (viewOf o catalog).games .empty o.adds
  rw [choose]
  rcases hadd : addAll (viewOf o catalog).games .empty o.adds with ⟨failure | list, events⟩
  · rw [hadd] at hadds
    exact hadds.append_of_error rfl _
  · rw [hadd] at hadds
    exact hadds.append rfl (carried_removeAll list o.removes)

/-! ## The end of a run -/

theorem answer_eq_choose (hadds : o.adds ≠ []) (catalog : List Game) :
    (answer o catalog).1 = (choose (viewOf o catalog).games o.adds o.removes).1.map .selection := by
  have hempty : ¬ o.adds.isEmpty = true := by simpa using hadds
  simp only [answer, if_neg hempty, viewOf]

/-- **What a run comes to**: without additions the view is listed, a failure of an edit ends the run, and otherwise the names
of the selection are delivered. -/
theorem run_cases (device : Files.Device) (o : Options) (catalog : List Game) (files : Files.Tree) :
    (o.adds = [] ∧ (run device o catalog files).result = .ok (numbered (viewOf o catalog).games) ∧
      (run device o catalog files).files = files) ∨
    (∃ failure, (choose (viewOf o catalog).games o.adds o.removes).1 = .error failure ∧
      (run device o catalog files).result = .error failure ∧ (run device o catalog files).files = files) ∨
    (o.adds ≠ [] ∧
      (choose (viewOf o catalog).games o.adds o.removes).1 = .ok (Shortlist.run (editsOf o catalog)) ∧
      (run device o catalog files).result = (deliver device o files (Shortlist.run (editsOf o catalog)).names).1 ∧
      (run device o catalog files).files = (deliver device o files (Shortlist.run (editsOf o catalog)).names).2) := by
  by_cases hadds : o.adds = []
  · have hlisting := answer_of_no_adds hadds catalog
    exact .inl ⟨hadds, run_of_listing hlisting files⟩
  have hanswer := answer_eq_choose hadds catalog
  rcases hchoose : (choose (viewOf o catalog).games o.adds o.removes).1 with failure | list
  · rw [hchoose] at hanswer
    exact .inr (.inl ⟨failure, rfl, run_of_error hanswer files⟩)
  · have hlist : list = Shortlist.run (editsOf o catalog) := (carried_choose o catalog).eq_foldl hchoose
    rw [hchoose, hlist] at hanswer
    exact .inr (.inr ⟨hadds, congrArg Except.ok hlist, run_of_selection hanswer files⟩)

/-! ## What is saved, and where -/

/-- Where a run saves: at the path given with `save`, else at the one for output; and when there is none, or a blank one, at
the path that needs no option. -/
def destination (o : Options) : Text :=
  ((o.save.join <|> o.output).filter fun path => !Text.isBlank path).getD Export.defaultPath

theorem resolvePath_eq_getD (path? : Option Text) :
    Export.resolvePath path? = (path?.filter fun path => !Text.isBlank path).getD Export.defaultPath := by
  cases path? with
  | none => rfl
  | some path => cases h : Text.isBlank path <;> simp [Export.resolvePath, Option.filter, h]

theorem resolvePath_of_savePath {path? : Option Text} (h : o.savePath = some path?) :
    Export.resolvePath path? = destination o := by
  obtain ⟨given, hsave, rfl⟩ := Option.map_eq_some_iff.1 h
  rw [resolvePath_eq_getD, destination, hsave, Option.join_some]

/-- **Names are delivered to their file and nowhere else.**  When that fails, no file has been changed, or the machine has
ended the writing and a beginning of them is there. -/
theorem deliver_of_save (hsave : o.save ≠ none) (device : Files.Device) (files : Files.Tree) (names : List Text) :
    ((deliver device o files names).1 = .ok names ∧
      files.Writes (deliver device o files names).2 (destination o) (Text.encode (names.flatMap (· ++ ['\n'])))) ∨
    ∃ fault, (deliver device o files names).1 = .error (.cannotExport ⟨destination o, fault⟩) ∧
      ((deliver device o files names).2.files = files.files ∨
        Files.Tree.Breaks device files (deliver device o files names).2 (destination o)
          (Text.encode (names.flatMap (· ++ ['\n']))) fault) := by
  obtain ⟨given, hgiven⟩ := Option.ne_none_iff_exists'.1 hsave
  have hpath : o.savePath = some (given <|> o.output) := by rw [Options.savePath, hgiven, Option.map_some]
  rw [← resolvePath_of_savePath hpath]
  simp only [deliver, hpath]
  obtain ⟨after, hwrite, hwrites⟩ | ⟨after, fault, hwrite, hfailed⟩ :=
    Export.write_cases device files (given <|> o.output) names
  · rw [hwrite]
    exact .inl ⟨rfl, hwrites⟩
  · rw [hwrite]
    exact .inr ⟨fault, rfl, hfailed⟩

theorem deliver_of_not_save (hsave : o.save = none) (device : Files.Device) (files : Files.Tree) (names : List Text) :
    deliver device o files names = (.ok names, files) := by
  have hpath : o.savePath = none := by rw [Options.savePath, hsave, Option.map_none]
  simp only [deliver, hpath]

/-- **A run saves last.**  Nothing changes when nothing is added, when an addition or a removal fails against the list that
the edits before it have made, or when nothing is to be saved.  A run that saves and succeeds leaves the names that its edits
come to, each with a line feed behind it, in the file at the path that its options mean, and these are the lines that it
prints; every other file is as it was.  And a run that fails has changed no file, unless it failed because the machine ended
that writing: then a beginning of those lines stands in that file, and every other file is as it was. -/
theorem run_saves_last (device : Files.Device) (o : Options) (catalog : List Game) (files : Files.Tree) :
    let outcome := run device o catalog files
    (o.adds = [] ∨
      (∃ before edit behind, editsOf o catalog = before ++ edit :: behind ∧
        ((Shortlist.run before).answer edit).isOk = false) ∨
      o.save = none → outcome.files = files) ∧
    (∀ lines, outcome.result = .ok lines → o.adds ≠ [] → o.save ≠ none →
      lines = (Shortlist.run (editsOf o catalog)).names ∧
      files.Writes outcome.files (destination o) (Text.encode (lines.flatMap (· ++ ['\n'])))) ∧
    (∀ failure, outcome.result = .error failure → outcome.files.files = files.files ∨
      ∃ fault, failure = .cannotExport ⟨destination o, fault⟩ ∧
        Files.Tree.Breaks device files outcome.files (destination o)
          (Text.encode ((Shortlist.run (editsOf o catalog)).names.flatMap (· ++ ['\n']))) fault) := by
  intro outcome
  obtain ⟨hadds, hresult, hfiles⟩ | ⟨failure, -, hresult, hfiles⟩ | ⟨hadds, hchoose, hresult, hfiles⟩ :=
    run_cases device o catalog files
  · refine ⟨fun _ => hfiles, fun lines _ hne => absurd hadds hne, fun failure herror => ?_⟩
    cases hresult.symm.trans herror
  · refine ⟨fun _ => hfiles, fun lines hok => ?_, fun _ _ => .inl (congrArg (·.files) hfiles)⟩
    cases hresult.symm.trans hok
  · refine ⟨?_, fun lines hok _ hsave => ?_, fun failure herror => ?_⟩
    · rintro (hnone | ⟨before, edit, behind, hedits, hfailed⟩ | hsave)
      · exact absurd hnone hadds
      · obtain ⟨failure, herror⟩ := (carried_choose o catalog).exists_error hedits hfailed
        cases hchoose.symm.trans herror
      · rw [hfiles, deliver_of_not_save hsave]
    · obtain ⟨hdeliver, hwrites⟩ | ⟨fault, hdeliver, -⟩ :=
        deliver_of_save hsave device files (Shortlist.run (editsOf o catalog)).names
      · have hlines := Except.ok.inj (hok.symm.trans (hresult.trans hdeliver))
        rw [hlines, hfiles]
        exact ⟨rfl, hwrites⟩
      · cases hok.symm.trans (hresult.trans hdeliver)
    · have hdeliver := hresult.symm.trans herror
      have hsave : o.save ≠ none := by
        intro hnone
        rw [deliver_of_not_save hnone] at hdeliver
        cases hdeliver
      rw [hfiles]
      obtain ⟨hok, -⟩ | ⟨fault, hfault, hfailed⟩ :=
        deliver_of_save hsave device files (Shortlist.run (editsOf o catalog)).names
      · cases hok.symm.trans hdeliver
      · obtain rfl := Except.error.inj (hdeliver.symm.trans hfault)
        exact hfailed.imp_right fun hbreaks => ⟨fault, rfl, hbreaks⟩

/-- A shelf of two games, of which one is taken away again: the other's name stands in the file for output, as `save` has no
path of its own, and a file beside it keeps its bytes.  The same removal a second time fails, and the files stay as they
were.  A machine that has room for three bytes leaves these in the file, and the run fails. -/
theorem run_saves_last_output :
    let go : Game := .ofName "Go".toList 1
    let catan : Game := .ofName "Catan".toList 7
    let o : Options := ⟨"shelf.csv".toList, [], .ascending .name, ["all".toList], ["go".toList], some none,
      some "out/list.txt".toList, false⟩
    let twice : Options := { o with removes := ["go".toList, "go".toList] }
    let files : Files.Tree := ⟨["home".toList], [(["notes.txt".toList, "home".toList], Text.encode "old".toList)], []⟩
    let noSpace : Files.Fault := .other 28 "No space left on device"
    let full : Files.Device := ⟨fun _ => none, fun _ _ => some (3, noSpace)⟩
    let outcome := run .sound o [go, catan] files
    let broken := run full o [go, catan] files
    (outcome.result = .ok ["Catan".toList] ∧
      outcome.files.find "out/list.txt".toList = .ok (.file (Text.encode "Catan\n".toList)) ∧
      outcome.files.file? ["notes.txt".toList, "home".toList] = some (Text.encode "old".toList)) ∧
    (editsOf twice [go, catan] = [.add [catan, go] "all".toList, .remove "go".toList] ++ [.remove "go".toList] ∧
      (run .sound twice [go, catan] files).files = files) ∧
    (broken.result = .error (.cannotExport ⟨"out/list.txt".toList, noSpace⟩) ∧
      broken.files.find "out/list.txt".toList = .ok (.file (Text.encode "Cat".toList))) := by
  intro go catan o twice files noSpace full outcome broken
  have hresult : outcome.result = .ok ["Catan".toList] := by decide +kernel
  have hpath : destination o = "out/list.txt".toList := by decide +kernel
  have hview : (viewOf twice [go, catan]).games = [catan, go] := by decide +kernel
  have hedits : editsOf twice [go, catan] =
      [.add [catan, go] "all".toList, .remove "go".toList] ++ [.remove "go".toList] := by rw [editsOf, hview]; rfl
  have hfailed : ((Shortlist.run [.add [catan, go] "all".toList, .remove "go".toList]).answer
      (.remove "go".toList)).isOk = false := by decide +kernel
  obtain ⟨-, hsaves, -⟩ := run_saves_last .sound o [go, catan] files
  obtain ⟨-, hwrites⟩ := hsaves _ hresult (by simp [o]) (by simp [o])
  rw [hpath] at hwrites
  obtain ⟨place, hplace, hothers, -⟩ := hwrites.others
  have hlist : outcome.files.creatable "out/list.txt".toList =
      .ok ["list.txt".toList, "out".toList, "home".toList] := by decide +kernel
  obtain rfl := Except.ok.inj (hlist.symm.trans hplace)
  obtain ⟨huntouched, -, -⟩ := run_saves_last .sound twice [go, catan] files
  have hbroken : broken.result = .error (.cannotExport ⟨"out/list.txt".toList, noSpace⟩) := by decide +kernel
  have hchanged : broken.files.files ≠ files.files := by decide +kernel
  obtain ⟨-, -, hbreaks⟩ := run_saves_last full o [go, catan] files
  obtain ⟨fault, -, place, count, -, hcount, hbeginning⟩ := (hbreaks _ hbroken).resolve_left hchanged
  obtain ⟨rfl, -⟩ := Prod.mk.inj (Option.some.inj hcount)
  have hnames : (Shortlist.run (editsOf o [go, catan])).names = ["Catan".toList] := by decide +kernel
  rw [hpath, hnames] at hbeginning
  exact ⟨⟨hresult, hwrites.find_eq, hothers _ (by decide)⟩,
    ⟨hedits, huntouched (.inr (.inl ⟨_, _, _, hedits, hfailed⟩))⟩, hbroken, hbeginning.find_eq⟩

/-! ## The whole program -/

/-- **The program changes no file but by a run that adds and saves**, on the games of the catalog that its arguments name. -/
theorem program_files (device : Files.Device) (env : Environment) (arguments : List Text) (files : Files.Tree) :
    (program device env arguments files).2 = files ∨
    ∃ o games, Options.read env arguments = .ok o ∧ (load files o.catalog).1 = .ok games ∧ o.adds ≠ [] ∧ o.save ≠ none ∧
      (program device env arguments files).2 = (run device o games files).files := by
  rw [program_eq]
  rcases hread : Options.read env arguments with error | o
  · exact .inl rfl
  simp only [execute_eq]
  rcases hload : load files o.catalog with ⟨failure | games, events⟩
  · exact .inl rfl
  obtain ⟨-, -, hfiles⟩ | ⟨_, -, -, hfiles⟩ | ⟨hadds, -, -, hfiles⟩ := run_cases device o games files
  · exact .inl hfiles
  · exact .inl hfiles
  · by_cases hsave : o.save = none
    · exact .inl (by rw [hfiles, deliver_of_not_save hsave])
    · exact .inr ⟨o, games, rfl, by rw [hload], hadds, hsave, rfl⟩

end Command
end GameShelf
