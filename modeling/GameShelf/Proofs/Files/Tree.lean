import GameShelf.Files.Machine
import GameShelf.Proofs.Except
/-!
# Tree — what writing a file changes

A path leads to one place (`Leads`), and what is created or read at the path is the file there.  Writing makes directories on
the way, which change no file and take no file's place (`Grows`), and then puts the bytes where the path leads; so a write
changes that file only (`Writes`).  One that fails has changed no file if it failed before it could open the file, and else
has left a beginning of the bytes there (`write_cases`).
-/
namespace GameShelf
namespace Files
namespace Tree

variable {tree after : Tree} {device : Device} {place other : Place} {path : Text} {content : Bytes}

/-! ## Files put in a tree -/

theorem lookup_map_ite (files : List (Place × Bytes)) (place other : Place) (content : Bytes) :
    (files.map fun (p, old) => (p, if p = place then content else old)).lookup other =
      (files.lookup other).map fun old => if other = place then content else old := by
  induction files with
  | nil => rfl
  | cons entry files ih =>
    obtain ⟨p, old⟩ := entry
    rw [List.map_cons, List.lookup_cons, List.lookup_cons]
    cases h : other == p with
    | true =>
      obtain rfl : other = p := by simpa using h
      rfl
    | false => exact ih

@[simp] theorem file?_put (tree : Tree) (place other : Place) (content : Bytes) :
    (tree.put place content).file? other = if other = place then some content else tree.file? other := by
  unfold put
  by_cases hsome : (tree.file? place).isSome
  · rw [if_pos hsome, file?, lookup_map_ite]
    by_cases heq : other = place
    · obtain ⟨old, hold⟩ := Option.isSome_iff_exists.1 hsome
      rw [file?] at hold
      rw [heq, hold]
      simp
    · simp only [if_neg heq, Option.map_id_fun', id_eq, file?]
  · have hnone : tree.files.lookup place = none := Option.not_isSome_iff_eq_none.1 hsome
    rw [if_neg hsome, file?, List.lookup_append, List.lookup_cons]
    by_cases heq : other = place
    · rw [heq, hnone, beq_self_eq_true, if_pos rfl]
      rfl
    · rw [beq_false_of_ne heq, if_neg heq, List.lookup_nil, Option.or_none, file?]

/-! ## Where a path leads -/

/-- The path leads to this place: its last name stands in a directory that the names before it lead to, and it can be a
file's, being no directory's. -/
structure Leads (tree : Tree) (path : Text) (place : Place) : Prop where
  textFault : textFault? path = none
  ending : (Path.ofText path).ending = .name
  last : ∃ name before, (Path.ofText path).names.getLast? = some name ∧
    tree.walk (tree.start (Path.ofText path)) (Path.ofText path).directories = .ok before ∧ step before name = .ok place
  free : tree.isDirectory place = false

theorem walk_cons_eq_ok_iff {start : Place} {name : Text} {rest : List Text} :
    tree.walk start (name :: rest) = .ok place ↔
      ∃ next, step start name = .ok next ∧ tree.isDirectory next = true ∧ tree.walk next rest = .ok place := by
  rw [walk]
  cases step start name with
  | error fault => simp
  | ok next =>
    cases hdir : tree.isDirectory next with
    | true => simp [hdir]
    | false => cases hfile : (tree.file? next).isSome <;> simp [hdir, hfile]

theorem walk_mono (h : ∀ p, tree.isDirectory p = true → after.isDirectory p = true) {names : List Text} {start : Place}
    (hwalk : tree.walk start names = .ok place) : after.walk start names = .ok place := by
  induction names generalizing start with
  | nil => exact hwalk
  | cons name rest ih =>
    obtain ⟨next, hstep, hdir, hrest⟩ := walk_cons_eq_ok_iff.1 hwalk
    exact walk_cons_eq_ok_iff.2 ⟨next, hstep, h next hdir, ih hrest⟩

theorem Leads.mono (h : tree.Leads path place) (hhere : after.here = tree.here)
    (hdir : ∀ p, tree.isDirectory p = true → after.isDirectory p = true) (hfree : after.isDirectory place = false) :
    after.Leads path place := by
  obtain ⟨name, before, hlast, hwalk, hstep⟩ := h.last
  have hstart : after.start (Path.ofText path) = tree.start (Path.ofText path) := by rw [start, start, hhere]
  exact ⟨h.textFault, h.ending, ⟨name, before, hlast, hstart ▸ walk_mono hdir hwalk, hstep⟩, hfree⟩

theorem creatable_eq_ok_iff : tree.creatable path = .ok place ↔ tree.Leads path place := by
  constructor
  · intro h
    simp only [creatable] at h
    split at h
    · cases h
    · rename_i name htext hending hlast
      obtain ⟨before, hwalk, h⟩ := Except.bind_eq_ok_iff.1 h
      obtain ⟨last, hstep, h⟩ := Except.bind_eq_ok_iff.1 h
      split at h
      · cases h
      · rename_i hfree
        cases h
        exact ⟨htext, hending, ⟨name, before, hlast, hwalk, hstep⟩, Bool.eq_false_iff.2 hfree⟩
    · obtain ⟨before, -, h⟩ := Except.bind_eq_ok_iff.1 h
      cases h
    · cases h
  · intro h
    obtain ⟨name, before, hlast, hwalk, hstep⟩ := h.last
    simp [creatable, h.textFault, h.ending, hlast, hwalk, hstep, h.free, Except.bind]

theorem find_eq_file_iff : tree.find path = .ok (.file content) ↔
    ∃ place, tree.Leads path place ∧ tree.file? place = some content := by
  constructor
  · intro h
    simp only [find] at h
    split at h
    · cases h
    · split at h <;> cases h
    · rename_i name htext hlast
      obtain ⟨before, hwalk, h⟩ := Except.bind_eq_ok_iff.1 h
      obtain ⟨place, hstep, h⟩ := Except.bind_eq_ok_iff.1 h
      split at h
      · cases h
      · rename_i hfree
        split at h
        · cases h
        · rename_i text hfile
          split at h
          · rename_i hending
            cases h
            exact ⟨place, ⟨htext, hending, ⟨name, before, hlast, hwalk, hstep⟩, Bool.eq_false_iff.2 hfree⟩, hfile⟩
          · cases h
  · rintro ⟨place, h, hfile⟩
    obtain ⟨name, before, hlast, hwalk, hstep⟩ := h.last
    simp [find, h.textFault, h.ending, hlast, hwalk, hstep, h.free, hfile, Except.bind]

/-! ## Directories made on the way -/

/-- The tree has more directories, none of them in a file's place, and the same files. -/
structure Grows (tree after : Tree) : Prop where
  here_eq : after.here = tree.here
  files_eq : after.files = tree.files
  isDirectory_mono : ∀ p, tree.isDirectory p = true → after.isDirectory p = true
  isDirectory_file : ∀ p, (tree.file? p).isSome → after.isDirectory p = tree.isDirectory p

theorem Grows.refl (tree : Tree) : tree.Grows tree :=
  ⟨rfl, rfl, fun _ h => h, fun _ _ => rfl⟩

theorem Grows.file?_eq (h : tree.Grows after) (p : Place) : after.file? p = tree.file? p := by
  rw [file?, h.files_eq, file?]

theorem Grows.trans {last : Tree} (h : tree.Grows after) (hlast : after.Grows last) : tree.Grows last where
  here_eq := hlast.here_eq.trans h.here_eq
  files_eq := hlast.files_eq.trans h.files_eq
  isDirectory_mono p hp := hlast.isDirectory_mono p (h.isDirectory_mono p hp)
  isDirectory_file p hp := by
    rw [hlast.isDirectory_file p (by rwa [h.file?_eq]), h.isDirectory_file p hp]

theorem grows_directory (tree : Tree) {next : Place} (hnext : tree.file? next = none) :
    tree.Grows { tree with directories := tree.directories ++ [next] } where
  here_eq := rfl
  files_eq := rfl
  isDirectory_mono p hp := by
    simp only [isDirectory, Bool.or_eq_true, List.contains_iff_mem, List.mem_append] at hp ⊢
    exact hp.imp_right .inl
  isDirectory_file p hp := by
    have hne : p ≠ next := by rintro rfl; rw [hnext] at hp; cases hp
    simp [isDirectory, hne]

theorem grows_makeDirectories (tree : Tree) (device : Device) (made : Bool) (start : Place) (names : List Text) :
    tree.Grows (tree.makeDirectories device made start names).1 := by
  induction names generalizing tree made start with
  | nil => exact .refl tree
  | cons name rest ih =>
    rw [makeDirectories]
    split
    · exact .refl tree
    · rename_i next hstep
      split
      · exact ih tree made next
      · split
        · exact .refl tree
        · rename_i hfile
          split
          · exact .refl tree
          · exact (grows_directory tree (Option.not_isSome_iff_eq_none.1 hfile)).trans (ih _ true next)

theorem grows_makeParents (tree : Tree) (device : Device) (path : Text) :
    tree.Grows (tree.makeParents device path).1 := by
  simp only [makeParents]
  split
  · exact .refl tree
  · exact grows_makeDirectories tree device false _ _

/-! ## Writing -/

/-- The trees before and after bytes have been written at a path: they are found there, in the file of one place; the file
of every other place is as it was, and so is every file that was found at a path leading elsewhere. -/
structure Writes (before after : Tree) (path : Text) (content : Bytes) : Prop where
  find_eq : after.find path = .ok (.file content)
  others : ∃ place, after.creatable path = .ok place ∧
    (∀ other, other ≠ place → after.file? other = before.file? other) ∧
    ∀ q held, before.find q = .ok (.file held) → after.creatable q = .ok place ∨ after.find q = .ok (.file held)

/-- The trees before and after a writing that the machine has ended with a fault: what it has written stands there, and the
file of every other place is as it was. -/
def Breaks (device : Device) (before after : Tree) (path : Text) (content : Bytes) (fault : Fault) : Prop :=
  ∃ place count, after.creatable path = .ok place ∧ device.interruption? place content = some (count, fault) ∧
    before.Writes after path (content.take count)

theorem Leads.put (h : tree.Leads path place) (other : Place) (content : Bytes) :
    (tree.put other content).Leads path place :=
  h.mono rfl (fun _ hdir => hdir) h.free

/-- A path that led to a file leads there still when directories have been made. -/
theorem Leads.grows (h : tree.Leads path place) (hfile : (tree.file? place).isSome) (hgrows : tree.Grows after) :
    after.Leads path place :=
  h.mono hgrows.here_eq hgrows.isDirectory_mono ((hgrows.isDirectory_file place hfile).trans h.free)

theorem writes_put {grown : Tree} (hgrows : tree.Grows grown) (hleads : grown.Leads path place) :
    tree.Writes (grown.put place content) path content where
  find_eq := find_eq_file_iff.2 ⟨place, hleads.put place content, by rw [file?_put, if_pos rfl]⟩
  others := by
    refine ⟨place, creatable_eq_ok_iff.2 (hleads.put place content), fun other hne => ?_, fun q held hfind => ?_⟩
    · rw [file?_put, if_neg hne, hgrows.file?_eq]
    · -- no directory was made in the place of a file, so the path leads there still
      obtain ⟨found, hfound, hfile⟩ := find_eq_file_iff.1 hfind
      have hthere := (hfound.grows (hfile ▸ rfl) hgrows).put place content
      by_cases heq : found = place
      · exact .inl (creatable_eq_ok_iff.2 (heq ▸ hthere))
      · exact .inr (find_eq_file_iff.2 ⟨found, hthere, by rw [file?_put, if_neg heq, hgrows.file?_eq, hfile]⟩)

/-- **A write changes its own file only.**  When it fails, no file has been changed, or the machine has ended the writing
and a beginning of the bytes is there. -/
theorem write_cases (tree : Tree) (device : Device) (path : Text) (content : Bytes) :
    (∃ after, tree.write device path content = (after, .ok ()) ∧ tree.Writes after path content) ∨
    ∃ after fault, tree.write device path content = (after, .error fault) ∧
      (after.files = tree.files ∨ Breaks device tree after path content fault) := by
  have hgrows := grows_makeParents tree device path
  rw [write]
  rcases hparents : tree.makeParents device path with ⟨grown, fault | parent⟩
  · rw [hparents] at hgrows
    exact .inr ⟨grown, fault, rfl, .inl hgrows.files_eq⟩
  rw [hparents] at hgrows
  rcases hplace : grown.creatable path with fault | place
  · exact .inr ⟨grown, fault, by simp only [hplace], .inl hgrows.files_eq⟩
  have hleads : grown.Leads path place := creatable_eq_ok_iff.1 hplace
  -- the file is opened unless that is refused, and then the writing itself may be ended
  cases hrefusal : device.refusal? place with
  | some fault => exact .inr ⟨grown, fault, by simp only [hplace, hrefusal], .inl hgrows.files_eq⟩
  | none =>
    cases hinterruption : device.interruption? place content with
    | none => exact .inl ⟨grown.put place content, by simp only [hplace, hrefusal, hinterruption],
        writes_put hgrows hleads⟩
    | some ended =>
      obtain ⟨count, fault⟩ := ended
      exact .inr ⟨grown.put place (content.take count), fault, by simp only [hplace, hrefusal, hinterruption],
        .inr ⟨place, count, creatable_eq_ok_iff.2 (hleads.put place _), hinterruption, writes_put hgrows hleads⟩⟩

/-! ## The machine of a tree -/

@[simp] theorem run_machine_read (device : Device) (tree : Tree) (path : Text) :
    ((machine device).read path).run tree = (tree.find path, tree) := rfl

@[simp] theorem run_machine_write (device : Device) (tree : Tree) (path : Text) (content : Bytes) :
    ((machine device).write path content).run tree = (tree.write device path content).swap := rfl

end Tree
end Files
end GameShelf
