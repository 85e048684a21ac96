import GameShelf.Command.Arguments
import GameShelf.Proofs.Command.Options
import GameShelf.Proofs.Operator
/-!
# Arguments — options written one to an argument, in any order

Such an argument has its value attached, if it has one, and begins with dashes, so that it never is the value of the one
before it: a setting that still waits for a value when it comes goes without (`settle_read_write`).  So a command line of
such arguments is read option by option (`read_map_write`), and means what each option is given, wherever the options stand
among each other (`read_map_write_iff`).
-/
namespace GameShelf
namespace Command

def Flag.name : Flag → Text
  | descending => "desc".toList
  | verbose => "verbose".toList
  | help => "help".toList
  | version => "version".toList

def Setting.name : Setting → Text
  | catalog => "catalog".toList
  | filter => "filter".toList
  | sort => "sort".toList
  | add => "add".toList
  | remove => "remove".toList
  | save => "save".toList
  | output => "output".toList

/-- The argument of an option, with the value behind an equals sign. -/
def Item.write : Item → Text
  | flag f => '-' :: '-' :: f.name
  | setting s none => '-' :: '-' :: s.name
  | setting s (some value) => '-' :: '-' :: (s.name ++ '=' :: value)

theorem Switch.ofName?_flag (f : Flag) : ofName? f.name = some (.flag f) := by
  cases f <;> rfl

theorem Switch.ofName?_setting (t : Setting) : ofName? t.name = some (.setting t) := by
  cases t <;> rfl

theorem Flag.cut_name (f : Flag) : Text.cut ['='] f.name = none := by
  cases f <;> rfl

theorem Setting.cut_name (t : Setting) : Text.cut ['='] t.name = none := by
  cases t <;> rfl

/-- The value is all that stands behind the first equals sign, whatever it has in it. -/
theorem Setting.cut_name_append (t : Setting) (value : Text) :
    Text.cut ['='] (t.name ++ '=' :: value) = some (t.name, value) := by
  have hname : '=' ∉ t.name := by cases t <;> decide
  rw [List.append_cons]
  exact Text.cut_append value hname

/-! ## One argument -/

namespace Scan

variable {s : Scan}

theorem read_dashes (h : s.ended = false) {body : Text} (hbody : body ≠ []) :
    s.read ('-' :: '-' :: body) = s.long body := by
  obtain ⟨c, body, rfl⟩ := List.exists_cons_of_ne_nil hbody
  rw [read, h]
  · rfl
  · exact hbody

theorem read_flag (h : s.ended = false) (f : Flag) : s.read (Item.flag f).write = s.raise f := by
  rw [Item.write, read_dashes h (by cases f <;> decide)]
  simp only [long, Flag.cut_name, Switch.ofName?_flag]

theorem read_bare (h : s.ended = false) (t : Setting) : s.read (Item.setting t none).write = s.await t := by
  rw [Item.write, read_dashes h (by cases t <;> decide)]
  simp only [long, Setting.cut_name, Switch.ofName?_setting]

theorem read_attached (h : s.ended = false) (t : Setting) (value : Text) :
    s.read (Item.setting t (some value)).write = s.attach t value := by
  rw [Item.write, read_dashes h (by simp)]
  simp only [long, Setting.cut_name_append, Switch.ofName?_setting]

/-- **Reading an option and settling it is settling what waits, and then accepting the option.** -/
theorem settle_read_write (h : s.ended = false) (item : Item) :
    (s.read item.write >>= settle) = (s.settle >>= fun d => d.accept item) := by
  cases item with
  | flag f =>
    rw [read_flag h, raise, bind_assoc]
    refine bind_congr fun d => ?_
    rw [bind_assoc]
    exact bind_pure (d.raise f)
  | setting t value? =>
    cases value? with
    | none =>
      rw [read_bare h, await, bind_assoc]
      rfl
    | some value =>
      rw [read_attached h, attach, bind_assoc]
      refine bind_congr fun d => ?_
      rw [bind_assoc]
      exact bind_pure (d.set t (some value))

theorem ended_of_read_write (h : s.ended = false) {item : Item} {next : Scan} (hread : s.read item.write = .ok next) :
    next.ended = false := by
  cases item with
  | flag f =>
    rw [read_flag h, raise] at hread
    obtain ⟨_, -, hread⟩ := Except.bind_eq_ok_iff.1 hread
    obtain ⟨_, -, ⟨⟩⟩ := Except.bind_eq_ok_iff.1 hread
    exact h
  | setting t value? =>
    cases value? with
    | none =>
      rw [read_bare h, await] at hread
      obtain ⟨_, -, ⟨⟩⟩ := Except.bind_eq_ok_iff.1 hread
      exact h
    | some value =>
      rw [read_attached h, attach] at hread
      obtain ⟨_, -, hread⟩ := Except.bind_eq_ok_iff.1 hread
      obtain ⟨_, -, ⟨⟩⟩ := Except.bind_eq_ok_iff.1 hread
      exact h

/-! ## A command line -/

theorem settle_foldlM_read (items : List Item) (h : s.ended = false) :
    ((items.map Item.write).foldlM read s >>= settle) = (s.settle >>= fun d => items.foldlM Draft.accept d) := by
  induction items generalizing s with
  | nil => exact (bind_pure s.settle).symm
  | cons item items ih =>
    have hstep := settle_read_write h item
    simp only [List.map_cons, List.foldlM_cons]
    rw [← bind_assoc, ← hstep]
    cases hread : s.read item.write with
    | error e => rfl
    | ok next => exact ih (ended_of_read_write h hread)

end Scan

namespace Options

variable {log : Option Text}

/-- **A command line is read option by option.** -/
theorem read_map_write (env : Environment) (items : List Item) :
    read env (items.map Item.write) = (items.foldlM Draft.accept .empty >>= fun d => d.finish env) := by
  have hstart : Scan.start.settle = .ok .empty := rfl
  have hfold := Scan.settle_foldlM_read (s := .start) items rfl
  rw [hstart] at hfold
  rw [read, ← bind_assoc, hfold]
  rfl

/-- The flags that stand behind some options. -/
def raised (o : Options) : Flag → Bool
  | .descending => o.sort.direction.isDescending
  | .verbose => o.verbose
  | .help | .version => false

/-- A draft that means these options, with its column to sort by if it has one. -/
def draft (o : Options) (sort? : Option Column) : Draft :=
  ⟨some o.catalog, o.filters, sort?, o.raised .descending, o.adds, o.removes, o.save, o.output, o.raised .verbose⟩

theorem count_iff (o : Options) (sort? : Option Column) (f : Flag) {n : Nat} :
    (Draft.empty.raised f).toNat + n = ((o.draft sort?).raised f).toNat ↔ n = (o.raised f).toNat := by
  cases f <;> exact (Nat.zero_add n).congr_left

theorem finish_eq_ok_iff {d : Draft} {o : Options} : d.finish ⟨none, none, log⟩ = .ok o ↔
    ∃ sort?, sort?.getD .name = o.sort.column ∧ d = o.draft sort? := by
  rw [Draft.finish, Draft.pathOr_none, Draft.pathOr_none]
  cases hcatalog : d.catalog with
  | none =>
    constructor
    · rintro ⟨⟩
    · rintro ⟨sort?, -, rfl⟩
      cases hcatalog
  | some catalog =>
    constructor
    · rintro ⟨⟩
      have hdescending : d.descending = (Direction.ofAscending (!d.descending)).isDescending := by
        cases d.descending <;> rfl
      refine ⟨d.sort, rfl, ?_⟩
      rw [draft, ← hcatalog, raised, ← hdescending]
      rfl
    · rintro ⟨sort?, hsort, rfl⟩
      obtain rfl := Option.some.inj hcatalog
      have hdirection : Direction.ofAscending (!o.raised .descending) = o.sort.direction := by
        rw [raised]
        cases o.sort.direction <;> rfl
      show Except.ok { o with sort := ⟨sort?.getD .name, .ofAscending (!o.raised .descending)⟩ } = .ok o
      rw [hsort, hdirection]

end Options

/-- What a list of options has to be for a command line to mean `o`: each setting is given what `o` has for it, in the same
order, and each flag of `o` is raised once. -/
structure Writes (items : List Item) (o : Options) : Prop where
  catalog : given .catalog items = [some o.catalog] ∧ o.catalog ≠ []
  filters : given .filter items = o.filters.map some
  /-- The column by any of its names; none for the name. -/
  sort : given .sort items = [] ∧ o.sort.column = .name ∨
    ∃ name, given .sort items = [some name] ∧ Column.resolve name = some o.sort.column
  adds : given .add items = o.adds.map some
  removes : given .remove items = o.removes.map some
  save : given .save items = o.save.toList ∧ o.save ≠ some (some [])
  output : given .output items = o.output.toList.map some ∧ o.output ≠ some []
  flags : ∀ f, items.count (.flag f) = (o.raised f).toNat

/-- **A command line of such arguments means what each of its options is given**, whatever the values are and in whatever
order the options stand among each other. -/
theorem Options.read_map_write_iff (log : Option Text) (items : List Item) (o : Options) :
    read ⟨none, none, log⟩ (items.map Item.write) = .ok o ↔ Writes items o := by
  rw [read_map_write, Except.bind_eq_ok_iff]
  constructor
  · rintro ⟨d, hfold, hfinish⟩
    obtain ⟨sort?, hsort, rfl⟩ := finish_eq_ok_iff.1 hfinish
    have htakes := (Draft.foldlM_accept_eq_ok_iff items).1 hfold
    obtain ⟨hcatalog, hne⟩ := Draft.foldlM_takeOnce_path_eq_ok_iff.1 (htakes.get .catalog)
    exact {
      catalog := ⟨hcatalog, fun hnil => hne (congrArg some hnil)⟩
      filters := Draft.foldlM_takeEach_eq_ok_iff.1 (htakes.get .filter)
      sort := Draft.exists_foldlM_takeOnce_column_iff.1 ⟨sort?, hsort, htakes.get .sort⟩
      adds := Draft.foldlM_takeEach_eq_ok_iff.1 (htakes.get .add)
      removes := Draft.foldlM_takeEach_eq_ok_iff.1 (htakes.get .remove)
      save := Draft.foldlM_takePath?_eq_ok_iff.1 (htakes.get .save)
      output := Draft.foldlM_takeOnce_path_eq_ok_iff.1 (htakes.get .output)
      flags := fun f => (o.count_iff sort? f).1 (htakes.raised f) }
  · intro h
    obtain ⟨sort?, hsort, htaken⟩ := Draft.exists_foldlM_takeOnce_column_iff.2 h.sort
    refine ⟨o.draft sort?, (Draft.foldlM_accept_eq_ok_iff items).2 ⟨fun s => ?_, fun f => ?_⟩,
      finish_eq_ok_iff.2 ⟨sort?, hsort, rfl⟩⟩
    · cases s with
      | catalog =>
        obtain ⟨hcatalog, hne⟩ := h.catalog
        exact Draft.foldlM_takeOnce_path_eq_ok_iff.2 ⟨hcatalog, fun hnil => hne (Option.some.inj hnil)⟩
      | filter => exact Draft.foldlM_takeEach_eq_ok_iff.2 h.filters
      | sort => exact htaken
      | add => exact Draft.foldlM_takeEach_eq_ok_iff.2 h.adds
      | remove => exact Draft.foldlM_takeEach_eq_ok_iff.2 h.removes
      | save => exact Draft.foldlM_takePath?_eq_ok_iff.2 h.save
      | output => exact Draft.foldlM_takeOnce_path_eq_ok_iff.2 h.output
    · exact (o.count_iff sort? f).2 (h.flags f)

/-- The argument behind `--save` is not its value, a value that looks like an option is none, and the two additions stand in
their order. -/
example :
    Options.read ⟨none, none, none⟩ ["--add=-1".toList, "--save".toList, "--filter=--sort=x, id > 1".toList,
      "--catalog=a=b".toList, "--add=".toList, "--desc".toList, "--sort= RATING".toList] =
    .ok ⟨"a=b".toList, ["--sort=x, id > 1".toList], .descending .rating, ["-1".toList, []], [], some none, none, false⟩ := by
  rfl

end Command
end GameShelf
