import GameShelf.Command.Options
import GameShelf.Proofs.Except
import Mathlib.Order.Basic
/-!
# Options — options do not interfere

A draft keeps what its options have been given in places of their own, and an option touches none but its own place
(`set_eq`, `raise_eq_ok_iff`).  So a draft takes a list of options exactly when every setting takes the values that the list
gives to it, one after the other, and every flag is raised once at most (`foldlM_accept_eq_ok_iff`): how the options of
different places are mixed is lost.
-/
namespace GameShelf
namespace Command

/-- One option as it is given: a flag, or a setting with its value if it has one. -/
inductive Item
  | flag (f : Flag)
  | setting (s : Setting) (value? : Option Text)
deriving DecidableEq

/-- What an option gives to a setting, if it is that setting. -/
def Item.given? (s : Setting) : Item → Option (Option Text)
  | flag _ => none
  | setting t value? => if t = s then some value? else none

/-- What a list of options gives to a setting, in its order. -/
def given (s : Setting) (items : List Item) : List (Option Text) :=
  items.filterMap (Item.given? s)

theorem given_flag (s : Setting) (f : Flag) (items : List Item) :
    given s (.flag f :: items) = given s items := rfl

theorem given_setting_self (s : Setting) (value? : Option Text) (items : List Item) :
    given s (.setting s value? :: items) = value? :: given s items := by
  simp [given, Item.given?]

theorem given_setting_of_ne {s t : Setting} (h : t ≠ s) (value? : Option Text) (items : List Item) :
    given s (.setting t value? :: items) = given s items := by
  simp [given, Item.given?, h]

/-- What a draft can hold for a setting. -/
def Setting.Content : Setting → Type
  | .catalog | .output => Option Text
  | .filter | .add | .remove => List Text
  | .sort => Option Column
  | .save => Option (Option Text)

namespace Draft

variable {α : Type} {d d' : Draft} {s t : Setting} {f g : Flag} {values : List (Option Text)}

/-! ## The places of a draft -/

def get (d : Draft) : (s : Setting) → s.Content
  | .catalog => d.catalog
  | .filter => d.filters
  | .sort => d.sort
  | .add => d.adds
  | .remove => d.removes
  | .save => d.save
  | .output => d.output

def put (d : Draft) : (s : Setting) → s.Content → Draft
  | .catalog, catalog => { d with catalog }
  | .filter, filters => { d with filters }
  | .sort, sort => { d with sort }
  | .add, adds => { d with adds }
  | .remove, removes => { d with removes }
  | .save, save => { d with save }
  | .output, output => { d with output }

def raised (d : Draft) : Flag → Bool
  | .descending => d.descending
  | .verbose => d.verbose
  | .help | .version => false

def lift (d : Draft) : Flag → Draft
  | .descending => { d with descending := true }
  | .verbose => { d with verbose := true }
  | .help | .version => d

theorem get_put (d : Draft) (s : Setting) (content : s.Content) : (d.put s content).get s = content := by
  cases s <;> rfl

theorem get_put_of_ne (h : t ≠ s) (d : Draft) (content : s.Content) : (d.put s content).get t = d.get t := by
  cases s <;> cases t <;> first | rfl | exact absurd rfl h

theorem raised_put (d : Draft) (s : Setting) (content : s.Content) (f : Flag) :
    (d.put s content).raised f = d.raised f := by
  cases s <;> cases f <;> rfl

theorem get_lift (d : Draft) (f : Flag) (s : Setting) : (d.lift f).get s = d.get s := by
  cases f <;> cases s <;> rfl

theorem raised_lift_of_ne (h : g ≠ f) (d : Draft) : (d.lift f).raised g = d.raised g := by
  cases f <;> cases g <;> first | rfl | exact absurd rfl h

theorem raised_lift (h : d'.raised f = true) (d : Draft) : (d.lift f).raised f = true := by
  cases f <;> first | rfl | cases h

theorem eq_of_get (hget : ∀ s, d.get s = d'.get s) (hraised : ∀ f, d.raised f = d'.raised f) : d = d' := by
  cases d
  cases d'
  obtain rfl := hget .catalog
  obtain rfl := hget .filter
  obtain rfl := hget .sort
  obtain rfl := hget .add
  obtain rfl := hget .remove
  obtain rfl := hget .save
  obtain rfl := hget .output
  obtain rfl := hraised .descending
  obtain rfl := hraised .verbose
  rfl

/-! ## One option -/

def takeOnce (read : Text → Except UsageError α) (current : Option α) : Option Text → Except UsageError (Option α)
  | none => .error .invalidValue
  | some t => once current (read t)

/-- The content of a setting that is given once, with a path or without, after it is given once more. -/
def takePath? (current : Option (Option Text)) : Option Text → Except UsageError (Option (Option Text))
  | none => once current (.ok none)
  | some t => once current ((path t).map some)

def takeEach (ts : List Text) : Option Text → Except UsageError (List Text)
  | none => .error .invalidValue
  | some t => .ok (ts ++ [t])

def take : (s : Setting) → s.Content → Option Text → Except UsageError s.Content
  | .catalog | .output => takeOnce path
  | .sort => takeOnce column
  | .save => takePath?
  | .filter | .add | .remove => takeEach

/-- **A setting changes its own place only.** -/
theorem set_eq (d : Draft) (s : Setting) (value? : Option Text) :
    d.set s value? = (take s (d.get s) value?).map (d.put s) := by
  cases s <;> cases value? <;> rfl

/-- **A flag is raised once**, if there is a place for it. -/
theorem raise_eq_ok_iff :
    d.raise f = .ok d' ↔ d.raised f = false ∧ (d.lift f).raised f = true ∧ d.lift f = d' := by
  cases f with
  | descending => cases h : d.descending <;> simp [raise, raised, lift, h]
  | verbose => cases h : d.verbose <;> simp [raise, raised, lift, h]
  | help => simp [raise, raised]
  | version => simp [raise, raised]

/-! ## Options in a row -/

def accept (d : Draft) : Item → Except UsageError Draft
  | .flag f => d.raise f
  | .setting s value? => d.set s value?

/-- What a list of options makes of a draft, place by place. -/
structure Takes (d : Draft) (items : List Item) (d' : Draft) : Prop where
  get : ∀ s, (given s items).foldlM (take s) (d.get s) = .ok (d'.get s)
  raised : ∀ f, (d.raised f).toNat + items.count (.flag f) = (d'.raised f).toNat

theorem takes_nil_iff : Takes d [] d' ↔ d = d' := by
  constructor
  · intro h
    refine eq_of_get (fun s => Except.ok.inj (h.get s)) fun f => ?_
    rw [Bool.eq_iff_iff, ← Bool.toNat_eq_one, ← Bool.toNat_eq_one, ← h.raised f]
    rfl
  · rintro rfl
    exact ⟨fun s => rfl, fun f => rfl⟩

/-- A flag counts the same in a draft that has been given it and in front of the options that the draft is given. -/
theorem raised_add_count (hlow : d.raised f = false) (hhigh : (d.lift f).raised f = true) (g : Flag) (items : List Item) :
    (d.raised g).toNat + (Item.flag f :: items).count (.flag g) =
      ((d.lift f).raised g).toNat + items.count (.flag g) := by
  rcases eq_or_ne g f with rfl | hne
  · rw [List.count_cons_self, hlow, hhigh, Bool.toNat_false, Bool.toNat_true]
    omega
  · rw [raised_lift_of_ne hne, List.count_cons_of_ne fun h => hne (Item.flag.inj h).symm]

theorem takes_flag_iff (f : Flag) (items : List Item) :
    Takes d (.flag f :: items) d' ↔ ∃ next, d.raise f = .ok next ∧ Takes next items d' := by
  constructor
  · intro h
    -- the draft that comes of all has raised the flag, and once only
    have hf := h.raised f
    rw [List.count_cons_self] at hf
    have hle := Bool.toNat_le (d'.raised f)
    have hlow : d.raised f = false := Bool.toNat_eq_zero.1 (by omega)
    have hraise : d'.raised f = true := Bool.toNat_eq_one.1 (by omega)
    have hhigh := raised_lift hraise d
    refine ⟨d.lift f, raise_eq_ok_iff.2 ⟨hlow, hhigh, rfl⟩, fun s => ?_, fun g => ?_⟩
    · rw [get_lift, ← h.get, given_flag]
    · rw [← h.raised, raised_add_count hlow hhigh]
  · rintro ⟨next, hraise, h⟩
    obtain ⟨hlow, hhigh, rfl⟩ := raise_eq_ok_iff.1 hraise
    refine ⟨fun s => ?_, fun g => ?_⟩
    · rw [given_flag, ← h.get, get_lift]
    · rw [raised_add_count hlow hhigh, h.raised]

theorem takes_setting_iff (s : Setting) (value? : Option Text) (items : List Item) :
    Takes d (.setting s value? :: items) d' ↔ ∃ next, d.set s value? = .ok next ∧ Takes next items d' := by
  have hcount : ∀ g, (Item.setting s value? :: items).count (.flag g) = items.count (.flag g) := fun g =>
    List.count_cons_of_ne (by simp)
  constructor
  · intro h
    have hs := h.get s
    rw [given_setting_self, List.foldlM_cons] at hs
    obtain ⟨content, htake, hrest⟩ := Except.bind_eq_ok_iff.1 hs
    refine ⟨d.put s content, ?_, fun t => ?_, fun g => ?_⟩
    · rw [set_eq, htake]
      rfl
    · rcases eq_or_ne t s with rfl | hne
      · rw [get_put, hrest]
      · rw [get_put_of_ne hne, ← h.get, given_setting_of_ne hne.symm]
    · rw [raised_put, ← h.raised, hcount]
  · rintro ⟨next, hset, h⟩
    obtain ⟨content, htake, rfl⟩ := Except.map_eq_ok_iff.1 ((set_eq d s value?).symm.trans hset)
    refine ⟨fun t => ?_, fun g => ?_⟩
    · rcases eq_or_ne t s with rfl | hne
      · rw [given_setting_self, List.foldlM_cons, htake, ← h.get, get_put]
        rfl
      · rw [given_setting_of_ne hne.symm, ← h.get, get_put_of_ne hne]
    · rw [hcount, ← h.raised, raised_put]

/-- **Options act each on its own place**, in the order in which that place is given them. -/
theorem foldlM_accept_eq_ok_iff (items : List Item) : items.foldlM accept d = .ok d' ↔ Takes d items d' := by
  induction items generalizing d with
  | nil =>
    rw [takes_nil_iff]
    exact ⟨Except.ok.inj, congrArg Except.ok⟩
  | cons item items ih =>
    rw [List.foldlM_cons, Except.bind_eq_ok_iff]
    simp only [ih]
    cases item with
    | flag f => exact (takes_flag_iff f items).symm
    | setting s value? => exact (takes_setting_iff s value? items).symm

/-! ## The values of one setting -/

theorem path_eq_ok_iff {t p : Text} : path t = .ok p ↔ t = p ∧ p ≠ [] := by
  unfold path
  cases t with
  | nil => simp [eq_comm]
  | cons c t => simpa using fun h : c :: t = p => h ▸ List.cons_ne_nil c t

theorem column_eq_ok_iff {t : Text} {c : Column} : column t = .ok c ↔ Column.resolve t = some c := by
  unfold column
  cases Column.resolve t <;> simp

theorem once_eq_ok_iff {current next : Option α} {value : Except UsageError α} :
    once current value = .ok next ↔ current = none ∧ ∃ a, value = .ok a ∧ next = some a := by
  cases current with
  | none => exact Except.map_eq_ok_iff.trans (by simp [eq_comm])
  | some a => simp [once]

theorem takeOnce_eq_ok_iff {read : Text → Except UsageError α} (current : Option α) (value? : Option Text)
    (next : Option α) :
    takeOnce read current value? = .ok next ↔
      current = none ∧ ∃ a, (∃ t, value? = some t ∧ read t = .ok a) ∧ next = some a := by
  cases value? with
  | none => simp [takeOnce]
  | some t => simpa [takeOnce] using once_eq_ok_iff

theorem takePath?_eq_ok_iff (current : Option (Option Text)) (value? : Option Text) (next : Option (Option Text)) :
    takePath? current value? = .ok next ↔
      current = none ∧ ∃ p?, (value? = p? ∧ p? ≠ some []) ∧ next = some p? := by
  cases value? with
  | none =>
    rw [takePath?, once_eq_ok_iff]
    refine and_congr_right fun _ => ⟨?_, ?_⟩
    · rintro ⟨_, ⟨⟩, rfl⟩
      exact ⟨none, ⟨rfl, by simp⟩, rfl⟩
    · rintro ⟨_, ⟨rfl, -⟩, rfl⟩
      exact ⟨none, rfl, rfl⟩
  | some t =>
    rw [takePath?, once_eq_ok_iff]
    refine and_congr_right fun _ => ⟨?_, ?_⟩
    · rintro ⟨_, hread, rfl⟩
      obtain ⟨p, hp, rfl⟩ := Except.map_eq_ok_iff.1 hread
      obtain ⟨rfl, hne⟩ := path_eq_ok_iff.1 hp
      exact ⟨some t, ⟨rfl, by simpa using hne⟩, rfl⟩
    · rintro ⟨_, ⟨rfl, hne⟩, rfl⟩
      have hpath : path t = .ok t := path_eq_ok_iff.2 ⟨rfl, by simpa using hne⟩
      exact ⟨some t, Except.map_eq_ok_iff.2 ⟨t, hpath, rfl⟩, rfl⟩

theorem foldlM_once_eq_ok_iff {step : Option α → Option Text → Except UsageError (Option α)}
    {Gives : Option Text → α → Prop} {content : Option α}
    (hstep : ∀ current value? next, step current value? = .ok next ↔
      current = none ∧ ∃ a, Gives value? a ∧ next = some a) :
    values.foldlM step none = .ok content ↔
      values = [] ∧ content = none ∨ ∃ value? a, values = [value?] ∧ Gives value? a ∧ content = some a := by
  cases values with
  | nil => simp [eq_comm, pure, Except.pure]
  | cons value? rest =>
    rw [List.foldlM_cons, Except.bind_eq_ok_iff]
    constructor
    · rintro ⟨next, hnext, hrest⟩
      obtain ⟨-, a, ha, rfl⟩ := (hstep _ _ _).1 hnext
      cases rest with
      | nil => exact .inr ⟨value?, a, rfl, ha, (Except.ok.inj hrest).symm⟩
      | cons other rest =>
        -- a second value meets a setting that has one
        rw [List.foldlM_cons, Except.bind_eq_ok_iff] at hrest
        obtain ⟨_, hother, -⟩ := hrest
        cases ((hstep _ _ _).1 hother).1
    · rintro (⟨h, -⟩ | ⟨_, a, h, ha, rfl⟩)
      · cases h
      · obtain ⟨rfl, rfl⟩ := List.cons.inj h
        exact ⟨some a, (hstep _ _ _).2 ⟨rfl, a, ha, rfl⟩, rfl⟩

theorem foldlM_takeEach_append {ts ts' : List Text} :
    values.foldlM takeEach ts = .ok ts' ↔ ∃ more, values = more.map some ∧ ts' = ts ++ more := by
  induction values generalizing ts with
  | nil =>
    constructor
    · rintro ⟨⟩
      exact ⟨[], rfl, (List.append_nil ts').symm⟩
    · rintro ⟨more, hmore, rfl⟩
      rw [List.map_eq_nil_iff.1 hmore.symm, List.append_nil]
      rfl
  | cons value? rest ih =>
    rw [List.foldlM_cons, Except.bind_eq_ok_iff]
    cases value? with
    | none =>
      constructor
      · rintro ⟨_, ⟨⟩, -⟩
      · rintro ⟨more, hmore, -⟩
        cases more <;> cases hmore
    | some t =>
      constructor
      · rintro ⟨_, ⟨⟩, hrest⟩
        obtain ⟨more, rfl, rfl⟩ := ih.1 hrest
        exact ⟨t :: more, rfl, List.append_assoc ts [t] more⟩
      · rintro ⟨more, hmore, rfl⟩
        cases more with
        | nil => cases hmore
        | cons u more =>
          obtain ⟨⟨⟩, rfl⟩ := List.cons.inj hmore
          exact ⟨ts ++ [t], rfl, ih.2 ⟨more, rfl, (List.append_assoc ts [t] more).symm⟩⟩

theorem foldlM_takeEach_eq_ok_iff {ts : List Text} : values.foldlM takeEach [] = .ok ts ↔ values = ts.map some := by
  rw [foldlM_takeEach_append]
  simp

theorem foldlM_takeOnce_path_eq_ok_iff {p? : Option Text} :
    values.foldlM (takeOnce path) none = .ok p? ↔ values = p?.toList.map some ∧ p? ≠ some [] := by
  rw [foldlM_once_eq_ok_iff takeOnce_eq_ok_iff]
  cases p? with
  | none => simp
  | some p =>
    constructor
    · rintro (⟨-, ⟨⟩⟩ | ⟨_, _, rfl, ⟨t, rfl, hread⟩, ⟨⟩⟩)
      obtain ⟨rfl, hne⟩ := path_eq_ok_iff.1 hread
      exact ⟨rfl, by simpa using hne⟩
    · rintro ⟨rfl, hne⟩
      have hread : path p = .ok p := path_eq_ok_iff.2 ⟨rfl, by simpa using hne⟩
      exact .inr ⟨some p, p, rfl, ⟨p, rfl, hread⟩, rfl⟩

theorem foldlM_takePath?_eq_ok_iff {p? : Option (Option Text)} :
    values.foldlM takePath? none = .ok p? ↔ values = p?.toList ∧ p? ≠ some (some []) := by
  rw [foldlM_once_eq_ok_iff takePath?_eq_ok_iff]
  cases p? with
  | none => simp
  | some p =>
    constructor
    · rintro (⟨-, ⟨⟩⟩ | ⟨_, _, rfl, ⟨rfl, hne⟩, ⟨⟩⟩)
      exact ⟨rfl, by simpa using hne⟩
    · rintro ⟨rfl, hne⟩
      exact .inr ⟨p, p, rfl, ⟨rfl, by simpa using hne⟩, rfl⟩

/-- The column that a draft sorts by is that of the one name it has been given, or the name of the game. -/
theorem exists_foldlM_takeOnce_column_iff {c : Column} :
    (∃ c?, c?.getD .name = c ∧ values.foldlM (takeOnce column) none = .ok c?) ↔
      values = [] ∧ c = .name ∨ ∃ name, values = [some name] ∧ Column.resolve name = some c := by
  simp only [foldlM_once_eq_ok_iff takeOnce_eq_ok_iff]
  constructor
  · rintro ⟨_, rfl, ⟨rfl, rfl⟩ | ⟨_, c, rfl, ⟨name, rfl, hread⟩, rfl⟩⟩
    · exact .inl ⟨rfl, rfl⟩
    · exact .inr ⟨name, rfl, column_eq_ok_iff.1 hread⟩
  · rintro (⟨rfl, rfl⟩ | ⟨name, rfl, hresolve⟩)
    · exact ⟨none, rfl, .inl ⟨rfl, rfl⟩⟩
    · exact ⟨some c, rfl, .inr ⟨some name, c, rfl, ⟨name, rfl, column_eq_ok_iff.2 hresolve⟩, rfl⟩⟩

/-! ## A complete draft -/

theorem pathOr_none (given : Option Text) : pathOr given none = .ok given := by
  cases given <;> rfl

end Draft
end Command
end GameShelf
