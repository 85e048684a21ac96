import GameShelf.Proofs.Catalog.Blocks
import GameShelf.Proofs.Csv.Writing
import Mathlib.Data.List.Forall2
import Mathlib.Data.List.Zip
/-!
# Columns — a catalog's columns are found by their keys

The field of a column is the one below its key, wherever the two stand and whatever columns stand beside them
(`Layout.field?_set`).  So a catalog with its columns in another order, and with other columns added, gives the same rows; and
a catalog that lacks a key, or has one twice, gives no game at all (`rows_of_columns`).
-/
namespace GameShelf
namespace Catalog

variable {α β : Type} {order : List Nat} {keys row texts : List Text} {record extra : List Bytes} {c : Column}

/-! ## Places -/

/-- What a list holds at these places, in this order. -/
def arrange (order : List Nat) (xs : List α) : List α :=
  order.filterMap (xs[·]?)

theorem map_arrange (f : α → β) (order : List Nat) (xs : List α) : (arrange order xs).map f = arrange order (xs.map f) := by
  simp only [arrange, List.map_filterMap, List.getElem?_map]

theorem arrange_range (xs : List α) : arrange (List.range xs.length) xs = xs := by
  induction xs with
  | nil => rfl
  | cons x xs ih =>
    rw [arrange, List.length_cons, List.range_succ_eq_map, List.filterMap_cons, List.filterMap_map]
    exact congrArg (x :: ·) ih

theorem arrange_perm {xs : List α} (h : order.Perm (List.range xs.length)) : (arrange order xs).Perm xs := by
  have hperm : (arrange order xs).Perm (arrange (List.range xs.length) xs) := h.filterMap _
  rwa [arrange_range] at hperm

theorem zip_arrange (order : List Nat) {xs : List α} {ys : List β} (h : xs.length = ys.length) :
    (arrange order xs).zip (arrange order ys) = arrange order (xs.zip ys) := by
  refine (List.zip_of_prod ?_ ?_).symm
  · rw [map_arrange, List.map_fst_zip (Nat.le_of_eq h)]
  · rw [map_arrange, List.map_snd_zip (Nat.le_of_eq h.symm)]

/-! ## Fields -/

def text? (field : Bytes) : Option Text :=
  (Text.decode field).map Text.trim

theorem fields_cons (field : Bytes) (record : List Bytes) :
    fields (field :: record) = (text? field).bind fun t => (fields record).map (t :: ·) := by
  rw [fields, List.mapM_cons, text?]
  cases (Text.decode field).map Text.trim with
  | none => rfl
  | some t => cases h : fields record <;> rw [fields] at h <;> simp [h]

theorem fields_eq_some_iff : fields record = some row ↔ record.map text? = row.map some := by
  induction record generalizing row with
  | nil => cases row <;> simp [fields]
  | cons field record ih =>
    rw [fields_cons]
    cases row with
    | nil => cases text? field <;> simp
    | cons t row => cases h : text? field <;> simp [h, ih, and_comm]

theorem isSome_fields_iff : (fields record).isSome ↔ ∀ field ∈ record, (text? field).isSome := by
  induction record with
  | nil => simp [fields]
  | cons field record ih =>
    rw [fields_cons, List.forall_mem_cons, ← ih]
    cases text? field <;> simp

theorem length_of_fields (h : fields record = some row) : row.length = record.length := by
  have hlength := congrArg List.length (fields_eq_some_iff.1 h)
  rw [List.length_map, List.length_map] at hlength
  exact hlength.symm

theorem fields_arrange_append (horder : order.Perm (List.range (record ++ extra).length)) (hextra : fields extra = some texts) :
    fields (arrange order (record ++ extra)) = (fields record).map fun row => arrange order (row ++ texts) := by
  cases hrecord : fields record with
  | some row =>
    refine fields_eq_some_iff.2 ?_
    rw [map_arrange, List.map_append, fields_eq_some_iff.1 hrecord, fields_eq_some_iff.1 hextra, ← List.map_append,
      ← map_arrange]
  | none =>
    by_contra hsome
    have hall := isSome_fields_iff.1 (Option.isSome_iff_ne_none.2 hsome)
    have hrecord' : (fields record).isSome := isSome_fields_iff.2 fun field hfield =>
      hall field ((arrange_perm horder).mem_iff.2 (List.mem_append_left extra hfield))
    rw [hrecord] at hrecord'
    cases hrecord'

theorem field?_eq_some_iff {field : Text} :
    field? keys row c = some field ↔ (keys.zip row).filter (·.1 = c.canonical) = [(c.canonical, field)] := by
  have hkey : ∀ e ∈ (keys.zip row).filter (·.1 = c.canonical), e.1 = c.canonical := fun e he => by
    simpa using (List.mem_filter.1 he).2
  unfold field?
  revert hkey
  generalize (keys.zip row).filter (·.1 = c.canonical) = found
  intro hkey
  match found with
  | [] => simp
  | [(key, t)] =>
    have : key = c.canonical := hkey (key, t) List.mem_cons_self
    simp [this]
  | e :: f :: rest => simp

theorem field?_congr {others values : List Text}
    (h : ((others.zip values).filter (·.1 = c.canonical)).Perm ((keys.zip row).filter (·.1 = c.canonical))) :
    field? others values c = field? keys row c := by
  refine Option.ext fun field => ?_
  rw [field?_eq_some_iff, field?_eq_some_iff]
  constructor
  · intro hfound
    rw [hfound] at h
    exact List.perm_singleton.1 h.symm
  · intro hfound
    rw [hfound] at h
    exact List.perm_singleton.1 h

/-- What a field says in a column, by the kind of the column. -/
def value? (c : Column) (field : Text) : Option Value :=
  match c.kind with
  | .text => some (.text field)
  | .integer => (Integer.readMarked field).map .integer
  | .real => (Binary64.read field).map .real

theorem value?_eq_text_iff {field t : Text} (hc : c.kind = .text) : value? c field = some (.text t) ↔ field = t := by
  simp [value?, hc]

theorem value?_eq_integer_iff {field : Text} {n : Int64} (hc : c.kind = .integer) :
    value? c field = some (.integer n) ↔ Integer.readMarked field = some n := by
  simp [value?, hc]

theorem value?_eq_real_iff {field : Text} {x : Binary64} (hc : c.kind = .real) :
    value? c field = some (.real x) ↔ Binary64.read field = some x := by
  simp [value?, hc]

/-- **A row gives the game that has in each column what the column's field says**, and no game if one of the ten is missing
or says nothing. -/
theorem game?_eq_some_iff {g : Game} :
    game? keys row = some g ↔ ∀ c, ∃ field, field? keys row c = some field ∧ value? c field = some (g.value c) := by
  constructor
  · intro h c
    simp only [game?, Option.bind_eq_bind, Option.bind_eq_some_iff, pure, Option.some.injEq] at h
    obtain ⟨name, hname, id, ⟨_, hid, rid⟩, minPlayers, ⟨_, hminPlayers, rminPlayers⟩, maxPlayers,
      ⟨_, hmaxPlayers, rmaxPlayers⟩, minTime, ⟨_, hminTime, rminTime⟩, maxTime, ⟨_, hmaxTime, rmaxTime⟩, difficulty,
      ⟨_, hdifficulty, rdifficulty⟩, rank, ⟨_, hrank, rrank⟩, rating, ⟨_, hrating, rrating⟩, year, ⟨_, hyear, ryear⟩,
      rfl⟩ := h
    cases c with
    | name => exact ⟨_, hname, rfl⟩
    | id => exact ⟨_, hid, (value?_eq_integer_iff rfl).2 rid⟩
    | minPlayers => exact ⟨_, hminPlayers, (value?_eq_integer_iff rfl).2 rminPlayers⟩
    | maxPlayers => exact ⟨_, hmaxPlayers, (value?_eq_integer_iff rfl).2 rmaxPlayers⟩
    | minTime => exact ⟨_, hminTime, (value?_eq_integer_iff rfl).2 rminTime⟩
    | maxTime => exact ⟨_, hmaxTime, (value?_eq_integer_iff rfl).2 rmaxTime⟩
    | difficulty => exact ⟨_, hdifficulty, (value?_eq_real_iff rfl).2 rdifficulty⟩
    | rank => exact ⟨_, hrank, (value?_eq_integer_iff rfl).2 rrank⟩
    | rating => exact ⟨_, hrating, (value?_eq_real_iff rfl).2 rrating⟩
    | year => exact ⟨_, hyear, (value?_eq_integer_iff rfl).2 ryear⟩
  · intro h
    have hinteger : ∀ c n, c.kind = .integer → g.value c = .integer n →
        (field? keys row c).bind Integer.readMarked = some n := fun c n hc hn => by
      obtain ⟨field, hfield, hvalue⟩ := h c
      rw [hfield, Option.bind_some, ← value?_eq_integer_iff hc, hvalue, hn]
    have hreal : ∀ c x, c.kind = .real → g.value c = .real x →
        (field? keys row c).bind Binary64.read = some x := fun c x hc hx => by
      obtain ⟨field, hfield, hvalue⟩ := h c
      rw [hfield, Option.bind_some, ← value?_eq_real_iff hc, hvalue, hx]
    obtain ⟨name, hname, hvalue⟩ := h .name
    rw [(value?_eq_text_iff rfl).1 hvalue] at hname
    simp [game?, hname, hinteger .id _ rfl rfl, hinteger .minPlayers _ rfl rfl, hinteger .maxPlayers _ rfl rfl,
      hinteger .minTime _ rfl rfl, hinteger .maxTime _ rfl rfl, hreal .difficulty _ rfl rfl, hinteger .rank _ rfl rfl,
      hreal .rating _ rfl rfl, hinteger .year _ rfl rfl]

/-- A record is a game exactly when it is as long as the header, is text, and its fields say what the game has. -/
theorem readRow_eq_some_iff {g : Game} : readRow keys record = some g ↔ record.length = keys.length ∧
    ∃ row, fields record = some row ∧ ∀ c, ∃ field, field? keys row c = some field ∧ value? c field = some (g.value c) := by
  unfold readRow
  split
  · simp [*, Option.bind_eq_some_iff, game?_eq_some_iff]
  · simp [*]

theorem game?_congr {others fields : List Text} (h : ∀ c, field? others fields c = field? keys row c) :
    game? others fields = game? keys row := by
  refine Option.ext fun g => ?_
  simp only [game?_eq_some_iff, h]

theorem game?_eq_none (h : field? keys row c = none) : game? keys row = none := by
  by_contra hsome
  obtain ⟨g, hg⟩ := Option.ne_none_iff_exists'.1 hsome
  obtain ⟨field, hfield, -⟩ := game?_eq_some_iff.1 hg c
  cases h.symm.trans hfield

theorem field?_eq_none (hcount : keys.count c.canonical ≠ 1) (hlength : keys.length = row.length) :
    field? keys row c = none := by
  have hfound : keys.count c.canonical = ((keys.zip row).filter (·.1 = c.canonical)).length := by
    calc keys.count c.canonical
        = ((keys.zip row).map Prod.fst).count c.canonical := by rw [List.map_fst_zip (Nat.le_of_eq hlength)]
      _ = ((keys.zip row).filter (·.1 = c.canonical)).length := by
          rw [List.count_eq_countP, List.countP_map, List.countP_eq_length_filter]
          exact congrArg List.length (List.filter_congr fun e _ => beq_eq_decide _ _)
  by_contra hsome
  obtain ⟨field, hfield⟩ := Option.ne_none_iff_exists'.1 hsome
  rw [hfound, field?_eq_some_iff.1 hfield] at hcount
  exact hcount rfl

/-- Without its column, or with two of it, no record gives a game. -/
theorem readRow_eq_none (hcount : keys.count c.canonical ≠ 1) (record : List Bytes) : readRow keys record = none := by
  unfold readRow
  split
  · rename_i hlength
    cases hrow : fields record with
    | none => rfl
    | some row => exact game?_eq_none (field?_eq_none hcount ((length_of_fields hrow).trans hlength).symm)
  · rfl

/-! ## Columns set anew -/

/-- How the columns of a catalog are set anew: which ones are added, by their keys, and the order in which all of them then
stand, the added ones counted behind the others. -/
structure Layout where
  width : Nat
  added : List Bytes
  order : List Nat
  order_perm : order.Perm (List.range (width + added.length))
  added_other : ∀ key ∈ added, ∃ t, text? key = some t ∧ ∀ c : Column, t ≠ c.canonical

namespace Layout

/-- A record with these fields for the added columns.  If it has a field for each of the others, all stand in the new order;
if not, the fields are put at its end. -/
def set (l : Layout) (record extra : List Bytes) : List Bytes :=
  if record.length = l.width then arrange l.order (record ++ extra) else record ++ extra

/-- There is a field for each added column, and if the record has one for each of the others, they are text. -/
structure Fits (l : Layout) (record extra : List Bytes) : Prop where
  length_eq : extra.length = l.added.length
  text : record.length = l.width → ∀ field ∈ extra, (text? field).isSome

variable {l : Layout}

theorem perm_range (l : Layout) {n : Nat} (h : n = l.width + l.added.length) : l.order.Perm (List.range n) :=
  h ▸ l.order_perm

theorem Fits.perm_range (h : l.Fits record extra) (hwidth : record.length = l.width) :
    l.order.Perm (List.range (record ++ extra).length) :=
  l.perm_range (by rw [List.length_append, hwidth, h.length_eq])

theorem Fits.length_set (h : l.Fits record extra) : (l.set record extra).length = record.length + l.added.length := by
  unfold set
  split
  · rename_i hwidth
    rw [(arrange_perm (h.perm_range hwidth)).length_eq, List.length_append, h.length_eq]
  · rw [List.length_append, h.length_eq]

theorem exists_others (l : Layout) :
    ∃ others, fields l.added = some others ∧ ∀ t ∈ others, ∀ c : Column, t ≠ c.canonical := by
  have htext : (fields l.added).isSome := isSome_fields_iff.2 fun key hkey => by
    obtain ⟨t, ht, -⟩ := l.added_other key hkey
    rw [ht]
    rfl
  obtain ⟨others, hothers⟩ := Option.isSome_iff_exists.1 htext
  refine ⟨others, hothers, fun t ht => ?_⟩
  have hmem : some t ∈ l.added.map text? := by
    rw [fields_eq_some_iff.1 hothers]
    exact List.mem_map_of_mem ht
  obtain ⟨key, hkey, hkeyText⟩ := List.mem_map.1 hmem
  obtain ⟨u, hu, hother⟩ := l.added_other key hkey
  obtain rfl : u = t := Option.some.inj (hu.symm.trans hkeyText)
  exact hother

theorem fits_added (l : Layout) {header : List Bytes} : l.Fits header l.added where
  length_eq := rfl
  text _ := by
    obtain ⟨others, hothers, -⟩ := l.exists_others
    exact isSome_fields_iff.1 (hothers ▸ rfl)

theorem fields_set (h : l.Fits record extra) (hwidth : record.length = l.width) (hextra : fields extra = some texts) :
    fields (l.set record extra) = (fields record).map fun row => arrange l.order (row ++ texts) := by
  rw [set, if_pos hwidth, fields_arrange_append (h.perm_range hwidth) hextra]

/-- **A column's field is found wherever the column stands**, and whatever columns are added. -/
theorem field?_set {others : List Text} (hkeys : keys.length = l.width) (hrow : row.length = l.width)
    (hothers : others.length = l.added.length) (htexts : texts.length = l.added.length)
    (hother : ∀ t ∈ others, ∀ c : Column, t ≠ c.canonical) (c : Column) :
    field? (arrange l.order (keys ++ others)) (arrange l.order (row ++ texts)) c = field? keys row c := by
  have hzip : (keys ++ others).zip (row ++ texts) = keys.zip row ++ others.zip texts :=
    List.zip_append (hkeys.trans hrow.symm)
  have hlength : ((keys ++ others).zip (row ++ texts)).length = l.width + l.added.length := by
    simp only [List.length_zip, List.length_append, hkeys, hrow, hothers, htexts, Nat.min_self]
  have hnone : (others.zip texts).filter (·.1 = c.canonical) = [] := List.filter_eq_nil_iff.2 fun e he => by
    simpa using hother e.1 (List.of_mem_zip he).1 c
  refine field?_congr ?_
  rw [zip_arrange _ (by rw [List.length_append, List.length_append, hkeys, hrow, hothers, htexts])]
  have hperm := (arrange_perm (l.perm_range hlength)).filter (·.1 = c.canonical)
  rwa [hzip, List.filter_append, hnone, List.append_nil, ← hzip] at hperm

/-- **A row gives what it gave before its columns were set anew.** -/
theorem readRow_set {others : List Text} (hkeys : keys.length = l.width) (hothers : others.length = l.added.length)
    (hother : ∀ t ∈ others, ∀ c : Column, t ≠ c.canonical) (h : l.Fits record extra) :
    readRow (arrange l.order (keys ++ others)) (l.set record extra) = readRow keys record := by
  have hlength : (keys ++ others).length = l.width + l.added.length := by rw [List.length_append, hkeys, hothers]
  have hwidths := (arrange_perm (l.perm_range hlength)).length_eq.trans hlength
  rw [readRow, readRow, h.length_set, hwidths, hkeys]
  by_cases hwidth : record.length = l.width
  · rw [if_pos (by omega), if_pos hwidth]
    obtain ⟨texts, htexts⟩ := Option.isSome_iff_exists.1 (isSome_fields_iff.2 (h.text hwidth))
    rw [fields_set h hwidth htexts]
    cases hrow : fields record with
    | none => rfl
    | some row =>
      have hrowLength : row.length = l.width := (length_of_fields hrow).trans hwidth
      have htextsLength : texts.length = l.added.length := (length_of_fields htexts).trans h.length_eq
      exact game?_congr (field?_set hkeys hrowLength hothers htextsLength hother)
  · rw [if_neg (by omega), if_neg hwidth]

end Layout

theorem games_replicate_none (n : Nat) : games (List.replicate n none) = [] := by
  induction n with
  | zero => rfl
  | succ n ih => exact ih

theorem skipped_replicate_none (n : Nat) : skipped (List.replicate n none) = List.range' 1 n := by
  induction n with
  | zero => rfl
  | succ n ih =>
    have hlast : (skipped [none]).map (· + n) = [1 + 1 * n] := by simp [skipped, Nat.add_comm]
    rw [List.replicate_succ', skipped_append, ih, List.length_replicate, hlast, List.range'_concat]

/-! ## Catalogs -/

theorem map_readRow_zipWith_set {l : Layout} {records extras : List (List Bytes)} {others : List Text}
    (hkeys : keys.length = l.width) (hothers : others.length = l.added.length)
    (hother : ∀ t ∈ others, ∀ c : Column, t ≠ c.canonical) (hfits : List.Forall₂ l.Fits records extras) :
    (List.zipWith l.set records extras).map (readRow (arrange l.order (keys ++ others))) = records.map (readRow keys) := by
  induction hfits with
  | nil => rfl
  | cons h _ ih => rw [List.zipWith_cons_cons, List.map_cons, List.map_cons, Layout.readRow_set hkeys hothers hother h, ih]

theorem set_ne_nil {l : Layout} {records extras : List (List Bytes)} (hrecords : ∀ record ∈ records, record ≠ [])
    (hfits : List.Forall₂ l.Fits records extras) : ∀ row ∈ List.zipWith l.set records extras, row ≠ [] := by
  induction hfits with
  | nil => exact nofun
  | cons h _ ih =>
    obtain ⟨hrecord, hrest⟩ := List.forall_mem_cons.1 hrecords
    rw [List.zipWith_cons_cons]
    refine List.forall_mem_cons.2 ⟨List.ne_nil_of_length_pos ?_, ih hrest⟩
    rw [h.length_set]
    exact Nat.add_pos_left (List.length_pos_iff.2 hrecord) _

/-- **Columns are matched by their keys, not by their places.**  A file whose columns are set anew exists, and every such file
gives the rows that the old one gave: the same games, and the same numbers of skipped rows.  Where a key of a game's columns
is missing or stands twice, the file is read nevertheless, gives no game, and skips all its rows. -/
theorem rows_of_columns {file : Bytes} {header : List Bytes} {records : List (List Bytes)}
    (hfile : Csv.records file = header :: records) :
    (∀ (l : Layout) (extras : List (List Bytes)), header.length = l.width → List.Forall₂ l.Fits records extras →
      (∃ other, Csv.records other = l.set header l.added :: List.zipWith l.set records extras) ∧
      ∀ other, Csv.records other = l.set header l.added :: List.zipWith l.set records extras → rows other = rows file) ∧
    ∀ keys, fields header = some keys → (∃ c : Column, keys.count c.canonical ≠ 1) →
      ∃ results, rows file = some results ∧ games results = [] ∧ skipped results = List.range' 1 records.length := by
  refine ⟨fun l extras hheader hfits => ⟨?_, fun other hrecords => ?_⟩, ?_⟩
  · have hne : ∀ record ∈ header :: records, record ≠ [] := fun record hrecord =>
      Csv.ne_nil_of_mem_records (hfile ▸ hrecord)
    exact ⟨_, Csv.records_flatMap_written (set_ne_nil hne (.cons l.fits_added hfits))⟩
  · obtain ⟨others, hothers, hother⟩ := l.exists_others
    rw [rows, rows, hfile, hrecords, ofRecords, ofRecords, Layout.fields_set l.fits_added hheader hothers, Option.map_map]
    cases hkeys : fields header with
    | none => rfl
    | some keys =>
      exact congrArg some (map_readRow_zipWith_set ((length_of_fields hkeys).trans hheader) (length_of_fields hothers) hother
        hfits)
  · rintro keys hkeys ⟨c, hcount⟩
    have hrows : rows file = some (List.replicate records.length none) := by
      rw [rows, hfile, ofRecords, hkeys, Option.map_some, ← List.map_const']
      exact congrArg some (List.map_congr_left fun record _ => readRow_eq_none hcount record)
    exact ⟨_, hrows, games_replicate_none _, skipped_replicate_none _⟩

/-- The columns turned round, with one more in front: of a good row, which still gives its game, a short one and one with a bad
number, whose place has changed too.  And a header with two ratings. -/
theorem rows_of_columns_reversed :
    let header := Column.all.map fun c => Text.encode c.canonical
    let good := ["Go", "1", "2", "5", "30", "30", "8.0", "100", "7.5", "2000"].map fun t => Text.encode t.toList
    let bad := ["Bad", "x", "2", "5", "30", "30", "8.0", "100", "7.5", "2000"].map fun t => Text.encode t.toList
    let records := [good, [Text.encode "Short".toList, Text.encode "3".toList], bad]
    let extras := ["a,b", "", "\"q\""].map fun t => [Text.encode t.toList]
    let file := (header :: records).flatMap Csv.written
    let go : Game := ⟨"Go".toList, 1, 2, 5, 30, 30, ⟨0x4020000000000000⟩, 100, ⟨0x401E000000000000⟩, 2000⟩
    let double := ((header ++ [Text.encode "average".toList]) :: [good ++ [Text.encode "7.5".toList]]).flatMap Csv.written
    ∃ l : Layout, l.added = [Text.encode "note".toList] ∧ l.order = [10, 9, 8, 7, 6, 5, 4, 3, 2, 1, 0] ∧
      Csv.records file = header :: records ∧ header.length = l.width ∧ List.Forall₂ l.Fits records extras ∧
      rows file = some [some go, none, none] ∧
      (∃ other, Csv.records other = l.set header l.added :: List.zipWith l.set records extras ∧
        rows other = some [some go, none, none]) ∧
      ∃ results, rows double = some results ∧ games results = [] ∧ skipped results = [1] := by
  intro header good bad records extras file go double
  let l : Layout := {
    width := 10
    added := [Text.encode "note".toList]
    order := [10, 9, 8, 7, 6, 5, 4, 3, 2, 1, 0]
    order_perm := by decide
    added_other := by
      intro key hkey
      obtain rfl := List.mem_singleton.1 hkey
      refine ⟨"note".toList, by decide +kernel, fun c => ?_⟩
      cases c <;> decide }
  have hfile : Csv.records file = header :: records := by decide +kernel
  have hdouble : Csv.records double = (header ++ [Text.encode "average".toList]) :: [good ++ [Text.encode "7.5".toList]] := by
    decide +kernel
  have hfits : List.Forall₂ l.Fits records extras :=
    .cons ⟨rfl, by decide +kernel⟩ (.cons ⟨rfl, by decide +kernel⟩ (.cons ⟨rfl, by decide +kernel⟩ .nil))
  have hgames : rows file = some [some go, none, none] := by decide +kernel
  have hkeys : fields (header ++ [Text.encode "average".toList]) =
      some (Column.all.map Column.canonical ++ ["average".toList]) := by decide +kernel
  obtain ⟨⟨other, hother⟩, hrows⟩ := (rows_of_columns hfile).1 l extras rfl hfits
  exact ⟨l, rfl, rfl, hfile, rfl, hfits, hgames, ⟨other, hother, (hrows other hother).trans hgames⟩,
    (rows_of_columns hdouble).2 _ hkeys ⟨.rating, by decide⟩⟩

end Catalog
end GameShelf
