import GameShelf.Proofs.Catalog.Columns
import GameShelf.Proofs.Catalog.Lines
import GameShelf.Proofs.Csv.Quotes
import GameShelf.Proofs.Text.Trim
/-!
# Names — which names a catalog can give

The name of a game is a field of its row, trimmed (`exists_field_of_mem_games`); and every trimmed text is the name of a game
in some catalog, whatever is in it (`exists_game_named_iff`).  A line feed gets into a name only if the catalog has one
inside quotes (`lineFeed_not_mem_name`).
-/
namespace GameShelf
namespace Catalog

variable {bytes field : Bytes} {record : List Bytes} {keys row : List Text} {results : List (Option Game)} {g : Game}
  {t : Text}

/-! ## Bytes and texts -/

theorem fromUTF8?_eq_some_iff {b : ByteArray} {s : String} : String.fromUTF8? b = some s ↔ s.toUTF8 = b := by
  rw [String.fromUTF8?]
  constructor
  · intro h
    split at h
    · cases h
      rfl
    · cases h
  · rintro rfl
    exact dif_pos s.isValidUTF8

/-- **Bytes are read as the one text whose bytes they are.** -/
theorem decode_eq_some_iff : Text.decode bytes = some t ↔ Text.encode t = bytes := by
  rw [Text.decode, Option.map_eq_some_iff, Text.encode]
  constructor
  · rintro ⟨s, hs, rfl⟩
    rw [String.ofList_toList, fromUTF8?_eq_some_iff.1 hs]
  · rintro rfl
    exact ⟨String.ofList t, fromUTF8?_eq_some_iff.2 rfl, String.toList_ofList⟩

theorem text?_eq_some_iff : text? field = some t ↔ ∃ whole, Text.encode whole = field ∧ Text.trim whole = t := by
  simp only [text?, Option.map_eq_some_iff, decode_eq_some_iff]

theorem lineFeed_mem_encode (h : '\n' ∈ t) : Csv.lineFeed ∈ Text.encode t := by
  rw [encode_eq_flatMap, List.mem_flatMap]
  exact ⟨'\n', h, by decide⟩

/-! ## The name of a game -/

theorem exists_field_of_readRow (h : readRow keys record = some g) : ∃ field ∈ record, text? field = some g.name := by
  obtain ⟨-, row, hrow, hfields⟩ := readRow_eq_some_iff.1 h
  obtain ⟨name, hfield, hvalue⟩ := hfields .name
  obtain rfl : name = g.name := (value?_eq_text_iff rfl).1 hvalue
  have hzip : (Column.name.canonical, g.name) ∈ keys.zip row :=
    (List.mem_filter.1 (field?_eq_some_iff.1 hfield ▸ List.mem_cons_self)).1
  have hmem : some g.name ∈ record.map text? := by
    rw [fields_eq_some_iff.1 hrow]
    exact List.mem_map_of_mem (List.of_mem_zip hzip).2
  exact List.mem_map.1 hmem

/-- **The name of a game of a catalog is a field, trimmed.** -/
theorem exists_field_of_mem_games (hrows : rows bytes = some results) (hg : g ∈ games results) :
    ∃ record ∈ Csv.records bytes, ∃ field ∈ record, text? field = some g.name := by
  rw [rows] at hrows
  cases hrecords : Csv.records bytes with
  | nil =>
    rw [hrecords] at hrows
    cases hrows
    cases hg
  | cons header rest =>
    rw [hrecords] at hrows
    obtain ⟨keys, -, rfl⟩ := Option.map_eq_some_iff.1 hrows
    obtain ⟨result, hresult, hgame⟩ := List.mem_filterMap.1 hg
    obtain ⟨record, hrecord, rfl⟩ := List.mem_map.1 hresult
    exact ⟨record, List.mem_cons_of_mem header hrecord, exists_field_of_readRow hgame⟩

theorem trimmed_name (hrows : rows bytes = some results) (hg : g ∈ games results) : Text.Trimmed g.name := by
  obtain ⟨record, -, field, -, hname⟩ := exists_field_of_mem_games hrows hg
  obtain ⟨whole, -, hwhole⟩ := text?_eq_some_iff.1 hname
  exact hwhole ▸ Text.trimmed_trim whole

/-- **Without a line feed inside quotes, no name has one.** -/
theorem lineFeed_not_mem_name (hquotes : ¬ Csv.Quotes Csv.lineFeed (Csv.dropMark bytes)) (hrows : rows bytes = some results)
    (hg : g ∈ games results) : '\n' ∉ g.name := by
  obtain ⟨record, hrecord, field, hfield, hname⟩ := exists_field_of_mem_games hrows hg
  obtain ⟨whole, rfl, hwhole⟩ := text?_eq_some_iff.1 hname
  intro hin
  have hwholeIn : '\n' ∈ whole := (Text.trim_infix whole).subset (hwhole ▸ hin)
  exact Csv.not_mem_field (by decide) hquotes hrecord hfield (lineFeed_mem_encode hwholeIn)

theorem game?_of_zeros (h : ∀ c, field? keys row c = some (if c = .name then t else ['0'])) :
    game? keys row = some (.ofName t 0) := by
  have hinteger : Integer.readMarked ['0'] = some 0 := by decide +kernel
  have hreal : Binary64.read ['0'] = some .zero := by decide +kernel
  simp [game?, h, hinteger, hreal, Game.ofName]

/-- **Every trimmed text is a name that some catalog gives**, and no other text is. -/
theorem exists_game_named_iff :
    (∃ bytes results, rows bytes = some results ∧ ∃ g ∈ games results, g.name = t) ↔ Text.Trimmed t := by
  constructor
  · rintro ⟨bytes, results, hrows, g, hg, rfl⟩
    exact trimmed_name hrows hg
  · intro htrimmed
    let keys := Column.all.map Column.canonical
    let header := Column.all.map fun c => Text.encode c.canonical
    let record := Text.encode t :: List.replicate 9 (Text.encode ['0'])
    have hfile : Csv.records ([header, record].flatMap Csv.written) = [header, record] :=
      Csv.records_flatMap_written (by simp [header, record, Column.all])
    have hkeys : fields header = some keys := by decide +kernel
    have hzeros : fields (List.replicate 9 (Text.encode ['0'])) = some (List.replicate 9 ['0']) := by decide +kernel
    have hfields : fields record = some (t :: List.replicate 9 ['0']) := by
      have ht : text? (Text.encode t) = some t := text?_eq_some_iff.2 ⟨t, rfl, Text.trim_eq_self_iff.2 htrimmed⟩
      rw [fields_cons, ht, hzeros]
      rfl
    have hrow : readRow keys record = some (.ofName t 0) := by
      rw [readRow, if_pos (show record.length = keys.length from rfl), hfields, Option.bind_some]
      exact game?_of_zeros fun c => by cases c <;> rfl
    have hrows : rows ([header, record].flatMap Csv.written) = some [some (.ofName t 0)] := by
      rw [rows, hfile, ofRecords, hkeys, Option.map_some, List.map_singleton, hrow]
    exact ⟨_, _, hrows, .ofName t 0, List.mem_cons_self, rfl⟩

end Catalog
end GameShelf
