import GameShelf.Catalog
import GameShelf.Proofs.Csv
/-!
# Blocks — a catalog read block by block

A row depends on its own record and on the header, and on no other row (`Opens.rows_append`).  So blocks that end between two
records can be loaded apart: their games and their skipped rows, put one behind the other, are those of the whole file, once
the row numbers of the later block count the rows before it (`rows_of_blocks`).
-/
namespace GameShelf
namespace Catalog

open Csv (Complete recordsWithin)

variable {header a : Bytes} {keys : List Text} {results : List (Option Game)}

/-! ## Rows and their numbers -/

theorem games_append (results others : List (Option Game)) : games (results ++ others) = games results ++ games others :=
  List.filterMap_append

theorem skipped_append (results others : List (Option Game)) :
    skipped (results ++ others) = skipped results ++ (skipped others).map (· + results.length) := by
  have hnumbers : others.zipIdx (1 + results.length) = (others.zipIdx 1).map (Prod.map id (· + results.length)) := by
    rw [List.map_snd_add_zipIdx_eq_zipIdx, Nat.add_comm]
  rw [skipped, List.zipIdx_append, List.filterMap_append, hnumbers, List.filterMap_map, skipped, skipped,
    List.map_filterMap]
  congr 2
  funext ⟨game?, number⟩
  cases game? <;> rfl

/-- Of the rows with these results, every one is told of once: by its number, if it is skipped, and else by its game, with
as many games before it as rows before it that are not skipped. -/
structure Accounts (results : List (Option Game)) (games : List Game) (skipped : List Nat) : Prop where
  skipped_iff : ∀ number, number ∈ skipped ↔ 1 ≤ number ∧ results[number - 1]? = some none
  ascending : skipped.Pairwise (· < ·)
  game_at : ∀ k g, results[k]? = some (some g) → ∃ j, games[j]? = some g ∧ j + skipped.countP (· ≤ k) = k
  length_eq : games.length + skipped.length = results.length

theorem mem_skipped {number : Nat} : number ∈ skipped results ↔ 1 ≤ number ∧ results[number - 1]? = some none := by
  rw [skipped, List.mem_filterMap, ← List.mk_mem_zipIdx_iff_le_and_getElem?_sub]
  constructor
  · rintro ⟨⟨game?, k⟩, hmem, hnumber⟩
    cases game? with
    | some g => cases hnumber
    | none =>
      cases hnumber
      exact hmem
  · exact fun hmem => ⟨_, hmem, rfl⟩

theorem pairwise_skipped (results : List (Option Game)) : (skipped results).Pairwise (· < ·) := by
  have hnumbers : ((results.zipIdx 1).map Prod.snd).Pairwise (· < ·) := by
    rw [List.zipIdx_map_snd]
    exact List.pairwise_lt_range'
  refine (List.pairwise_map.1 hnumbers).filterMap _ ?_
  rintro ⟨x, i⟩ ⟨y, j⟩ hlt number hnumber other hother
  cases x with
  | some g => cases hnumber
  | none =>
    cases y with
    | some g => cases hother
    | none =>
      cases hnumber
      cases hother
      exact hlt

theorem length_games_add_length_skipped (results : List (Option Game)) :
    (games results).length + (skipped results).length = results.length := by
  induction results with
  | nil => rfl
  | cons result results ih =>
    rw [← List.singleton_append, games_append, skipped_append, List.length_append, List.length_append, List.length_map,
      List.length_append, List.length_singleton]
    cases result with
    | none =>
      have hgames : (games [none]).length = 0 := rfl
      have hskipped : (skipped [none]).length = 1 := rfl
      omega
    | some g =>
      have hgames : (games [some g]).length = 1 := rfl
      have hskipped : (skipped [some g]).length = 0 := rfl
      omega

theorem countP_skipped_append (results others : List (Option Game)) :
    (skipped (results ++ others)).countP (· ≤ results.length) = (skipped results).length := by
  have hbefore : (skipped results).countP (· ≤ results.length) = (skipped results).length := by
    refine List.countP_eq_length.2 fun number hnumber => ?_
    obtain ⟨hpos, hrow⟩ := mem_skipped.1 hnumber
    have hlt := (List.getElem?_eq_some_iff.1 hrow).1
    simp only [decide_eq_true_eq]
    omega
  have hbehind : ((skipped others).map (· + results.length)).countP (· ≤ results.length) = 0 := by
    refine List.countP_eq_zero.2 fun number hnumber => ?_
    obtain ⟨m, hm, rfl⟩ := List.mem_map.1 hnumber
    have hpos := (mem_skipped.1 hm).1
    simp only [decide_eq_true_eq]
    omega
  rw [skipped_append, List.countP_append, hbefore, hbehind, Nat.add_zero]

theorem accounts (results : List (Option Game)) : Accounts results (games results) (skipped results) where
  skipped_iff _ := mem_skipped
  ascending := pairwise_skipped results
  length_eq := length_games_add_length_skipped results
  game_at k g hrow := by
    obtain ⟨hlt, hget⟩ := List.getElem?_eq_some_iff.1 hrow
    have hsplit : results = results.take k ++ some g :: results.drop (k + 1) := by
      rw [← hget, List.getElem_cons_drop, List.take_append_drop]
    have hlength : (results.take k).length = k := List.length_take_of_le (Nat.le_of_lt hlt)
    have hgames : games results = games (results.take k) ++ g :: games (results.drop (k + 1)) := by
      conv => lhs; rw [hsplit]
      exact games_append _ _
    have hcount := countP_skipped_append (results.take k) (some g :: results.drop (k + 1))
    rw [← hsplit, hlength] at hcount
    refine ⟨(games (results.take k)).length, by simp [hgames], ?_⟩
    rw [hcount, length_games_add_length_skipped, hlength]

/-! ## Blocks of records -/

/-- Bytes that can begin a catalog: one record, which names the columns by these keys, with its end. -/
structure Opens (header : Bytes) (keys : List Text) : Prop where
  complete : Complete (Csv.dropMark header)
  keys_eq : (Csv.records header).map fields = [some keys]

/-- **Below its header a catalog has a row for each record**, and the row is what that record gives. -/
theorem Opens.rows_append (h : Opens header keys) (rest : Bytes) :
    rows (header ++ rest) = some ((recordsWithin rest).map (readRow keys)) := by
  obtain ⟨record, hrecord, hkeys⟩ := List.map_eq_singleton_iff.1 h.keys_eq
  have hne : Csv.records header ≠ [] := by rw [hrecord]; exact List.cons_ne_nil record []
  rw [rows, Csv.records_append h.complete hne, hrecord, List.singleton_append, ofRecords, hkeys]
  rfl

/-- **A catalog is what its blocks are.**  Where a block ends between two records, the file with what is behind it gives the
games of the block and then those of the rest, and skips the rows that either of them skips, the later ones by numbers that
go up by the rows of the block.  Every row is the one that its own record gives, and is either one game or one skipped row,
in the order of the file. -/
theorem rows_of_blocks (h : Opens header keys) (ha : Complete a) (b : Bytes) :
    ∃ before behind,
      rows (header ++ a) = some before ∧ rows (header ++ b) = some behind ∧
      rows (header ++ (a ++ b)) = some (before ++ behind) ∧
      games (before ++ behind) = games before ++ games behind ∧
      skipped (before ++ behind) = skipped before ++ (skipped behind).map (· + before.length) ∧
      before ++ behind = (recordsWithin a ++ recordsWithin b).map (readRow keys) ∧
      Accounts (before ++ behind) (games (before ++ behind)) (skipped (before ++ behind)) := by
  refine ⟨_, _, h.rows_append a, h.rows_append b, ?_, games_append _ _, skipped_append _ _, List.map_append.symm,
    accounts _⟩
  rw [h.rows_append, Csv.recordsWithin_append ha, List.map_append]

/-- A header with the mark of UTF-8, with line ends inside a quoted key and with a column that is no game's; and below it two
bad rows, one too short and one that is not text, and a good one.  A carriage return ends each block, and a line feed begins
the next. -/
theorem rows_of_blocks_seam :
    let keys := Column.all.map Column.canonical ++ ["play\r\ntime".toList]
    let header := Csv.byteOrderMark ++ Text.encode (Text.joinCommas (Column.all.map Column.canonical) ++
      ",\"play\r\ntime\"\r".toList)
    let bad := Text.encode "\nShort,3\r\n\n".toList ++ 0xFF :: Text.encode ",1,0,0,0,0,0,0,0,0,\r".toList
    let good := Text.encode "\nGo,1,0,0,0,0,0,0,0,0,\"a,b\"".toList
    Opens header keys ∧ Complete bad ∧ rows (header ++ bad) = some [none, none] ∧
    rows (header ++ (bad ++ good)) = some [none, none, some (.ofName "Go".toList 1)] ∧
    games [none, none, some (.ofName "Go".toList 1)] = [.ofName "Go".toList 1] ∧
    skipped [none, none, some (.ofName "Go".toList 1)] = [1, 2] := by
  intro keys header bad good
  have hopens : Opens header keys := by
    have h : Complete (Csv.dropMark header) ∧ (Csv.records header).map fields = [some keys] := by decide +kernel
    exact ⟨h.1, h.2⟩
  have hbad : Complete bad := by decide +kernel
  have hrows : (recordsWithin bad).map (readRow keys) = [none, none] := by decide +kernel
  have hgood : (recordsWithin good).map (readRow keys) = [some (.ofName "Go".toList 1)] := by decide +kernel
  obtain ⟨before, behind, hbefore, hbehind, hfile, -⟩ := rows_of_blocks hopens hbad good
  rw [hopens.rows_append, hrows] at hbefore
  rw [hopens.rows_append, hgood] at hbehind
  obtain rfl := Option.some.inj hbefore
  obtain rfl := Option.some.inj hbehind
  exact ⟨hopens, hbad, by rw [hopens.rows_append, hrows], hfile, rfl, rfl⟩

end Catalog
end GameShelf
