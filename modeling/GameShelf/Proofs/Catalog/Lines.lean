import GameShelf.Proofs.Catalog.Blocks
import Mathlib.Data.List.Forall2
/-!
# Lines — a catalog read line by line

Below its header, every line of a catalog gives what it gives on its own, as long as no line before it leaves a quoted field
open (`gamesBelow_joinLines`).  So a bad line costs its own row and no other (`games?_around_line`); but one that leaves a
field open costs the lines behind it, since they are part of the field.
-/
namespace GameShelf
namespace Catalog

open Csv (Line joinLines recordsWithin Complete)

/-! ## Lines of text -/

theorem encode_eq_flatMap (t : Text) : Text.encode t = t.flatMap String.utf8EncodeChar := by
  simp [Text.encode, List.utf8Encode]

theorem isLineEnd_ofNat {n : Nat} (hn : n < 256) : Csv.isLineEnd (UInt8.ofNat n) = true ↔ n = 10 ∨ n = 13 := by
  simp only [Csv.isLineEnd, Bool.or_eq_true, decide_eq_true_eq, ← UInt8.toNat_inj, UInt8.toNat_ofNat', UInt8.reduceToNat]
  omega

theorem char_of_isLineEnd {c : Char} {b : UInt8} (hb : b ∈ String.utf8EncodeChar c) (hend : Csv.isLineEnd b = true) :
    c = '\n' ∨ c = '\r' := by
  -- a byte of a character with several bytes is 128 or more
  have hhigh : ∀ n, 128 ≤ n → n < 256 → b ≠ UInt8.ofNat n := by
    rintro n hlow hn rfl
    have hn := (isLineEnd_ofNat hn).1 hend
    omega
  simp only [String.utf8EncodeChar] at hb
  split at hb
  · rename_i hascii
    obtain rfl := List.mem_singleton.1 hb
    have hcode := (isLineEnd_ofNat (by omega)).1 hend
    refine hcode.imp (fun h => ?_) (fun h => ?_)
    · exact Char.ext (UInt32.toNat_inj.1 h)
    · exact Char.ext (UInt32.toNat_inj.1 h)
  · exfalso
    split at hb
    · simp only [List.mem_cons, List.not_mem_nil, or_false] at hb
      rcases hb with h | h <;> exact hhigh _ (by omega) (by omega) h
    · split at hb
      · simp only [List.mem_cons, List.not_mem_nil, or_false] at hb
        rcases hb with h | h | h <;> exact hhigh _ (by omega) (by omega) h
      · simp only [List.mem_cons, List.not_mem_nil, or_false] at hb
        rcases hb with h | h | h | h <;> exact hhigh _ (by omega) (by omega) h

/-- A line of text, ended by a line feed. -/
def lineOfText (t : Text) (h : '\n' ∉ t ∧ '\r' ∉ t) : Line where
  body := Text.encode t
  ending := [0x0A]
  body_plain b hb := by
    rw [encode_eq_flatMap, List.mem_flatMap] at hb
    obtain ⟨c, hc, hb⟩ := hb
    refine Bool.eq_false_iff.2 fun hend => ?_
    rcases char_of_isLineEnd hb hend with rfl | rfl
    · exact h.1 hc
    · exact h.2 hc
  ending_lineEnd := by simp [Csv.isLineEnd]

/-! ## What a line gives -/

/-- The games of a catalog file, if it can be read at all. -/
def games? (bytes : Bytes) : Option (List Game) :=
  (rows bytes).map games

/-- The games of bytes that stand below a header with these keys. -/
def gamesBelow (keys : List Text) (bytes : Bytes) : List Game :=
  games ((recordsWithin bytes).map (readRow keys))

/-- A line that names the columns, and ends. -/
structure IsHeader (header : Line) (keys : List Text) : Prop where
  ended : header.ending ≠ []
  complete : Complete (Csv.dropMark header.bytes)
  keys_eq : (Csv.records header.bytes).map fields = [some keys]

/-- Below the header, the line on its own is one row and gives this game. -/
def Gives (header l : Line) (g : Game) : Prop :=
  rows (header.bytes ++ l.bytes) = some [some g]

variable {header x : Line} {keys : List Text} {lines before behind : List Line} {gs gamesBefore gamesBehind : List Game}

theorem gamesBelow_append {a : Bytes} (ha : Complete a) (b : Bytes) :
    gamesBelow keys (a ++ b) = gamesBelow keys a ++ gamesBelow keys b := by
  rw [gamesBelow, Csv.recordsWithin_append ha, List.map_append, games_append]
  rfl

/-- **Lines give the games that each of them gives on its own**, if no line but the last leaves a field open. -/
theorem gamesBelow_joinLines (h : ∀ l ∈ lines.dropLast, l.Closed) :
    gamesBelow keys (joinLines lines) = lines.flatMap fun l => gamesBelow keys l.bytes := by
  rw [gamesBelow, Csv.recordsWithin_joinLines h, List.map_flatMap, games, List.filterMap_flatMap]
  rfl

theorem length_gamesBelow (keys : List Text) (bytes : Bytes) :
    (gamesBelow keys bytes).length ≤ (recordsWithin bytes).length := by
  have hle := List.length_filterMap_le id ((recordsWithin bytes).map (readRow keys))
  rwa [List.length_map] at hle

namespace IsHeader

theorem opens (h : IsHeader header keys) : Opens header.bytes keys :=
  ⟨h.complete, h.keys_eq⟩

theorem rows_append (h : IsHeader header keys) (rest : Bytes) :
    rows (header.bytes ++ rest) = some ((recordsWithin rest).map (readRow keys)) :=
  h.opens.rows_append rest

theorem games?_append (h : IsHeader header keys) (rest : Bytes) :
    games? (header.bytes ++ rest) = some (gamesBelow keys rest) := by
  rw [games?, h.rows_append]
  rfl

theorem gives_iff (h : IsHeader header keys) {l : Line} {g : Game} :
    Gives header l g ↔ (recordsWithin l.bytes).map (readRow keys) = [some g] := by
  rw [Gives, h.rows_append, Option.some_inj]

theorem gamesBelow_of_gives (h : IsHeader header keys) {l : Line} {g : Game} (hgives : Gives header l g) :
    gamesBelow keys l.bytes = [g] := by
  rw [gamesBelow, h.gives_iff.1 hgives]
  rfl

theorem flatMap_of_gives (h : IsHeader header keys) (hgives : List.Forall₂ (Gives header) lines gs) :
    (lines.flatMap fun l => gamesBelow keys l.bytes) = gs := by
  induction hgives with
  | nil => rfl
  | cons hl _ ih => rw [List.flatMap_cons, h.gamesBelow_of_gives hl, ih, List.singleton_append]

/-- What stands behind good lines that leave no field open is read as if they were not there. -/
theorem games?_append_lines (h : IsHeader header keys) (hclosed : ∀ l ∈ before, l.Closed)
    (hgives : List.Forall₂ (Gives header) before gamesBefore) (rest : Bytes) :
    games? (header.bytes ++ (joinLines before ++ rest)) = some (gamesBefore ++ gamesBelow keys rest) := by
  have hbefore : gamesBelow keys (joinLines before) = gamesBefore := by
    rw [gamesBelow_joinLines fun l hl => hclosed l (List.dropLast_subset before hl), h.flatMap_of_gives hgives]
  rw [h.games?_append, gamesBelow_append (Csv.complete_joinLines hclosed), hbefore]

end IsHeader

/-- **A line costs no row but its own if it leaves no quoted field open.**  Whatever the line is, the rows before it are
read.  The rows behind it are read too if neither it nor they, up to the last, leave a field open; and if it leaves one
open that no quote behind it closes, they are all lost. -/
theorem games?_around_line (hheader : IsHeader header keys) (hclosed : ∀ l ∈ before, l.Closed)
    (hbefore : List.Forall₂ (Gives header) before gamesBefore)
    (hbehind : List.Forall₂ (Gives header) behind gamesBehind) :
    let file := header.bytes ++ joinLines (before ++ x :: behind)
    (∃ rest, games? (header.bytes ++ joinLines (x :: behind)) = some rest ∧ games? file = some (gamesBefore ++ rest)) ∧
    ((∀ l ∈ (x :: behind).dropLast, l.Closed) →
      ∃ own, own.length ≤ 1 ∧ games? (header.bytes ++ x.bytes) = some own ∧
        games? file = some (gamesBefore ++ own ++ gamesBehind)) ∧
    (x.LeavesOpen → (∀ l ∈ behind, Csv.quote ∉ l.body) →
      ∃ own, own.length ≤ 1 ∧ games? file = some (gamesBefore ++ own)) := by
  intro file
  have hfile : games? file = some (gamesBefore ++ gamesBelow keys (joinLines (x :: behind))) := by
    rw [show file = header.bytes ++ joinLines (before ++ x :: behind) from rfl, Csv.joinLines_append]
    exact hheader.games?_append_lines hclosed hbefore _
  refine ⟨⟨_, hheader.games?_append _, hfile⟩, fun hlines => ?_, fun hopen hquote => ?_⟩
  · have hbelow : gamesBelow keys (joinLines (x :: behind)) = gamesBelow keys x.bytes ++ gamesBehind := by
      rw [gamesBelow_joinLines hlines, List.flatMap_cons, hheader.flatMap_of_gives hbehind]
    refine ⟨gamesBelow keys x.bytes, ?_, hheader.games?_append _, ?_⟩
    · exact Nat.le_trans (length_gamesBelow keys x.bytes) x.length_recordsWithin
    · rw [hfile, hbelow, List.append_assoc]
  · refine ⟨_, Nat.le_trans (length_gamesBelow keys _) ?_, hfile⟩
    exact Line.length_recordsWithin_of_leavesOpen hopen (Csv.quote_not_mem_joinLines hquote)

/-! ## Two catalogs -/

/-- The header with the canonical keys, in the order of the columns. -/
def canonicalHeader : Line :=
  lineOfText (Text.joinCommas (Column.all.map Column.canonical)) (by decide +kernel)

theorem isHeader_canonicalHeader : IsHeader canonicalHeader (Column.all.map Column.canonical) := by
  have h : Complete (Csv.dropMark canonicalHeader.bytes) ∧
      (Csv.records canonicalHeader.bytes).map fields = [some (Column.all.map Column.canonical)] := by decide +kernel
  exact ⟨List.cons_ne_nil _ _, h.1, h.2⟩

/-- Between two good lines, one of them with quotes, a line of another length costs its own row only. -/
theorem games?_around_line_short :
    let go := lineOfText "\"Go, \"\"weiqi\"\"\",1,0,0,0,0,0,0,0,0".toList (by simp)
    let short := lineOfText "Short,3".toList (by simp)
    let chess := lineOfText "Chess,7,0,0,0,0,0,0,0,0".toList (by simp)
    IsHeader canonicalHeader (Column.all.map Column.canonical) ∧ (∀ l ∈ [go], l.Closed) ∧
    List.Forall₂ (Gives canonicalHeader) [go] [.ofName "Go, \"weiqi\"".toList 1] ∧
    List.Forall₂ (Gives canonicalHeader) [chess] [.ofName "Chess".toList 7] ∧
    (∀ l ∈ [short, chess].dropLast, l.Closed) ∧
    games? (canonicalHeader.bytes ++ joinLines ([go] ++ short :: [chess])) =
      some [.ofName "Go, \"weiqi\"".toList 1, .ofName "Chess".toList 7] := by
  intro go short chess
  have hheader := isHeader_canonicalHeader
  have hclosed : ∀ l ∈ [go], l.Closed := by decide +kernel
  have hgo : Gives canonicalHeader go (.ofName "Go, \"weiqi\"".toList 1) := hheader.gives_iff.2 (by decide +kernel)
  have hchess : Gives canonicalHeader chess (.ofName "Chess".toList 7) := hheader.gives_iff.2 (by decide +kernel)
  have hlines : ∀ l ∈ [short, chess].dropLast, l.Closed := by decide +kernel
  obtain ⟨own, -, hown, hfile⟩ :=
    (games?_around_line hheader hclosed (.cons hgo .nil) (.cons hchess .nil)).2.1 hlines
  have hnone : gamesBelow (Column.all.map Column.canonical) short.bytes = [] := by decide +kernel
  rw [hheader.games?_append, hnone] at hown
  obtain rfl : [] = own := Option.some.inj hown
  exact ⟨hheader, hclosed, .cons hgo .nil, .cons hchess .nil, hlines, hfile⟩

/-- Not every bad line costs its own row only: behind a quote that is never closed, two good lines are lost. -/
theorem games?_behind_line_fails :
    let broken := lineOfText "\"Broken".toList (by simp)
    let go := lineOfText "Go,1,0,0,0,0,0,0,0,0".toList (by simp)
    let chess := lineOfText "Chess,7,0,0,0,0,0,0,0,0".toList (by simp)
    let file := canonicalHeader.bytes ++ joinLines [broken, go, chess]
    IsHeader canonicalHeader (Column.all.map Column.canonical) ∧
    Gives canonicalHeader go (.ofName "Go".toList 1) ∧ Gives canonicalHeader chess (.ofName "Chess".toList 7) ∧
    games? file = some [] ∧
    ∀ own : List Game, games? file ≠ some ([] ++ own ++ [.ofName "Go".toList 1, .ofName "Chess".toList 7]) := by
  intro broken go chess file
  have hheader := isHeader_canonicalHeader
  have hgo : Gives canonicalHeader go (.ofName "Go".toList 1) := hheader.gives_iff.2 (by decide +kernel)
  have hchess : Gives canonicalHeader chess (.ofName "Chess".toList 7) := hheader.gives_iff.2 (by decide +kernel)
  have hbelow : gamesBelow (Column.all.map Column.canonical) (joinLines [broken, go, chess]) = [] := by decide +kernel
  have hfile : games? file = some [] := (hheader.games?_append _).trans (congrArg some hbelow)
  refine ⟨hheader, hgo, hchess, hfile, fun own h => ?_⟩
  rw [hfile] at h
  simp at h

end Catalog
end GameShelf
