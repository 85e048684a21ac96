import GameShelf.Csv
import Mathlib.Data.List.Basic
/-!
# Csv — records of a file, block by block

What the reader does with a byte does not depend on the records that it has completed (`feed_after`).  So when a block of
bytes ends between two records, the bytes behind it are read as if nothing stood before them (`recordsWithin_append`).  A
line with an end is such a block, unless it leaves a quoted field open (`Line.complete_of_closed`); then the field takes in
what is behind the line, up to the next quote (`Line.length_recordsWithin_of_leavesOpen`).
-/
namespace GameShelf
namespace Csv
namespace Reader

variable {r : Reader}

/-! ## What a byte does -/

/-- The reader with these records, latest first, completed before its own. -/
def after (r : Reader) (old : List (List Bytes)) : Reader :=
  { r with records := r.records ++ old }

@[simp] theorem position_after (r : Reader) (old : List (List Bytes)) : (r.after old).position = r.position := rfl

theorem feedPlain_after (r : Reader) (old : List (List Bytes)) (b : UInt8) :
    (r.after old).feedPlain b = (r.feedPlain b).after old := by
  unfold feedPlain
  split
  · rfl
  · split <;> rfl

/-- **A byte is read the same whatever records are complete.** -/
theorem feed_after (r : Reader) (old : List (List Bytes)) (b : UInt8) :
    (r.after old).feed b = (r.feed b).after old := by
  have hplain := feedPlain_after r old b
  cases h : r.position with
  | inField => simpa only [feed, position_after, h] using hplain
  | betweenRecords =>
    simp only [feed, position_after, h, hplain]
    split
    · rfl
    · split <;> rfl
  | fieldStart =>
    simp only [feed, position_after, h, hplain]
    split <;> rfl
  | inQuotes =>
    simp only [feed, position_after, h]
    split <;> rfl
  | afterQuote =>
    simp only [feed, position_after, h, hplain]
    split <;> rfl

theorem foldl_feed_after (bytes : Bytes) (r : Reader) (old : List (List Bytes)) :
    bytes.foldl feed (r.after old) = (bytes.foldl feed r).after old := by
  induction bytes generalizing r with
  | nil => rfl
  | cons b bytes ih => rw [List.foldl_cons, List.foldl_cons, feed_after, ih]

theorem finish_after (r : Reader) (old : List (List Bytes)) : (r.after old).finish = old.reverse ++ r.finish := by
  unfold finish
  rw [position_after]
  split
  · exact List.reverse_append
  · rw [← List.reverse_append]
    rfl

/-- What a byte can do to a reader: between records a line end does nothing, and elsewhere it can end the record; any other
byte, or a line end inside quotes, ends a field, or changes the position within the record and may be kept. -/
inductive Step (r : Reader) (b : UInt8) : Reader → Prop
  | skip (h : isLineEnd b = true) : Step r b r
  | endRecord (h : isLineEnd b = true) : Step r b r.endRecord
  | endField : Step r b r.endField
  | move (p : Position) (h : p ≠ .betweenRecords) : Step r b { r with position := p }
  | copy (p : Position) (h : p ≠ .betweenRecords) (hb : isLineEnd b = true → r.position = .inQuotes) :
      Step r b (r.copy p b)

theorem step_feedPlain (r : Reader) (b : UInt8) : Step r b (r.feedPlain b) := by
  unfold feedPlain
  split
  · exact .endField
  · split
    · exact .endRecord ‹_›
    · exact .copy .inField nofun fun hend => absurd hend ‹_›

theorem step_feed (r : Reader) (b : UInt8) : Step r b (r.feed b) := by
  have hplain := step_feedPlain r b
  cases hpos : r.position with
  | betweenRecords =>
    simp only [feed, hpos]
    split
    · exact .skip ‹_›
    · split
      · exact .move .inQuotes nofun
      · exact hplain
  | fieldStart =>
    simp only [feed, hpos]
    split
    · exact .move .inQuotes nofun
    · exact hplain
  | inField => simpa only [feed, hpos] using hplain
  | inQuotes =>
    simp only [feed, hpos]
    split
    · exact .move .afterQuote nofun
    · exact .copy .inQuotes nofun fun _ => hpos
  | afterQuote =>
    simp only [feed, hpos]
    split
    · next hquote =>
      have hend : isLineEnd quote = false := by decide
      exact .copy .inQuotes nofun fun h => by rw [hquote, hend] at h; cases h
    · exact hplain

/-- Between two records, the reader holds no part of one. -/
def Rests (r : Reader) : Prop :=
  r.position = .betweenRecords → r = start.after r.records

theorem Rests.feed (h : r.Rests) (b : UInt8) : (r.feed b).Rests := by
  have hstep := step_feed r b
  generalize r.feed b = next at hstep
  cases hstep with
  | skip => exact h
  | endRecord => exact fun _ => rfl
  | endField => exact nofun
  | move p hp | copy p hp => exact fun hpos => absurd hpos hp

theorem Rests.foldl_feed (h : r.Rests) (bytes : Bytes) : (bytes.foldl Reader.feed r).Rests := by
  induction bytes generalizing r with
  | nil => exact h
  | cons b bytes ih => exact ih (h.feed b)

/-! ## What the end of a line does -/

/-- The reader with the record that was open completed. -/
def settled (r : Reader) : Reader :=
  if r.position = .betweenRecords then r else r.endRecord

theorem finish_eq (r : Reader) : r.finish = r.settled.records.reverse := rfl

theorem position_settled (r : Reader) : r.settled.position = .betweenRecords := by
  unfold settled
  split
  · assumption
  · rfl

@[simp] theorem settled_settled (r : Reader) : r.settled.settled = r.settled :=
  if_pos (position_settled r)

/-- **Outside quotes the end of a line ends the record**, if there is one. -/
theorem feed_lineEnd {b : UInt8} (hb : isLineEnd b = true) (h : r.position ≠ .inQuotes) : r.feed b = r.settled := by
  have hquote : b ≠ quote := by rintro rfl; exact absurd hb (by decide)
  have hcomma : b ≠ comma := by rintro rfl; exact absurd hb (by decide)
  have hplain : r.feedPlain b = r.endRecord := by rw [feedPlain, if_neg hcomma, if_pos hb]
  cases hpos : r.position with
  | betweenRecords => simp only [feed, settled, hpos, hb, if_true]
  | inQuotes => exact absurd hpos h
  | fieldStart => simp [feed, settled, hpos, hquote, hplain]
  | inField => simp [feed, settled, hpos, hplain]
  | afterQuote => simp [feed, settled, hpos, hquote, hplain]

theorem foldl_feed_lineEnds {ending : Bytes} (hending : ∀ b ∈ ending, isLineEnd b = true) (hne : ending ≠ [])
    (h : r.position ≠ .inQuotes) : ending.foldl feed r = r.settled := by
  induction ending generalizing r with
  | nil => exact absurd rfl hne
  | cons b ending ih =>
    rw [List.foldl_cons, feed_lineEnd (hending b List.mem_cons_self) h]
    cases ending with
    | nil => rfl
    | cons c ending =>
      have hsettled : r.settled.position ≠ .inQuotes := by rw [position_settled]; decide
      rw [ih (fun x hx => hending x (List.mem_cons_of_mem b hx)) (List.cons_ne_nil c ending) hsettled, settled_settled]

theorem records_feed {b : UInt8} (hb : isLineEnd b = false) (r : Reader) : (r.feed b).records = r.records := by
  have hstep := step_feed r b
  generalize r.feed b = next at hstep
  cases hstep with
  | endRecord hend => rw [hb] at hend; cases hend
  | skip | endField | move | copy => rfl

theorem records_foldl_feed {body : Bytes} (hbody : ∀ b ∈ body, isLineEnd b = false) (r : Reader) :
    (body.foldl feed r).records = r.records := by
  induction body generalizing r with
  | nil => rfl
  | cons b body ih =>
    rw [List.foldl_cons, ih (fun x hx => hbody x (List.mem_cons_of_mem b hx)), records_feed (hbody b List.mem_cons_self)]

theorem foldl_feed_inQuotes {bytes : Bytes} (h : r.position = .inQuotes) (hbytes : quote ∉ bytes) :
    (bytes.foldl feed r).position = .inQuotes ∧ (bytes.foldl feed r).records = r.records := by
  induction bytes generalizing r with
  | nil => exact ⟨h, rfl⟩
  | cons b bytes ih =>
    have hb : b ≠ quote := (List.ne_of_not_mem_cons hbytes).symm
    have hfeed : r.feed b = r.copy .inQuotes b := by simp only [feed, h, if_neg hb]
    rw [List.foldl_cons, hfeed]
    exact ih rfl (List.not_mem_of_not_mem_cons hbytes)

theorem length_finish_of_records_nil (h : r.records = []) : r.finish.length ≤ 1 := by
  rw [finish_eq, settled]
  split
  · simp [h]
  · simp [endRecord, h]

end Reader

/-! ## Blocks -/

/-- The records of bytes that stand within a file, behind the mark that may begin it. -/
def recordsWithin (bytes : Bytes) : List (List Bytes) :=
  (bytes.foldl Reader.feed .start).finish

theorem records_eq (bytes : Bytes) : records bytes = recordsWithin (dropMark bytes) := rfl

/-- Whether the bytes end between two records. -/
def Complete (bytes : Bytes) : Prop :=
  (bytes.foldl Reader.feed .start).position = .betweenRecords

instance (bytes : Bytes) : Decidable (Complete bytes) :=
  inferInstanceAs (Decidable (_ = _))

variable {a b : Bytes}

theorem Complete.foldl_feed_append (ha : Complete a) (b : Bytes) :
    (a ++ b).foldl Reader.feed .start = (b.foldl Reader.feed .start).after (a.foldl Reader.feed .start).records := by
  have hrests : (a.foldl Reader.feed .start).Rests := Reader.Rests.foldl_feed (fun _ => rfl) a
  rw [List.foldl_append, hrests ha, Reader.foldl_feed_after]
  rfl

/-- **What is behind a complete block is read as if the block were not there.** -/
theorem recordsWithin_append (ha : Complete a) (b : Bytes) :
    recordsWithin (a ++ b) = recordsWithin a ++ recordsWithin b := by
  have hfinish : recordsWithin a = (a.foldl Reader.feed .start).records.reverse := by
    rw [recordsWithin, Reader.finish, if_pos (show (a.foldl Reader.feed .start).position = .betweenRecords from ha)]
  rw [recordsWithin, ha.foldl_feed_append, Reader.finish_after, hfinish]
  rfl

theorem Complete.append (ha : Complete a) (hb : Complete b) : Complete (a ++ b) := by
  rw [Complete, ha.foldl_feed_append, Reader.position_after]
  exact hb

/-- What is put behind a block that holds a byte of no mark leaves its mark as it is. -/
theorem dropMark_append (h : ∃ x ∈ a, x ∉ byteOrderMark) (b : Bytes) : dropMark (a ++ b) = dropMark a ++ b := by
  obtain ⟨x, hx, hmark⟩ := h
  cases hprefix : byteOrderMark.isPrefixOf? a with
  | some rest =>
    have hboth : byteOrderMark.isPrefixOf? (a ++ b) = some (rest ++ b) := by
      rw [List.isPrefixOf?_eq_some_iff_append_eq, ← List.append_assoc, List.isPrefixOf?_eq_some_iff_append_eq.1 hprefix]
    simp only [dropMark, hboth, hprefix, Option.getD_some]
  | none =>
    have hboth : byteOrderMark.isPrefixOf? (a ++ b) = none := by
      refine Option.eq_none_iff_forall_ne_some.2 fun rest hrest => ?_
      -- a mark of the whole that is none of the first block goes past that block, and holds its bytes
      have happend : byteOrderMark ++ rest = a ++ b := List.isPrefixOf?_eq_some_iff_append_eq.1 hrest
      rcases List.append_eq_append_iff.1 happend with ⟨more, ha, -⟩ | ⟨more, ha, -⟩
      · rw [List.isPrefixOf?_eq_some_iff_append_eq.2 ha.symm] at hprefix
        cases hprefix
      · exact hmark (ha ▸ List.mem_append_left more hx)
    simp only [dropMark, hboth, hprefix, Option.getD_none]

theorem not_mem_byteOrderMark {x : UInt8} (h : isLineEnd x = true) : x ∉ byteOrderMark := by
  have hnone : ∀ y ∈ byteOrderMark, isLineEnd y = false := by simp [byteOrderMark, isLineEnd]
  intro hmark
  rw [hnone x hmark] at h
  cases h

theorem dropMark_subset (a : Bytes) : dropMark a ⊆ a := by
  intro x hx
  cases hprefix : byteOrderMark.isPrefixOf? a with
  | none =>
    rw [dropMark, hprefix] at hx
    exact hx
  | some rest =>
    rw [dropMark, hprefix] at hx
    rw [← List.isPrefixOf?_eq_some_iff_append_eq.1 hprefix]
    exact List.mem_append_right _ hx

theorem Complete.exists_lineEnd (ha : Complete a) (hne : recordsWithin a ≠ []) : ∃ x ∈ a, isLineEnd x = true := by
  by_contra hnone
  have hbody : ∀ x ∈ a, isLineEnd x = false := fun x hx => Bool.eq_false_iff.2 fun hend => hnone ⟨x, hx, hend⟩
  refine hne ?_
  rw [recordsWithin, Reader.finish, if_pos (show (a.foldl Reader.feed .start).position = .betweenRecords from ha),
    Reader.records_foldl_feed hbody]
  rfl

/-- **What is behind the first complete records of a file** is read as if they were not there. -/
theorem records_append (ha : Complete (dropMark a)) (hne : records a ≠ []) (b : Bytes) :
    records (a ++ b) = records a ++ recordsWithin b := by
  obtain ⟨x, hx, hend⟩ := ha.exists_lineEnd hne
  rw [records_eq, dropMark_append ⟨x, dropMark_subset a hx, not_mem_byteOrderMark hend⟩ b, recordsWithin_append ha,
    ← records_eq]

/-! ## Lines -/

/-- A line of a file, and the line feeds and carriage returns that end it; a last line may have none. -/
structure Line where
  body : Bytes
  ending : Bytes
  body_plain : ∀ b ∈ body, isLineEnd b = false
  ending_lineEnd : ∀ b ∈ ending, isLineEnd b = true

namespace Line

variable {l : Line}

def bytes (l : Line) : Bytes :=
  l.body ++ l.ending

/-- Whether a quoted field is open where the line ends. -/
def LeavesOpen (l : Line) : Prop :=
  (l.body.foldl Reader.feed .start).position = .inQuotes

/-- Whether the line has an end, and is outside quotes there. -/
def Closed (l : Line) : Prop :=
  l.ending ≠ [] ∧ ¬ l.LeavesOpen

instance (l : Line) : Decidable l.LeavesOpen :=
  inferInstanceAs (Decidable (_ = _))

instance (l : Line) : Decidable l.Closed :=
  inferInstanceAs (Decidable (_ ∧ _))

/-- **A line with an end is read to its end, unless it leaves a quoted field open.** -/
theorem complete_of_closed (h : l.Closed) : Complete l.bytes := by
  rw [Complete, bytes, List.foldl_append, Reader.foldl_feed_lineEnds l.ending_lineEnd h.1 h.2, Reader.position_settled]

/-- A line that has an end holds a byte of no mark. -/
theorem dropMark_append (h : l.ending ≠ []) (b : Bytes) : dropMark (l.bytes ++ b) = dropMark l.bytes ++ b := by
  obtain ⟨x, ending, hx⟩ := List.exists_cons_of_ne_nil h
  have hin : x ∈ l.ending := by rw [hx]; exact List.mem_cons_self
  exact Csv.dropMark_append ⟨x, List.mem_append_right _ hin, not_mem_byteOrderMark (l.ending_lineEnd x hin)⟩ b

/-- **An open field takes in what is behind the line**, up to the next quote. -/
theorem length_recordsWithin_of_leavesOpen (h : l.LeavesOpen) {rest : Bytes} (hrest : quote ∉ rest) :
    (recordsWithin (l.bytes ++ rest)).length ≤ 1 := by
  have hending : quote ∉ l.ending := fun hin => absurd (l.ending_lineEnd quote hin) (by decide)
  have hquote : quote ∉ l.ending ++ rest := by simp [hending, hrest]
  rw [recordsWithin, bytes, List.append_assoc, List.foldl_append]
  refine Reader.length_finish_of_records_nil ?_
  rw [(Reader.foldl_feed_inQuotes h hquote).2, Reader.records_foldl_feed l.body_plain]
  rfl

/-- **A line holds one record at the most.** -/
theorem length_recordsWithin (l : Line) : (recordsWithin l.bytes).length ≤ 1 := by
  by_cases hopen : l.LeavesOpen
  · rw [← List.append_nil l.bytes]
    exact length_recordsWithin_of_leavesOpen hopen List.not_mem_nil
  · have hbody : (l.body.foldl Reader.feed .start).records = [] := Reader.records_foldl_feed l.body_plain _
    rw [recordsWithin, bytes, List.foldl_append]
    cases hending : l.ending with
    | nil => exact Reader.length_finish_of_records_nil hbody
    | cons x ending =>
      have hsettled := Reader.foldl_feed_lineEnds l.ending_lineEnd (by simp [hending]) hopen
      rw [← hending, hsettled, Reader.finish_eq, Reader.settled_settled, ← Reader.finish_eq]
      exact Reader.length_finish_of_records_nil hbody

end Line

/-- The bytes of lines, one after the other. -/
def joinLines (lines : List Line) : Bytes :=
  lines.flatMap Line.bytes

theorem joinLines_append (before behind : List Line) : joinLines (before ++ behind) = joinLines before ++ joinLines behind :=
  List.flatMap_append

theorem complete_joinLines : ∀ {lines : List Line}, (∀ l ∈ lines, l.Closed) → Complete (joinLines lines)
  | [], _ => rfl
  | l :: lines, h => by
    rw [joinLines, List.flatMap_cons, ← joinLines]
    exact (Line.complete_of_closed (h l List.mem_cons_self)).append
      (complete_joinLines fun x hx => h x (List.mem_cons_of_mem l hx))

theorem quote_not_mem_joinLines {lines : List Line} (h : ∀ l ∈ lines, quote ∉ l.body) : quote ∉ joinLines lines := by
  intro hin
  obtain ⟨l, hl, hin⟩ := List.mem_flatMap.1 hin
  rcases List.mem_append.1 hin with hin | hin
  · exact h l hl hin
  · exact absurd (l.ending_lineEnd quote hin) (by decide)

/-- **Lines that are closed, up to the last one, are read one by one.** -/
theorem recordsWithin_joinLines : ∀ {lines : List Line}, (∀ l ∈ lines.dropLast, l.Closed) →
    recordsWithin (joinLines lines) = lines.flatMap fun l => recordsWithin l.bytes
  | [], _ => rfl
  | [l], _ => by simp [joinLines]
  | l :: m :: lines, h => by
    have hl : l.Closed := h l List.mem_cons_self
    have hrest : ∀ x ∈ (m :: lines).dropLast, x.Closed := fun x hx => h x (List.mem_cons_of_mem l hx)
    have ih := recordsWithin_joinLines hrest
    rw [joinLines, List.flatMap_cons, recordsWithin_append (Line.complete_of_closed hl), ← joinLines, ih]
    rfl

end Csv
end GameShelf
