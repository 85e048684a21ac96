import GameShelf.Proofs.Csv
/-!
# Writing — every table is read from some file

With a quote on either side of each field, and every quote in a field written twice, nothing in a field ends it early.  So a
table written like this is read back as it was (`records_flatMap_written`), if none of its records is without a field; and
no record that is read is (`ne_nil_of_mem_records`).
-/
namespace GameShelf
namespace Csv

/-- A field with a quote on either side, and every quote in it twice. -/
def quoted (field : Bytes) : Bytes :=
  quote :: field.flatMap (fun b => if b = quote then [quote, quote] else [b]) ++ [quote]

/-- A record with all fields quoted, and a line feed at its end. -/
def written : List Bytes → Bytes
  | [] => [0x0A]
  | [field] => quoted field ++ [0x0A]
  | field :: next :: rest => quoted field ++ comma :: written (next :: rest)

namespace Reader

variable {r : Reader}

theorem foldl_feed_doubled (h : r.position = .inQuotes) (field : Bytes) :
    (field.flatMap fun b => if b = quote then [quote, quote] else [b]).foldl feed r =
      { r with field := field.reverse ++ r.field } := by
  induction field generalizing r with
  | nil => rfl
  | cons b field ih =>
    have hbyte : (if b = quote then [quote, quote] else [b]).foldl feed r = r.copy .inQuotes b := by
      by_cases hb : b = quote
      · simp [hb, feed, h, copy]
      · simp [hb, feed, h]
    rw [List.flatMap_cons, List.foldl_append, hbyte, ih rfl]
    simp [copy, h]

theorem foldl_feed_quoted (h : r.position = .betweenRecords ∨ r.position = .fieldStart) (hfield : r.field = [])
    (field : Bytes) : (quoted field).foldl feed r = { r with position := .afterQuote, field := field.reverse } := by
  have hopen : r.feed quote = { r with position := .inQuotes } := by
    have hend : isLineEnd quote = false := by decide
    rcases h with h | h <;> simp [feed, h, hend]
  rw [quoted, List.cons_append, List.foldl_cons, hopen, List.foldl_append, foldl_feed_doubled rfl, hfield]
  simp [feed]

theorem foldl_feed_written (h : r.position = .betweenRecords ∨ r.position = .fieldStart) (hfield : r.field = [])
    {record : List Bytes} (hne : record ≠ []) :
    (written record).foldl feed r = start.after ((r.fields.reverse ++ record) :: r.records) := by
  induction record generalizing r with
  | nil => exact absurd rfl hne
  | cons field rest ih =>
    cases rest with
    | nil =>
      rw [written, List.foldl_append, foldl_feed_quoted h hfield]
      simp [feed, feedPlain, isLineEnd, comma, quote, endRecord, start, after]
    | cons next rest =>
      have hcomma : ({ r with position := .afterQuote, field := field.reverse } : Reader).feed comma =
          { r with position := .fieldStart, field := [], fields := field :: r.fields } := by
        simp [feed, feedPlain, comma, quote, endField]
      rw [written, List.foldl_append, foldl_feed_quoted h hfield, List.foldl_cons, hcomma,
        ih (.inr rfl) rfl (List.cons_ne_nil next rest)]
      simp

end Reader

theorem complete_written {record : List Bytes} (hne : record ≠ []) : Complete (written record) := by
  rw [Complete, Reader.foldl_feed_written (.inl rfl) rfl hne]
  rfl

theorem recordsWithin_written {record : List Bytes} (hne : record ≠ []) : recordsWithin (written record) = [record] := by
  rw [recordsWithin, Reader.foldl_feed_written (.inl rfl) rfl hne, Reader.finish_after]
  rfl

theorem recordsWithin_flatMap_written {records : List (List Bytes)} (hne : ∀ r ∈ records, r ≠ []) :
    recordsWithin (records.flatMap written) = records := by
  induction records with
  | nil => rfl
  | cons record records ih =>
    have hrecord : record ≠ [] := hne record List.mem_cons_self
    rw [List.flatMap_cons, recordsWithin_append (complete_written hrecord), recordsWithin_written hrecord,
      ih fun r hr => hne r (List.mem_cons_of_mem record hr), List.singleton_append]

/-- A written record begins with a quote, and so with no mark. -/
theorem dropMark_written_append {record : List Bytes} (hne : record ≠ []) (rest : Bytes) :
    dropMark (written record ++ rest) = written record ++ rest := by
  match record, hne with
  | [field], _ => rfl
  | field :: next :: record, _ => rfl

/-- **A table that is written is read back as it was.** -/
theorem records_flatMap_written {records : List (List Bytes)} (hne : ∀ r ∈ records, r ≠ []) :
    Csv.records (records.flatMap written) = records := by
  have hmark : dropMark (records.flatMap written) = records.flatMap written := by
    cases records with
    | nil => rfl
    | cons record records => exact dropMark_written_append (hne record List.mem_cons_self) _
  rw [records_eq, hmark, recordsWithin_flatMap_written hne]

/-! ## Records have fields -/

theorem Reader.forall_feed {r : Reader} (h : ∀ record ∈ r.records, record ≠ []) (b : UInt8) :
    ∀ record ∈ (r.feed b).records, record ≠ [] := by
  have hstep := Reader.step_feed r b
  generalize r.feed b = next at hstep
  cases hstep with
  | endRecord => exact List.forall_mem_cons.2 ⟨by simp, h⟩
  | skip | endField | move | copy => exact h

theorem Reader.forall_foldl_feed {r : Reader} (h : ∀ record ∈ r.records, record ≠ []) (bytes : Bytes) :
    ∀ record ∈ (bytes.foldl feed r).records, record ≠ [] := by
  induction bytes generalizing r with
  | nil => exact h
  | cons b bytes ih => exact ih (forall_feed h b)

theorem ne_nil_of_mem_records {bytes : Bytes} {record : List Bytes} (h : record ∈ Csv.records bytes) : record ≠ [] := by
  have hall := Reader.forall_foldl_feed (show ∀ record ∈ Reader.start.records, record ≠ [] from nofun) (dropMark bytes)
  rw [Csv.records, Reader.finish, List.mem_reverse] at h
  split at h
  · exact hall record h
  · rcases List.mem_cons.1 h with rfl | h
    · simp
    · exact hall record h

end Csv
end GameShelf
