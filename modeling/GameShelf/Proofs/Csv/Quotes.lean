import GameShelf.Proofs.Csv
/-!
# Quotes — the line ends inside fields

A line end ends the record, unless it stands inside quotes.  So no field holds a line end that is never read inside quotes
(`not_mem_field`), however the bytes are quoted otherwise.
-/
namespace GameShelf
namespace Csv

def lineFeed : UInt8 := 0x0A

/-- Whether this byte is read inside quotes somewhere in the bytes. -/
def Quotes (x : UInt8) (bytes : Bytes) : Prop :=
  ∃ before behind, bytes = before ++ x :: behind ∧ (before.foldl Reader.feed .start).position = .inQuotes

namespace Reader

variable {r : Reader} {x b : UInt8}

/-- Whether the reader meets the byte inside quotes, from where it stands. -/
def quotes (x : UInt8) (r : Reader) : Bytes → Bool
  | [] => false
  | b :: bytes => (b = x && r.position = .inQuotes) || quotes x (r.feed b) bytes

theorem quotes_iff {bytes : Bytes} : r.quotes x bytes = true ↔
    ∃ before behind, bytes = before ++ x :: behind ∧ (before.foldl feed r).position = .inQuotes := by
  induction bytes generalizing r with
  | nil => simp [quotes]
  | cons b bytes ih =>
    rw [quotes, Bool.or_eq_true, ih]
    constructor
    · rintro (hhead | ⟨before, behind, rfl, hquotes⟩)
      · obtain ⟨rfl, hquotes⟩ : b = x ∧ r.position = .inQuotes := by simpa using hhead
        exact ⟨[], bytes, rfl, hquotes⟩
      · exact ⟨b :: before, behind, rfl, hquotes⟩
    · rintro ⟨before, behind, hbytes, hquotes⟩
      cases before with
      | nil =>
        obtain ⟨rfl, -⟩ := List.cons.inj hbytes
        exact .inl (by simpa using hquotes)
      | cons c before =>
        obtain ⟨rfl, hrest⟩ := List.cons.inj hbytes
        exact .inr ⟨before, behind, hrest, hquotes⟩

/-- The byte is in none of the fields that the reader holds. -/
structure Free (x : UInt8) (r : Reader) : Prop where
  field : x ∉ r.field
  fields : ∀ field ∈ r.fields, x ∉ field
  records : ∀ record ∈ r.records, ∀ field ∈ record, x ∉ field

theorem Free.endRecord (h : r.Free x) : r.endRecord.Free x where
  field := List.not_mem_nil
  fields := nofun
  records := by
    refine List.forall_mem_cons.2 ⟨fun field hfield => ?_, h.records⟩
    rcases List.mem_cons.1 (List.mem_reverse.1 hfield) with rfl | hfield
    · exact fun hin => h.field (List.mem_reverse.1 hin)
    · exact h.fields field hfield

/-- **A byte that ends lines gets into a field inside quotes only.** -/
theorem Free.feed (hx : isLineEnd x = true) (h : r.Free x) (hb : b = x → r.position ≠ .inQuotes) :
    (r.feed b).Free x := by
  have hstep := step_feed r b
  generalize r.feed b = next at hstep
  cases hstep with
  | skip | move => exact ⟨h.field, h.fields, h.records⟩
  | endRecord => exact h.endRecord
  | endField =>
    have hfield : x ∉ r.field.reverse := fun hin => h.field (List.mem_reverse.1 hin)
    exact ⟨List.not_mem_nil, List.forall_mem_cons.2 ⟨hfield, h.fields⟩, h.records⟩
  | copy p hp hquotes =>
    refine ⟨fun hin => ?_, h.fields, h.records⟩
    rcases List.mem_cons.1 hin with rfl | hin
    · exact hb rfl (hquotes hx)
    · exact h.field hin

theorem Free.foldl_feed (hx : isLineEnd x = true) (h : r.Free x) {bytes : Bytes} (hbytes : r.quotes x bytes = false) :
    (bytes.foldl Reader.feed r).Free x := by
  induction bytes generalizing r with
  | nil => exact h
  | cons b bytes ih =>
    obtain ⟨hhead, hrest⟩ := Bool.or_eq_false_iff.1 hbytes
    exact ih (h.feed hx fun hb hquotes => by simp [hb, hquotes] at hhead) hrest

theorem free_start (x : UInt8) : start.Free x :=
  ⟨List.not_mem_nil, nofun, nofun⟩

end Reader

instance (x : UInt8) (bytes : Bytes) : Decidable (Quotes x bytes) :=
  decidable_of_iff (Reader.start.quotes x bytes = true) Reader.quotes_iff

/-- **No field holds a line end that is never read inside quotes.** -/
theorem not_mem_field {x : UInt8} (hx : isLineEnd x = true) {bytes field : Bytes} {record : List Bytes}
    (h : ¬ Quotes x (dropMark bytes)) (hrecord : record ∈ records bytes) (hfield : field ∈ record) : x ∉ field := by
  have hquotes : Reader.start.quotes x (dropMark bytes) = false :=
    Bool.eq_false_iff.2 fun hquotes => h (Reader.quotes_iff.1 hquotes)
  have hfree := (Reader.free_start x).foldl_feed hx hquotes
  rw [records, Reader.finish, List.mem_reverse] at hrecord
  split at hrecord
  · exact hfree.records record hrecord field hfield
  · exact hfree.endRecord.records record hrecord field hfield

end Csv
end GameShelf
