/-!
# Text — the characters of a name, an expression, a path or a file

Everything the library reads or writes for its user is a list of characters, so that it can be taken
apart by recursion.  `String` is used for the messages only.  A text is cut at the first occurrence of
a pattern; the cut loses nothing (`eq_append_of_cut`) and fails only if the pattern is not there
(`contains_iff`).
-/
namespace GameShelf

/-- A text is the list of its characters. -/
abbrev Text := List Char

namespace Text

/-- The text before and the text after the first occurrence of `pattern`. -/
def cut (pattern : Text) : Text → Option (Text × Text)
  | [] => if pattern = [] then some ([], []) else none
  | c :: t =>
    if pattern <+: c :: t then some ([], (c :: t).drop pattern.length)
    else (cut pattern t).map fun (left, right) => (c :: left, right)

def contains (pattern t : Text) : Bool :=
  (cut pattern t).isSome

def joinCommas (ts : List Text) : Text :=
  [','].intercalate ts

theorem eq_append_of_cut {pattern : Text} :
    ∀ {t left right : Text}, cut pattern t = some (left, right) → t = left ++ pattern ++ right
  | [], left, right, h => by
    unfold cut at h
    split at h <;> simp_all
  | c :: t, left, right, h => by
    unfold cut at h
    split at h
    · next hp =>
      obtain ⟨rfl, rfl⟩ : [] = left ∧ (c :: t).drop pattern.length = right := by simpa using h
      simpa using (List.prefix_iff_eq_append.1 hp).symm
    · obtain ⟨⟨l, r⟩, hc, he⟩ := Option.map_eq_some_iff.1 h
      obtain ⟨rfl, rfl⟩ : c :: l = left ∧ r = right := by simpa using he
      rw [eq_append_of_cut hc]; simp

theorem contains_iff {pattern t : Text} : contains pattern t = true ↔ pattern <:+: t := by
  constructor
  · intro h
    obtain ⟨⟨l, r⟩, hc⟩ := Option.isSome_iff_exists.1 h
    exact ⟨l, r, (eq_append_of_cut hc).symm⟩
  · intro h
    induction t with
    | nil => simp_all [contains, cut]
    | cons c t ih =>
      rcases List.infix_cons_iff.1 h with hp | ht
      · simp [contains, cut, hp]
      · unfold contains cut
        split
        · rfl
        · simpa [contains] using ih ht

end Text
end GameShelf
