import GameShelf.Text.CaseContext
import GameShelf.Text.LowerCase.Table
import GameShelf.Text.Basic
/-!
# LowerCase — two ways to disregard case

`fold` lower-cases each character by itself: names are equal, and are ordered, by their folded forms.
`lower` lower-cases a text as a whole: there a capital sigma that ends a word takes its final form.
The two differ in nothing else (`lower_eq_fold`).
-/
namespace GameShelf
namespace Text

/-- The lower-case form of one character.  It is one character again, save for the capital I with a
dot, whose dot becomes a mark of its own. -/
def lowerChar (c : Char) : Text :=
  if c.toNat < 0x80 then [c.toLower]
  else if c.toNat = 0x130 then ['i', '\u0307']
  else match CaseRun.table.find? (·.covers c.toNat) with
    | some run => [Char.ofNat (run.apply c.toNat)]
    | none => [c]

/-- The text with each of its characters lower-cased by itself. -/
def fold (t : Text) : Text :=
  t.flatMap lowerChar

/-- Order of the folded forms, by code point. -/
def compareFolded (a b : Text) : Ordering :=
  compare (fold a) (fold b)

/-- Whether the first character that case does not pass over is a letter with case. -/
def facesCased (t : Text) : Bool :=
  match t.dropWhile CharClass.caseIgnorable.has with
  | [] => false
  | c :: _ => CharClass.cased.has c

/-- The lower-case form of a capital sigma that follows `before`, the nearest character first, and
is followed by `after`: final where a word ends, and not where a letter stands alone. -/
def lowerSigma (before after : Text) : Char :=
  if facesCased before && !facesCased after then 'ς' else 'σ'

/-- `lower` of the rest of a text, of which `before` has been passed, the nearest character first. -/
def lowerAfter : (before rest : Text) → Text
  | _, [] => []
  | before, c :: rest =>
    (if c = 'Σ' then [lowerSigma before rest] else lowerChar c) ++ lowerAfter (c :: before) rest

def lower (t : Text) : Text :=
  lowerAfter [] t

theorem fold_append (a b : Text) : fold (a ++ b) = fold a ++ fold b :=
  List.flatMap_append ..

theorem lowerAfter_eq_fold {t : Text} (h : 'Σ' ∉ t) (before : Text) :
    lowerAfter before t = fold t := by
  induction t generalizing before with
  | nil => rfl
  | cons c t ih =>
    obtain ⟨hc, ht⟩ : ¬ c = 'Σ' ∧ 'Σ' ∉ t := by simp_all [eq_comm]
    simp [lowerAfter, hc, ih ht, fold]

theorem lower_eq_fold {t : Text} (h : 'Σ' ∉ t) : lower t = fold t :=
  lowerAfter_eq_fold h []

end Text
end GameShelf
