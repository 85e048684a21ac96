import GameShelf.Text.Basic
import GameShelf.Text.CharClass
/-!
# Blank — white space, and texts without the white space around them

White space is the Unicode property of that name: more than the space and the controls, less than
all that is invisible.  The zero-width space, for one, is not white space.
-/
namespace GameShelf

/-- White space. -/
def CharClass.blank : CharClass := ⟨[
  (0x0009, 0x000D), (0x0020, 0x0020), (0x0085, 0x0085), (0x00A0, 0x00A0), (0x1680, 0x1680),
  (0x2000, 0x200A), (0x2028, 0x2029), (0x202F, 0x202F), (0x205F, 0x205F), (0x3000, 0x3000)]⟩

namespace Text

def isBlank (t : Text) : Bool :=
  t.all CharClass.blank.has

def trimStart (t : Text) : Text :=
  t.dropWhile CharClass.blank.has

def trimEnd (t : Text) : Text :=
  (t.reverse.dropWhile CharClass.blank.has).reverse

def trim (t : Text) : Text :=
  trimEnd (trimStart t)

end Text
end GameShelf
