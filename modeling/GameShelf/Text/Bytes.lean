import GameShelf.Text.Basic
/-!
# Bytes — texts as they stand in a file
-/
namespace GameShelf

/-- Bytes as they stand in a file. -/
abbrev Bytes := List UInt8

namespace Text

/-- The text that bytes write in UTF-8. -/
def decode (bytes : Bytes) : Option Text :=
  (String.fromUTF8? ⟨bytes.toArray⟩).map String.toList

/-- The bytes of a text in UTF-8. -/
def encode (t : Text) : Bytes :=
  (String.ofList t).toUTF8.data.toList

end Text
end GameShelf
