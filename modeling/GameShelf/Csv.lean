import GameShelf.Text.Bytes
/-!
# Csv — comma-separated records, read byte by byte

Records end at a carriage return, a line feed or both; lines with nothing on them are no records.  A
field that begins with a quote runs to the closing quote, past commas and line ends, and a quote inside
it is written twice.  Bytes after the closing quote belong to the field.  Nothing is ever malformed:
an open field or record ends where the input does.
-/
namespace GameShelf

namespace Csv

def comma : UInt8 := 0x2C
def quote : UInt8 := 0x22
def isLineEnd (b : UInt8) : Bool := b = 0x0A || b = 0x0D

/-- Where in a record the reader stands. -/
inductive Position
  | betweenRecords
  | fieldStart
  | inField
  | inQuotes
  | afterQuote
deriving DecidableEq

/-- The reader between two bytes: its position, the bytes of the open field, the fields of the open
record and the records that are complete, each latest first. -/
structure Reader where
  position : Position
  field : Bytes
  fields : List Bytes
  records : List (List Bytes)

namespace Reader

def start : Reader := ⟨.betweenRecords, [], [], []⟩

def copy (r : Reader) (position : Position) (b : UInt8) : Reader :=
  { r with position, field := b :: r.field }

def endField (r : Reader) : Reader :=
  { r with position := .fieldStart, field := [], fields := r.field.reverse :: r.fields }

def endRecord (r : Reader) : Reader :=
  ⟨.betweenRecords, [], [], (r.field.reverse :: r.fields).reverse :: r.records⟩

/-- A byte of a field that is not, or is no longer, inside quotes. -/
def feedPlain (r : Reader) (b : UInt8) : Reader :=
  if b = comma then r.endField
  else if isLineEnd b then r.endRecord
  else r.copy .inField b

def feed (r : Reader) (b : UInt8) : Reader :=
  match r.position with
  | .betweenRecords =>
    if isLineEnd b then r
    else if b = quote then { r with position := .inQuotes }
    else r.feedPlain b
  | .fieldStart => if b = quote then { r with position := .inQuotes } else r.feedPlain b
  | .inField => r.feedPlain b
  | .inQuotes => if b = quote then { r with position := .afterQuote } else r.copy .inQuotes b
  | .afterQuote => if b = quote then r.copy .inQuotes b else r.feedPlain b

/-- All records, the open one included. -/
def finish (r : Reader) : List (List Bytes) :=
  (if r.position = .betweenRecords then r else r.endRecord).records.reverse

end Reader

/-- The mark that a file may begin with to say that it is UTF-8. -/
def byteOrderMark : Bytes := [0xEF, 0xBB, 0xBF]

def dropMark (bytes : Bytes) : Bytes :=
  (byteOrderMark.isPrefixOf? bytes).getD bytes

def records (bytes : Bytes) : List (List Bytes) :=
  ((dropMark bytes).foldl Reader.feed .start).finish

end Csv
end GameShelf
