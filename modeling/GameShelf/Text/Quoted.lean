import GameShelf.Text.Basic
import GameShelf.Text.Visible
/-!
# Quoted — texts as the diagnostics show them

A quoted text stands between double quotes.  A quote and a backslash are escaped, four controls have
short names, and what could not be seen is written by its code point in hexadecimal.
-/
namespace GameShelf
namespace Text

def quoteChar (c : Char) : Text :=
  if c = '"' then ['\\', '"']
  else if c = '\\' then ['\\', '\\']
  else if c = '\n' then ['\\', 'n']
  else if c = '\r' then ['\\', 'r']
  else if c = '\t' then ['\\', 't']
  else if c.toNat = 0 then ['\\', '0']
  else if CharClass.isVisible c then [c]
  else ['\\', 'u', '\x7b'] ++ Nat.toDigits 16 c.toNat ++ ['\x7d']

/-- The text in double quotes. -/
def quoted (t : Text) : Text :=
  '"' :: t.flatMap quoteChar ++ ['"']

end Text
end GameShelf
