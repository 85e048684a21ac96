import GameShelf.Text.Basic
/-!
# Terminal — texts without the control sequences that a terminal obeys

A terminal obeys the escape character with what follows it, up to the end of that sequence, and it
obeys the control characters.  `plain` leaves all of that out, so that what is logged can change
nothing on a screen.  White space is kept, inside a short sequence too; and what follows such white
space is text again, until the next control character goes on with the sequence.  A text with nothing
to obey in it stays as it is (`plain_eq_self`).
-/
namespace GameShelf

/-- Where a terminal stands in a control sequence. -/
inductive Terminal
  /-- In plain text. -/
  | ground
  /-- After an escape character. -/
  | escape
  /-- In an escape sequence with intermediate characters. -/
  | escapeIntermediate
  /-- In a control sequence, before its final character. -/
  | control
  /-- At the start of a device control string. -/
  | deviceEntry
  /-- In the parameters of a device control string. -/
  | deviceParameter
  /-- Past the parameters of a device control string. -/
  | deviceIntermediate
  /-- In a string that only a terminator ends. -/
  | string
  /-- In a string for the operating system, which the bell ends too. -/
  | command
deriving DecidableEq

namespace Terminal

/-- The byte that ends a string wherever it stands, even inside a character. -/
def stringTerminator : UInt8 := 0x9C

/-- The characters that begin, carry on or end a sequence, by their codes. -/
def nextAscii (s : Terminal) (n : Nat) : Terminal :=
  let intermediate := 0x20 ≤ n && n ≤ 0x2F
  let parameter := 0x30 ≤ n && n ≤ 0x3F
  let final := 0x40 ≤ n && n ≤ 0x7E
  if n = 0x18 ∨ n = 0x1A then .ground
  else if n = 0x1B then .escape
  else match s with
    | .ground => .ground
    | .escape =>
      if intermediate then .escapeIntermediate
      else if n = 0x5B then .control
      else if n = 0x5D then .command
      else if n = 0x50 then .deviceEntry
      else if n = 0x58 ∨ n = 0x5E ∨ n = 0x5F then .string
      else if parameter || final then .ground
      else .escape
    | .escapeIntermediate => if parameter || final then .ground else .escapeIntermediate
    | .control => if final then .ground else .control
    | .deviceEntry =>
      if intermediate then .deviceIntermediate
      else if parameter then .deviceParameter
      else if final then .string
      else .deviceEntry
    | .deviceParameter =>
      if intermediate then .deviceIntermediate
      else if 0x3C ≤ n && parameter || final then .string
      else .deviceParameter
    | .deviceIntermediate => if parameter || final then .string else .deviceIntermediate
    | .string => .string
    | .command => if n = 0x07 then .ground else .command

def next (s : Terminal) (c : Char) : Terminal :=
  if c.toNat < 0x80 then s.nextAscii c.toNat
  else if s = .string ∧ (String.utf8EncodeChar c).contains stringTerminator then .ground
  else s

/-- The controls that are white space. -/
def isBlankControl (c : Char) : Bool :=
  c = '\t' || c = '\n' || c = '\x0c' || c = '\r'

/-- The characters that plain text shows. -/
def isShown (c : Char) : Bool :=
  0x20 ≤ c.toNat && c.toNat ≠ 0x7F || isBlankControl c

/-- Whether a character is shown where the terminal stands. -/
def shows (s : Terminal) (c : Char) : Bool :=
  match s with
  | .ground => isShown c
  | .escape | .escapeIntermediate | .control => isBlankControl c
  | .deviceEntry | .deviceParameter | .deviceIntermediate | .string | .command => false

/-- The text that is shown from where the terminal stands.  `running` tells that the last character
was shown; then the next one is shown too if plain text shows it. -/
def shown (s : Terminal) (running : Bool) : Text → Text
  | [] => []
  | c :: t =>
    if running && isShown c then c :: shown (if c.toNat < 0x80 then s else .ground) true t
    else if s.shows c then c :: shown s true t
    else shown (s.next c) false t

end Terminal

/-- The text without control sequences and control characters. -/
def Text.plain (t : Text) : Text :=
  Terminal.shown .ground false t

theorem Terminal.shown_ground {t : Text} (h : ∀ c ∈ t, isShown c) (running : Bool) :
    shown .ground running t = t := by
  induction t generalizing running with
  | nil => rfl
  | cons c t ih =>
    have hc : isShown c = true := h c List.mem_cons_self
    have ht := ih fun d hd => h d (List.mem_cons_of_mem _ hd)
    cases running <;> simp [shown, shows, hc, ht]

theorem Text.plain_eq_self {t : Text} (h : ∀ c ∈ t, Terminal.isShown c) : plain t = t :=
  Terminal.shown_ground h false

end GameShelf
