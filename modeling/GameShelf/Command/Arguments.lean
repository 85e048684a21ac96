import GameShelf.Command.Options
/-!
# Arguments — command lines read argument by argument

A setting's value is attached to it, after `=` or directly after its letter, or is the next argument
if that does not begin with a dash.  A setting that waits for a value is not settled before the next
option or the end; so an unknown argument is reported ahead of what is wrong with that value.
-/
namespace GameShelf
namespace Command

structure Scan where
  /-- The options settled so far. -/
  draft : Draft
  /-- The setting not settled yet, with its value if that has come. -/
  pending : Option (Setting × Option Text)
  /-- Whether `--` has been read. -/
  ended : Bool
deriving DecidableEq

namespace Scan

def start : Scan := ⟨.empty, none, false⟩

def settle (s : Scan) : Except UsageError Draft :=
  match s.pending with
  | none => .ok s.draft
  | some (setting, value?) => s.draft.set setting value?

/-- A setting whose value is attached. -/
def attach (s : Scan) (setting : Setting) (value : Text) : Except UsageError Scan := do
  let draft ← s.settle
  let draft ← draft.set setting (some value)
  return { s with draft, pending := none }

/-- A setting whose value may follow. -/
def await (s : Scan) (setting : Setting) : Except UsageError Scan := do
  let draft ← s.settle
  return { s with draft, pending := some (setting, none) }

def raise (s : Scan) (flag : Flag) : Except UsageError Scan := do
  let draft ← s.settle
  let draft ← draft.raise flag
  return { s with draft, pending := none }

/-- An argument after two dashes: a name, with its value after an equals sign if it has one there. -/
def long (s : Scan) (body : Text) : Except UsageError Scan :=
  let (name, value?) := match Text.cut ['='] body with
    | some (name, value) => (name, some value)
    | none => (body, none)
  match Switch.ofName? name, value? with
  | none, _ => .error .unknownArgument
  | some (.flag _), some _ => .error .unwantedValue
  | some (.flag flag), none => s.raise flag
  | some (.setting setting), some value => s.attach setting value
  | some (.setting setting), none => s.await setting

/-- An argument after one dash: the letters of flags, and last that of a setting if there is one, with
what follows it as its value. -/
def short (s : Scan) : Text → Except UsageError Scan
  | [] => .ok s
  | letter :: rest =>
    match Switch.ofLetter? letter with
    | none => .error .unknownArgument
    | some (.flag flag) => (s.raise flag).bind fun s => short s rest
    | some (.setting setting) =>
      match rest with
      | [] => s.await setting
      | '=' :: value => s.attach setting value
      | value => s.attach setting value

/-- An argument that names no option: the value waited for, or nothing that is known. -/
def plain (s : Scan) (argument : Text) : Except UsageError Scan :=
  match s.pending with
  | some (setting, none) => .ok { s with pending := some (setting, some argument) }
  | _ => .error .unknownArgument

def read (s : Scan) (argument : Text) : Except UsageError Scan :=
  if s.ended then .error .unknownArgument
  else match argument with
    | ['-', '-'] => .ok { s with ended := true }
    | '-' :: '-' :: body => s.long body
    | '-' :: letter :: rest => s.short (letter :: rest)
    | _ => s.plain argument

end Scan

def Options.read (env : Environment) (arguments : List Text) : Except UsageError Options := do
  let scan ← arguments.foldlM Scan.read .start
  let draft ← scan.settle
  draft.finish env

end Command
end GameShelf
