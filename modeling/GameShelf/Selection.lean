import GameShelf.Text.Blank
import GameShelf.Text.Digits
import GameShelf.Text.LowerCase
/-!
# Selection — tokens that pick items from a list

A token is `all`, a position counted from 1, a range of positions with both ends included, or a name.
A token of digits is never a name.  Positions are 64-bit words; a number too large for one becomes
the largest word, which is out of range for every list.
-/
namespace GameShelf

inductive Selection
  | all
  | index (position : UInt64)
  | range (first last : UInt64)
  | name (name : Text)
deriving DecidableEq

namespace Selection

inductive Fault
  | empty
  | indexOutOfRange (index length : Nat)
  | invalidRange (first last length : Nat)
  | nameNotFound
deriving DecidableEq

namespace Fault

def message : Fault → String
  | empty => "empty selection"
  | indexOutOfRange i n => s!"index {i} is out of range (1-{n})"
  | invalidRange i j n => s!"range {i}-{j} is invalid for {n} items"
  | nameNotFound => "no game with that name"

end Fault

structure Failure where
  token : Text
  fault : Fault
deriving DecidableEq

def Failure.message (e : Failure) : String :=
  let token := String.ofList e.token
  let reason := e.fault.message
  s!"invalid selection '{token}': {reason}"

/-- The position that a run of digits writes. -/
def position (digits : Text) : UInt64 :=
  UInt64.ofNat (min (Text.digitsValue digits) (UInt64.size - 1))

/-- The two sides of the first dash, if both are digits. -/
def splitRange (t : Text) : Option (Text × Text) :=
  (Text.cut ['-'] t).filter fun (first, last) => Text.isDigits first && Text.isDigits last

/-- The shape of a token.  Only a blank one has none; whether a position or a name exists is for
`pick` to say. -/
def read (token : Text) : Except Failure Selection :=
  let t := Text.trim token
  if t.isEmpty then .error ⟨[], .empty⟩
  else if t.map Char.toLower = "all".toList then .ok .all
  else if Text.isDigits t then .ok (.index (position t))
  else match splitRange t with
    | some (first, last) => .ok (.range (position first) (position last))
    | none => .ok (.name t)

def print : Selection → Text
  | all => "all".toList
  | index i => Text.ofNat i.toNat
  | range i j => Text.ofNat i.toNat ++ '-' :: Text.ofNat j.toNat
  | name t => t

def isAll (s : Selection) : Bool :=
  s = all

/-- Picks from the candidates, in their order.  A name picks the first candidate that bears it, case
disregarded. -/
def pick (nameOf : α → Text) (candidates : List α) (s : Selection) : Except Failure (List α) :=
  let length := candidates.length
  match s with
  | all => .ok candidates
  | index i =>
    let i := i.toNat
    if i < 1 ∨ length < i then .error ⟨s.print, .indexOutOfRange i length⟩
    else .ok ((candidates.drop (i - 1)).take 1)
  | range i j =>
    let i := i.toNat
    let j := j.toNat
    if i < 1 ∨ length < j ∨ j < i then .error ⟨s.print, .invalidRange i j length⟩
    else .ok ((candidates.take j).drop (i - 1))
  | name wanted =>
    match candidates.find? fun x => Text.compareFolded (nameOf x) wanted = .eq with
    | some x => .ok [x]
    | none => .error ⟨s.print, .nameNotFound⟩

def resolve (nameOf : α → Text) (candidates : List α) (token : Text) : Except Failure (List α) :=
  (read token).bind (pick nameOf candidates)

end Selection
end GameShelf
