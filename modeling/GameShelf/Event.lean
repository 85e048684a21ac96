import GameShelf.Clause
import GameShelf.SortKey
import GameShelf.Text.Quoted
/-!
# Event — what is reported while games are read, filtered, chosen and saved

A report is data, given together with the result that it is about; the wording comes last.
-/
namespace GameShelf

/-- Why a piece of an expression is no clause. -/
inductive Clause.Rejection
  | noOperator
  | repeatedOperator (token : Text)
  | missingPart
  | unknownColumn (left : Text)
deriving DecidableEq

/-- How grave an event is, gravest first. -/
inductive Level
  | error
  | warn
  | info
  | debug
deriving DecidableEq

namespace Level

def name : Level → String
  | error => "ERROR"
  | warn => "WARN"
  | info => "INFO"
  | debug => "DEBUG"

/-- Where a level stands, gravest first from 1. -/
def depth : Level → Nat
  | error => 1
  | warn => 2
  | info => 3
  | debug => 4

end Level

inductive Event
  | clauseRead (clause : Clause)
  | clauseDropped (piece : Text) (reason : Clause.Rejection)
  | viewRefined (expression : Text) (clauses : Nat) (key? : Option SortKey) (before after : Nat)
  | viewReset (count : Nat)
  | gamesAdded (token : Text) (added count : Nat)
  | gamesRemoved (token : Text) (removed count : Nat)
  | namesExported (count : Nat) (path : Text)
  | rowSkipped (number : Nat)
  | catalogLoaded (count : Nat) (path : Text)
  | viewMatched (count total : Nat)
  | editsIgnored
  | listSaved (count : Nat) (path : Text)
  | failed (message : String)
deriving DecidableEq

def Clause.Rejection.message : Clause.Rejection → String
  | noOperator => "no operator"
  | repeatedOperator t =>
    let token := String.ofList t
    s!"expected one '{token}'"
  | missingPart => "missing column or value"
  | unknownColumn t =>
    let left := String.ofList (Text.quoted t)
    s!"unknown column {left}"

def Direction.label : Direction → String
  | ascending => "Asc"
  | descending => "Desc"

def SortKey.label? : Option SortKey → String
  | none => "None"
  | some key =>
    let column := key.column.label
    let direction := key.direction.label
    s!"Some(SortKey \x7b column: {column}, dir: {direction} \x7d)"

namespace Event

def level : Event → Level
  | clauseDropped .. | rowSkipped .. => .warn
  | viewMatched .. | listSaved .. => .info
  | failed .. => .error
  | clauseRead .. | viewRefined .. | viewReset .. | gamesAdded .. | gamesRemoved ..
  | namesExported .. | catalogLoaded .. | editsIgnored => .debug

/-- The part of the program that an event is reported for. -/
def topic : Event → String
  | clauseRead .. | clauseDropped .. => "meeple_seeker::parse"
  | viewRefined .. | viewReset .. => "meeple_seeker::planner"
  | gamesAdded .. | gamesRemoved .. => "meeple_seeker::game_list"
  | namesExported .. => "meeple_seeker::export"
  | rowSkipped .. | catalogLoaded .. => "meeple::catalog"
  | viewMatched .. | editsIgnored | listSaved .. | failed .. => "meeple"

def message : Event → String
  | clauseRead c =>
    let clause := String.ofList c.print
    s!"parsed clause: {clause}"
  | clauseDropped t r =>
    let piece := String.ofList (Text.quoted t)
    let reason := r.message
    s!"dropping clause {piece}: {reason}"
  | viewRefined t clauses key? before after =>
    let expression := String.ofList (Text.quoted t)
    let key := SortKey.label? key?
    s!"filter {expression} ({clauses} clauses, sort {key}): {before} -> {after} games"
  | viewReset count => s!"reset view to {count} games"
  | gamesAdded t added count =>
    let token := String.ofList (Text.quoted t)
    s!"add {token}: {added} added, {count} selected"
  | gamesRemoved t removed count =>
    let token := String.ofList (Text.quoted t)
    s!"remove {token}: {removed} removed, {count} selected"
  | namesExported count p =>
    let path := String.ofList p
    s!"exported {count} names to {path}"
  | rowSkipped number => s!"skipping catalog row {number}"
  | catalogLoaded count p =>
    let path := String.ofList p
    s!"loaded {count} games from {path}"
  | viewMatched count total => s!"{count} of {total} games match"
  | editsIgnored => "nothing selected; --remove and --save ignored"
  | listSaved count p =>
    let path := String.ofList p
    s!"saved {count} games to {path}"
  | failed text => text

end Event
end GameShelf
