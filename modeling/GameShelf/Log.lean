import GameShelf.Event
import GameShelf.Text.Terminal
/-!
# Log — events as lines, those of them that are asked for
-/
namespace GameShelf
namespace Log

/-- Which events are shown. -/
inductive Filter
  /-- Those of the gravest levels, this many of them. -/
  | upTo (depth : Nat)
  /-- All of the topics that begin so. -/
  | topic (name : Text)
deriving DecidableEq

namespace Filter

/-- How many levels the name of a level stands for, in any case. -/
def depth? (name : Text) : Option Nat :=
  [("off".toList, 0), ("error".toList, 1), ("warn".toList, 2), ("info".toList, 3),
   ("debug".toList, 4), ("trace".toList, 5)].lookup (name.map Char.toLower)

/-- The filter that the user names.  A blank name leaves errors only, and one that is no level is
that of a topic. -/
def ofName (name : Text) : Filter :=
  let name := Text.trim name
  if name.isEmpty then .upTo 1
  else match depth? name with
    | some depth => .upTo depth
    | none => .topic name

/-- The filter in force: the one that the user names; or else warnings are shown, and everything if
the command is to be verbose. -/
def choose (named : Option Text) (verbose : Bool) : Filter :=
  match named with
  | some name => ofName name
  | none => .upTo (if verbose then 4 else 2)

def shows (f : Filter) (e : Event) : Bool :=
  match f with
  | upTo depth => e.level.depth ≤ depth
  | topic name => name.isPrefixOf e.topic.toList

end Filter

/-- An event as a line: its level in five columns, its topic, and its message, of which further lines
are indented.  Nothing in it can act on a terminal; a control sequence left open takes the end of the
line with it. -/
def line (e : Event) : String :=
  let level := String.ofList (e.level.name.toList.rightpad 5 ' ')
  let topic := e.topic
  let message := String.ofList (e.message.toList.flatMap fun c =>
    if c = '\n' then ['\n', ' ', ' ', ' ', ' '] else [c])
  String.ofList (Text.plain (s!"[{level} {topic}] {message}\n").toList)

def lines (shown : Filter) (events : List Event) : List String :=
  (events.filter shown.shows).map line

end Log
end GameShelf
