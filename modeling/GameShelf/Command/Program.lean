import GameShelf.Command.Arguments
import GameShelf.Command.Run
import GameShelf.Log
/-!
# Program — what the command prints, and the code it exits with
-/
namespace GameShelf
namespace Command

structure Exit where
  code : Nat
  stdout : String
  stderr : String

def versionLine : String := "meeple 0.1.0\n"

def helpText : String :=
  "Filter a board game catalog and build a list of games to play\n\n" ++
  "Usage: meeple [OPTIONS] --catalog <CATALOG>\n\n" ++
  "Options:\n" ++
  "  -c, --catalog <CATALOG>  CSV catalog to load [env: MEEPLE_CATALOG]\n" ++
  "  -f, --filter <EXPR>      Filter expression, applied in order\n" ++
  "  -s, --sort <COLUMN>      Column to sort the result by [default: name]\n" ++
  "      --desc               Sort descending\n" ++
  "  -a, --add <TOKEN>        Add games from the filtered view\n" ++
  "  -r, --remove <TOKEN>     Remove games from the selection\n" ++
  "      --save [<PATH>]      Write the selected names to a file\n" ++
  "  -o, --output <PATH>      Default file for --save [env: MEEPLE_OUTPUT]\n" ++
  "  -v, --verbose            Enable debug logging\n" ++
  "  -h, --help               Print help\n" ++
  "  -V, --version            Print version\n"

def UsageError.message : UsageError → String
  | missingRequired => "the option --catalog is required"
  | unknownArgument => "unexpected argument"
  | invalidValue => "an option lacks its value"
  | badColumn => "the sort column is unknown"
  | repeated => "an option is given twice"
  | unwantedValue => "an option takes no value"
  | helpAsked => "help"
  | versionAsked => "version"

def Exit.ofUsage : UsageError → Exit
  | .helpAsked => ⟨0, helpText, ""⟩
  | .versionAsked => ⟨0, versionLine, ""⟩
  | error =>
    let reason := error.message
    ⟨2, "", s!"error: {reason}\n\nFor more information, try '--help'.\n"⟩

/-- The end of a command: lines on standard output, or the failure after the log. -/
def Exit.ofResult (shown : Log.Filter) (events : List Event) : Except Failure (List Text) → Exit
  | .ok lines =>
    let printed := lines.map fun line => String.ofList line ++ "\n"
    ⟨0, String.join printed, String.join (Log.lines shown events)⟩
  | .error failure =>
    let message := failure.message
    let logged := Log.lines shown (events ++ [.failed message])
    ⟨1, "", String.join logged ++ s!"Error: {message}\n"⟩

def programOn [Monad m] (machine : Files.Machine m) (env : Environment) (arguments : List Text) :
    m Exit := do
  match Options.read env arguments with
  | .error error => return .ofUsage error
  | .ok o =>
    let (result, events) ← executeOn machine o
    return .ofResult (Log.Filter.choose env.log o.verbose) events result

def program (device : Files.Device) (env : Environment) (arguments : List Text)
    (files : Files.Tree) : Exit × Files.Tree :=
  (programOn (Files.Tree.machine device) env arguments).run files

end Command
end GameShelf
