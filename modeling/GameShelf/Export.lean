import GameShelf.Files.Machine
import GameShelf.Text.Blank
/-!
# Export — names written to a file, one to a line
-/
namespace GameShelf
namespace Export

/-- Where names go when no path is given, or a blank one. -/
def defaultPath : Text := "temp/games.txt".toList

def resolvePath : Option Text → Text
  | some path => if Text.isBlank path then defaultPath else path
  | none => defaultPath

/-- An export that failed, by the path it was for. -/
structure Failure where
  path : Text
  fault : Files.Fault
deriving DecidableEq

def Failure.message (e : Failure) : String :=
  let path := String.ofList e.path
  let reason := e.fault.message
  s!"failed to export names to {path}: {reason}"

/-- The content of an exported file: every name ends in a line feed. -/
def content (names : List Text) : Text :=
  names.flatMap (· ++ ['\n'])

/-- Writes the names, and gives the path written to. -/
def writeOn [Monad m] (machine : Files.Machine m) (path? : Option Text) (names : List Text) :
    m (Except Failure Text) := do
  let path := resolvePath path?
  match ← machine.write path (Text.encode (content names)) with
  | .ok () => return .ok path
  | .error fault => return .error ⟨path, fault⟩

def write (device : Files.Device) (tree : Files.Tree) (path? : Option Text) (names : List Text) :
    Files.Tree × Except Failure Text :=
  ((writeOn (Files.Tree.machine device) path? names).run tree).swap

end Export
end GameShelf
