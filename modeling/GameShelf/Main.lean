import GameShelf.Command.Program
/-!
# Main — the program on the files of the machine it runs on

The library decides; this module reads and writes the files that a run asks for, and prints.
-/
namespace GameShelf
namespace Shell

/-- The fault behind an error code of the machine, which some calls give with its sign changed. -/
def faultOfCode (code : UInt32) (reason : String) : Files.Fault :=
  match if code.toNat < 0x80000000 then code.toNat else UInt32.size - code.toNat with
  | 2 => .noSuchEntry
  | 17 => .fileExists
  | 20 => .notADirectory
  | 21 => .isADirectory
  | 36 => .nameTooLong
  | n => .other n reason

def faultOfError : IO.Error → Files.Fault
  | .alreadyExists _ code reason | .otherError code reason | .resourceBusy code reason
  | .resourceVanished code reason | .unsupportedOperation code reason | .hardwareFault code reason
  | .unsatisfiedConstraints code reason | .illegalOperation code reason
  | .protocolError code reason | .timeExpired code reason | .interrupted _ code reason
  | .noFileOrDirectory _ code reason | .invalidArgument _ code reason
  | .permissionDenied _ code reason | .resourceExhausted _ code reason
  | .inappropriateType _ code reason | .noSuchThing _ code reason => faultOfCode code reason
  | .unexpectedEof => .other 0 "unexpected end of file"
  | .userError reason => .other 0 reason

def machine : Files.Machine IO where
  read path := do
    try
      let content ← IO.FS.readBinFile (String.ofList path)
      return .ok (.file content.data.toList)
    catch e =>
      match faultOfError e with
      | .isADirectory => return .ok .directory
      | fault => return .error fault
  write path content := do
    try
      let parent := Path.parentText path
      unless parent.isEmpty do
        IO.FS.createDirAll (String.ofList parent)
      IO.FS.withFile (String.ofList path) .write fun file => do
        file.write ⟨content.toArray⟩
        -- a fault of what is still to be written would not be seen when the file is closed
        file.flush
      return .ok ()
    catch e =>
      return .error (faultOfError e)

def environment : IO Command.Environment := do
  let lookUp (name : String) : IO (Option Text) := do
    return (← IO.getEnv name).map String.toList
  return ⟨← lookUp "MEEPLE_CATALOG", ← lookUp "MEEPLE_OUTPUT", ← lookUp "RUST_LOG"⟩

end Shell
end GameShelf

open GameShelf in
def main (arguments : List String) : IO UInt32 := do
  let env ← Shell.environment
  let exit ← Command.programOn Shell.machine env (arguments.map String.toList)
  IO.print exit.stdout
  IO.eprint exit.stderr
  return UInt32.ofNat exit.code
