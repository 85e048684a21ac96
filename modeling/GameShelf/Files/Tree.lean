import GameShelf.Files.Path
import GameShelf.Text.Bytes
/-!
# Tree — the files and directories that a run can see and change

Only what a run can observe is kept: which places hold a file, and its bytes; which hold a directory;
and where the run works.  The faults are those of opening a file, making a directory and writing.
-/
namespace GameShelf
namespace Files

inductive Fault
  | noSuchEntry
  | fileExists
  | notADirectory
  | isADirectory
  | nameTooLong
  | nulInName
  | other (code : Nat) (reason : String)
deriving DecidableEq

def Fault.message : Fault → String
  | noSuchEntry => "No such file or directory (os error 2)"
  | fileExists => "File exists (os error 17)"
  | notADirectory => "Not a directory (os error 20)"
  | isADirectory => "Is a directory (os error 21)"
  | nameTooLong => "File name too long (os error 36)"
  | nulInName => "file name contained an unexpected NUL byte"
  | other code reason => s!"{reason} (os error {code})"

/-- The longest name, in bytes. -/
def maxNameSize : Nat := 255

/-- The longest path, in bytes. -/
def maxPathSize : Nat := 4095

def size (t : Text) : Nat :=
  t.foldl (fun n c => n + c.utf8Size) 0

/-- The working directory, files with their bytes, and directories. -/
structure Tree where
  here : Place
  files : List (Place × Bytes)
  directories : List Place
deriving DecidableEq

/-- What a machine does to a run that writes: where it lets nothing be made or opened, and of which
files it ends the writing after so many bytes. -/
structure Device where
  refusal? : Place → Option Fault
  interruption? : Place → Bytes → Option (Nat × Fault)

/-- The machine that never stands in the way. -/
def Device.sound : Device := ⟨fun _ => none, fun _ _ => none⟩

namespace Tree

def empty : Tree := ⟨[], [], []⟩

def file? (tree : Tree) (place : Place) : Option Bytes :=
  tree.files.lookup place

/-- The working directory and the places above it are directories in any tree. -/
def isDirectory (tree : Tree) (place : Place) : Bool :=
  place.isSuffixOf tree.here || tree.directories.contains place

def put (tree : Tree) (place : Place) (content : Bytes) : Tree :=
  { tree with
    files :=
      if (tree.file? place).isSome then
        tree.files.map fun (p, old) => (p, if p = place then content else old)
      else tree.files ++ [(place, content)] }

/-- Where a path begins. -/
def start (tree : Tree) (p : Path) : Place :=
  if p.isAbsolute then [] else tree.here

/-- The place a name leads to from a directory. -/
def step (place : Place) (name : Text) : Except Fault Place :=
  if name = Place.above then .ok place.tail
  else if maxNameSize < size name then .error .nameTooLong
  else .ok (name :: place)

/-- Follows names that must all be directories. -/
def walk (tree : Tree) (place : Place) : List Text → Except Fault Place
  | [] => .ok place
  | name :: rest =>
    match step place name with
    | .error e => .error e
    | .ok next =>
      if tree.isDirectory next then walk tree next rest
      else if (tree.file? next).isSome then .error .notADirectory
      else .error .noSuchEntry

/-- Follows names and makes the directories that are missing; those made before a fault stay.  A file
in the way is found by passing through it, unless it is last or something has been `made` before it:
then it is found by making a directory in its place. -/
def makeDirectories (tree : Tree) (device : Device) (made : Bool) (place : Place) :
    List Text → Tree × Except Fault Place
  | [] => (tree, .ok place)
  | name :: rest =>
    match step place name with
    | .error e => (tree, .error e)
    | .ok next =>
      if tree.isDirectory next then makeDirectories tree device made next rest
      else if (tree.file? next).isSome then
        (tree, .error (if made || rest.isEmpty then .fileExists else .notADirectory))
      else match device.refusal? next with
        | some fault => (tree, .error fault)
        | none =>
          let grown := { tree with directories := tree.directories ++ [next] }
          makeDirectories grown device true next rest

/-- What stands at a path, opened for reading. -/
inductive Entry
  | file (content : Bytes)
  | directory
deriving DecidableEq

/-- Faults of the path's text alone. -/
def textFault? (path : Text) : Option Fault :=
  if path.any (·.toNat = 0) then some .nulInName
  else if maxPathSize < size path then some .nameTooLong
  else none

def find (tree : Tree) (path : Text) : Except Fault Entry :=
  let p := Path.ofText path
  match textFault? path, p.names.getLast? with
  | some fault, _ => .error fault
  | none, none => if path.isEmpty then .error .noSuchEntry else .ok .directory
  | none, some name =>
    (walk tree (tree.start p) p.directories).bind fun place =>
      (step place name).bind fun place =>
        if tree.isDirectory place then .ok .directory
        else match tree.file? place with
          | none => .error .noSuchEntry
          | some content => if p.ending = .name then .ok (.file content) else .error .notADirectory

/-- The place where a file can be created, or is overwritten, at a path. -/
def creatable (tree : Tree) (path : Text) : Except Fault Place :=
  let p := Path.ofText path
  match textFault? path, p.ending, p.names.getLast? with
  | some fault, _, _ => .error fault
  | none, .name, some name =>
    (walk tree (tree.start p) p.directories).bind fun place =>
      (step place name).bind fun place =>
        if tree.isDirectory place then .error .isADirectory else .ok place
  | none, .dots, _ => (walk tree (tree.start p) p.names).bind fun _ => .error .isADirectory
  | none, _, _ => .error .isADirectory

/-- The tree with the directories on the way to a path made. -/
def makeParents (tree : Tree) (device : Device) (path : Text) : Tree × Except Fault Place :=
  let p := Path.ofText path
  match textFault? (Path.parentText path) with
  | some fault => (tree, .error fault)
  | none => makeDirectories tree device false (tree.start p) p.directories

/-- The tree with these bytes in the file at a path, with the directories on the way made.  What the
file held is gone when it is opened, so a writing that is ended leaves only what it has written. -/
def write (tree : Tree) (device : Device) (path : Text) (content : Bytes) :
    Tree × Except Fault Unit :=
  match makeParents tree device path with
  | (tree, .error fault) => (tree, .error fault)
  | (tree, .ok _) =>
    match creatable tree path with
    | .error fault => (tree, .error fault)
    | .ok place =>
      match device.refusal? place, device.interruption? place content with
      | some fault, _ => (tree, .error fault)
      | none, some (count, fault) => (tree.put place (content.take count), .error fault)
      | none, none => (tree.put place content, .ok ())

/-- The files of `after` below the working directory that `before` does not hold with the same
bytes, by their paths from there. -/
def changes (before after : Tree) : List (Text × Bytes) :=
  let changed := after.files.filter fun (place, content) =>
    after.here.isSuffixOf place && before.file? place ≠ some content
  changed.map fun (place, content) =>
    (['/'].intercalate (place.take (place.length - after.here.length)).reverse, content)

/-- A tree from paths of directories and files with their bytes, as far as they can be made. -/
def ofListing (here : Place) (directories : List Text) (files : List (Text × Bytes)) : Tree :=
  let made := directories.foldl
    (fun tree path => (tree.makeDirectories .sound false here (Path.ofText path).names).1)
    ⟨here, [], []⟩
  files.foldl (fun tree (path, content) => (tree.write .sound path content).1) made

end Tree
end Files
end GameShelf
