import GameShelf.Catalog
import GameShelf.Command.Options
import GameShelf.Export
import GameShelf.Shortlist
import GameShelf.View
/-!
# Run — a command carried out: filters, then the selection, then the file

Files change in one place only, after everything else has succeeded.  What is done on a machine comes
with the name ending in `On`; beside it stands what it comes to in a tree of files.
-/
namespace GameShelf
namespace Command

inductive Failure
  | cannotOpen (path : Text) (fault : Files.Fault)
  | noHeader (fault? : Option Files.Fault)
  | cannotAdd (token : Text) (cause : Selection.Failure)
  | cannotRemove (token : Text) (cause : Selection.Failure)
  | cannotExport (cause : Export.Failure)
deriving DecidableEq

/-- A failure with its causes.  An export that fails has already named its cause when the cause comes
in its turn. -/
def Failure.message : Failure → String
  | cannotOpen p fault =>
    let path := String.ofList p
    let cause := fault.message
    s!"cannot open catalog {path}: {cause}"
  | noHeader none => "catalog has no readable header row"
  | noHeader (some fault) =>
    let cause := fault.message
    s!"catalog has no readable header row: {cause}"
  | cannotAdd t e =>
    let token := String.ofList t
    let cause := e.message
    s!"cannot add '{token}': {cause}"
  | cannotRemove t e =>
    let token := String.ofList t
    let cause := e.message
    s!"cannot remove '{token}': {cause}"
  | cannotExport e =>
    let failure := e.message
    let cause := e.fault.message
    s!"{failure}: {cause}"

/-- One filter of a command, with its reports. -/
def refine (view : View) (expression : Text) (key? : Option SortKey) : View × List Event :=
  let next := view.refine expression key?
  let (clauses, events) := Expression.parse expression
  (next, events ++
    [.viewRefined expression clauses.length key? view.games.length next.games.length])

/-- The filters in turn; the last one sorts, and without any filter an empty one does. -/
def narrow (key : SortKey) (view : View) : List Text → View × List Event
  | [] => refine view [] (some key)
  | [expression] => refine view expression (some key)
  | expression :: next :: rest =>
    let (view, events) := refine view expression none
    let (view, more) := narrow key view (next :: rest)
    (view, events ++ more)

/-- The additions in turn, up to one that fails. -/
def addAll (candidates : List Game) (list : Shortlist) :
    List Text → Except Failure Shortlist × List Event
  | [] => (.ok list, [])
  | token :: rest =>
    match list.add candidates token with
    | (_, .error cause) => (.error (.cannotAdd token cause), [])
    | (list, .ok added) =>
      let (result, events) := addAll candidates list rest
      (result, .gamesAdded token added list.count :: events)

/-- The removals in turn, up to one that fails. -/
def removeAll (list : Shortlist) : List Text → Except Failure Shortlist × List Event
  | [] => (.ok list, [])
  | token :: rest =>
    match list.remove token with
    | (_, .error cause) => (.error (.cannotRemove token cause), [])
    | (list, .ok removed) =>
      let (result, events) := removeAll list rest
      (result, .gamesRemoved token removed list.count :: events)

/-- The additions to an empty list, and then the removals. -/
def choose (candidates : List Game) (adds removes : List Text) :
    Except Failure Shortlist × List Event :=
  match addAll candidates .empty adds with
  | (.error failure, events) => (.error failure, events)
  | (.ok list, events) =>
    let (result, more) := removeAll list removes
    (result, events ++ more)

def numbered (games : List Game) : List Text :=
  (games.zipIdx 1).map fun (g, number) => Text.ofNat number ++ '.' :: ' ' :: g.name

/-- What a run comes to before any file is touched: a view to be listed, or a selection, which is
listed too and may have to be saved first. -/
inductive Answer
  | listing (games : List Game)
  | selection (list : Shortlist)
deriving DecidableEq

/-- Filters the catalog; and if anything is to be added, makes the selection from the view. -/
def answer (o : Options) (catalog : List Game) : Except Failure Answer × List Event :=
  let (view, events) := narrow o.sort (.ofCatalog catalog) o.filters
  let events := events ++ [.viewMatched view.games.length catalog.length]
  if o.adds.isEmpty then
    let ignored := if o.removes.isEmpty && o.save.isNone then [] else [.editsIgnored]
    (.ok (.listing view.games), events ++ ignored)
  else
    let (result, more) := choose view.games o.adds o.removes
    (result.map .selection, events ++ more)

/-- The end of a run that has saved its selection, or has failed to. -/
def saved (list : Shortlist) :
    Except Export.Failure Text → Except Failure (List Text) × List Event
  | .error cause => (.error (.cannotExport cause), [])
  | .ok path =>
    (.ok list.names, [.namesExported list.names.length path, .listSaved list.count path])

def runOn [Monad m] (machine : Files.Machine m) (o : Options) (catalog : List Game) :
    m (Except Failure (List Text) × List Event) := do
  let (answered, events) := answer o catalog
  match answered with
  | .error failure => return (.error failure, events)
  | .ok (.listing games) => return (.ok (numbered games), events)
  | .ok (.selection list) =>
    match o.savePath with
    | none => return (.ok list.names, events)
    | some path? =>
      let (result, more) := saved list (← Export.writeOn machine path? list.names)
      return (result, events ++ more)

/-- The games of a catalog file's content, with the reports on it. -/
def readCatalog (path : Text) (content : Bytes) : Except Failure (List Game) × List Event :=
  match Catalog.rows content with
  | none => (.error (.noHeader none), [])
  | some rows =>
    let games := Catalog.games rows
    (.ok games, (Catalog.skipped rows).map .rowSkipped ++ [.catalogLoaded games.length path])

def loadOn [Monad m] (machine : Files.Machine m) (path : Text) :
    m (Except Failure (List Game) × List Event) := do
  match ← machine.read path with
  | .error fault => return (.error (.cannotOpen path fault), [])
  | .ok .directory => return (.error (.noHeader (some .isADirectory)), [])
  | .ok (.file content) => return readCatalog path content

def executeOn [Monad m] (machine : Files.Machine m) (o : Options) :
    m (Except Failure (List Text) × List Event) := do
  let (loaded, loading) ← loadOn machine o.catalog
  match loaded with
  | .error failure => return (.error failure, loading)
  | .ok games =>
    let (result, events) ← runOn machine o games
    return (result, loading ++ events)

/-- How a command ends: the lines to print or the failure, what was reported, and the files then. -/
structure Outcome where
  result : Except Failure (List Text)
  events : List Event
  files : Files.Tree

def Outcome.ofRun (files : Files.Tree)
    (run : StateM Files.Tree (Except Failure (List Text) × List Event)) : Outcome :=
  let ((result, events), files) := run.run files
  ⟨result, events, files⟩

def run (device : Files.Device) (o : Options) (catalog : List Game) (files : Files.Tree) : Outcome :=
  .ofRun files (runOn (Files.Tree.machine device) o catalog)

def execute (device : Files.Device) (o : Options) (files : Files.Tree) : Outcome :=
  .ofRun files (executeOn (Files.Tree.machine device) o)

end Command
end GameShelf
