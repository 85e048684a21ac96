import GameShelf.SortKey
/-!
# Options — what a command line can say, and what it then means
-/
namespace GameShelf
namespace Command

/-- An option that stands alone. -/
inductive Flag
  | descending
  | verbose
  | help
  | version
deriving DecidableEq

/-- An option that takes a value. -/
inductive Setting
  | catalog
  | filter
  | sort
  | add
  | remove
  | save
  | output
deriving DecidableEq

inductive Switch
  | flag (f : Flag)
  | setting (s : Setting)
deriving DecidableEq

/-- The options by their long names, and by their letters where they have one. -/
def Switch.table : List (Text × Option Char × Switch) :=
  [("catalog".toList, some 'c', .setting .catalog),
   ("filter".toList, some 'f', .setting .filter),
   ("sort".toList, some 's', .setting .sort),
   ("desc".toList, none, .flag .descending),
   ("add".toList, some 'a', .setting .add),
   ("remove".toList, some 'r', .setting .remove),
   ("save".toList, none, .setting .save),
   ("output".toList, some 'o', .setting .output),
   ("verbose".toList, some 'v', .flag .verbose),
   ("help".toList, some 'h', .flag .help),
   ("version".toList, some 'V', .flag .version)]

def Switch.ofName? (name : Text) : Option Switch :=
  (table.find? (·.1 = name)).map (·.2.2)

def Switch.ofLetter? (letter : Char) : Option Switch :=
  (table.find? (·.2.1 = some letter)).map (·.2.2)

/-- Why a command line is not carried out.  Asking for help or for the version is one of the
reasons. -/
inductive UsageError
  | missingRequired
  | unknownArgument
  | invalidValue
  | badColumn
  | repeated
  | unwantedValue
  | helpAsked
  | versionAsked
deriving DecidableEq

/-- The variables of the environment that stand in for options. -/
structure Environment where
  catalog : Option Text
  output : Option Text
  log : Option Text

structure Draft where
  catalog : Option Text
  filters : List Text
  sort : Option Column
  descending : Bool
  adds : List Text
  removes : List Text
  save : Option (Option Text)
  output : Option Text
  verbose : Bool
deriving DecidableEq

structure Options where
  catalog : Text
  filters : List Text
  sort : SortKey
  adds : List Text
  removes : List Text
  save : Option (Option Text)
  output : Option Text
  verbose : Bool
deriving DecidableEq

namespace Draft

def empty : Draft :=
  ⟨none, [], none, false, [], [], none, none, false⟩

/-- A value that may be given once. -/
def once (current : Option α) (value : Except UsageError α) : Except UsageError (Option α) :=
  if current.isSome then .error .repeated else value.map some

def path (t : Text) : Except UsageError Text :=
  if t.isEmpty then .error .invalidValue else .ok t

def column (t : Text) : Except UsageError Column :=
  match Column.resolve t with
  | some c => .ok c
  | none => .error .badColumn

def raise (d : Draft) : Flag → Except UsageError Draft
  | .descending => if d.descending then .error .repeated else .ok { d with descending := true }
  | .verbose => if d.verbose then .error .repeated else .ok { d with verbose := true }
  | .help => .error .helpAsked
  | .version => .error .versionAsked

/-- The draft with one more setting.  Only `save` can do without a value. -/
def set (d : Draft) : Setting → Option Text → Except UsageError Draft
  | .save, none => (once d.save (.ok none)).map fun save => { d with save }
  | .save, some t => (once d.save ((path t).map some)).map fun save => { d with save }
  | _, none => .error .invalidValue
  | .catalog, some t => (once d.catalog (path t)).map fun catalog => { d with catalog }
  | .output, some t => (once d.output (path t)).map fun output => { d with output }
  | .sort, some t => (once d.sort (column t)).map fun sort => { d with sort }
  | .filter, some t => .ok { d with filters := d.filters ++ [t] }
  | .add, some t => .ok { d with adds := d.adds ++ [t] }
  | .remove, some t => .ok { d with removes := d.removes ++ [t] }

def pathOr (given fallback : Option Text) : Except UsageError (Option Text) :=
  match given, fallback with
  | some t, _ => .ok (some t)
  | none, some t => (path t).map some
  | none, none => .ok none

/-- The options that a complete draft means, with what the environment and the defaults add. -/
def finish (d : Draft) (env : Environment) : Except UsageError Options := do
  let catalog ← pathOr d.catalog env.catalog
  let output ← pathOr d.output env.output
  match catalog with
  | none => .error .missingRequired
  | some catalog =>
    .ok {
      catalog, output
      filters := d.filters
      sort := ⟨d.sort.getD .name, .ofAscending (!d.descending)⟩
      adds := d.adds
      removes := d.removes
      save := d.save
      verbose := d.verbose }

end Draft

/-- Where the names are to be saved, if they are: the path given with `save`, else the one for
output, else none in particular. -/
def Options.savePath (o : Options) : Option (Option Text) :=
  o.save.map fun given => given <|> o.output

end Command
end GameShelf
