import GameShelf.Command.Program
import GameShelf.Proofs.Export
/-!
# Run — a command in a tree of files

What a command does with files is defined once, for any machine.  In a tree a run comes to what it answers, and then to one
write or to none (`run_eq`); a command reads its catalog, which changes nothing, and ends as the run on the games that it
has read (`execute_eq`); and the program is the command that its arguments mean (`program_eq`).
-/
namespace GameShelf
namespace Command

variable (device : Files.Device) (o : Options)

theorem run_eq (catalog : List Game) (files : Files.Tree) :
    run device o catalog files =
      match answer o catalog with
      | (.error failure, events) => ⟨.error failure, events, files⟩
      | (.ok (.listing games), events) => ⟨.ok (numbered games), events, files⟩
      | (.ok (.selection list), events) =>
        match o.savePath with
        | none => ⟨.ok list.names, events, files⟩
        | some path? =>
          let (after, written) := Export.write device files path? list.names
          let (result, more) := saved list written
          ⟨result, events ++ more, after⟩ := by
  rw [run, Outcome.ofRun, runOn]
  rcases answer o catalog with ⟨failure | games | list, events⟩
  · rfl
  · rfl
  · cases o.savePath <;> rfl

/-- The games of the file at a path, with the reports on it. -/
def load (files : Files.Tree) (path : Text) : Except Failure (List Game) × List Event :=
  match files.find path with
  | .error fault => (.error (.cannotOpen path fault), [])
  | .ok .directory => (.error (.noHeader (some .isADirectory)), [])
  | .ok (.file content) => readCatalog path content

/-- **Reading a catalog changes nothing.** -/
theorem run_loadOn (files : Files.Tree) (path : Text) :
    (loadOn (Files.Tree.machine device) path).run files = (load files path, files) := by
  simp only [loadOn, load, StateT.run_bind, Files.Tree.run_machine_read]
  rcases files.find path with fault | content | _ <;> rfl

/-- **A command is the run on the games of its catalog**, and leaves the files as they were when it cannot read those. -/
theorem execute_eq (files : Files.Tree) :
    execute device o files =
      match load files o.catalog with
      | (.error failure, events) => ⟨.error failure, events, files⟩
      | (.ok games, events) =>
        let outcome := run device o games files
        { outcome with events := events ++ outcome.events } := by
  simp only [execute, Outcome.ofRun, executeOn, StateT.run_bind, run_loadOn]
  rcases load files o.catalog with ⟨failure | games, events⟩ <;> rfl

theorem program_eq (env : Environment) (arguments : List Text) (files : Files.Tree) :
    program device env arguments files =
      match Options.read env arguments with
      | .error error => (.ofUsage error, files)
      | .ok o =>
        let outcome := execute device o files
        (.ofResult (Log.Filter.choose env.log o.verbose) outcome.events outcome.result, outcome.files) := by
  rw [program, programOn]
  cases Options.read env arguments <;> rfl

end Command
end GameShelf
