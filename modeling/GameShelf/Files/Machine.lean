import GameShelf.Files.Tree
/-!
# Machine — what a run can do with files

A run reads one file and may write one.  How that is done is not its concern: it is the same run on a
tree of files and on the machine itself.
-/
namespace GameShelf
namespace Files

structure Machine (m : Type → Type) where
  read : Text → m (Except Fault Tree.Entry)
  write : Text → Bytes → m (Except Fault Unit)

/-- Reading and writing in a tree. -/
def Tree.machine (device : Device) : Machine (StateM Tree) where
  read path := return (← get).find path
  write path content := do
    let (after, result) := (← get).write device path content
    set after
    return result

end Files
end GameShelf
