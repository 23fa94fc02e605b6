-- The file operations a command needs, in some monad: looking a path up, making a directory with
-- its ancestors, and writing a file. `FileTree.disk` runs them on a `FileTree` held as state.
import TableDdl.Files.Tree

namespace TableDdl

/-- File operations in a monad. -/
structure Disk (m : Type → Type) where
  look : String → m Entry
  makeDirs : String → m (Except FileFault Unit)
  write : String → ByteArray → m (Except FileFault Unit)

/-- The file operations on a tree held as state. -/
def FileTree.disk : Disk (StateM FileTree) where
  look p := do pure ((← get).entry p)
  makeDirs p := do
    match (← get).makeDirs p with
    | .ok t => set t; pure (.ok ())
    | .error f => pure (.error f)
  write p bytes := do
    match (← get).write p bytes with
    | .ok t => set t; pure (.ok ())
    | .error f => pure (.error f)

end TableDdl
