-- The `stratum-ddl` executable: the command line run on the real file system, with the current
-- directory as the project directory; it prints what the run prints and exits with its code.
import TableDdl.Cli.Program

namespace TableDdl.Cli

/-- An operating-system fault, as a file fault. -/
def faultOf : IO.Error → FileFault
  | .noFileOrDirectory _ _ _ => .notFound
  | .alreadyExists _ 17 _ => .exists
  | .inappropriateType _ 21 _ => .isDirectory
  | .inappropriateType _ 20 _ => .notDirectory
  | .alreadyExists _ code text | .inappropriateType _ code text
  | .permissionDenied _ code text | .resourceExhausted _ code text
  | .invalidArgument _ code text | .noSuchThing _ code text | .interrupted _ code text
  | .otherError code text | .resourceBusy code text | .resourceVanished code text
  | .unsupportedOperation code text | .hardwareFault code text
  | .unsatisfiedConstraints code text | .illegalOperation code text
  | .protocolError code text | .timeExpired code text => .os code.toNat text
  | e => .other (toString e)

/-- What a path holds on the file system: a file with its bytes, a regular file whose reading
fails, a directory, or nothing. A path that cannot be walked (a missing name, a file where a
directory should be, a loop of links, a name too long) holds nothing; any other fault of the
reading is the file's own, as a permission it lacks or a fault of the device. -/
def lookUp (path : String) : IO Entry := do
  try
    let bytes ← IO.FS.readBinFile path
    pure (.file bytes)
  catch e =>
    match e with
    | .inappropriateType _ 21 _ => pure .dir
    | .noFileOrDirectory _ _ _ | .inappropriateType _ 20 _ | .invalidArgument _ _ _ =>
      pure .absent
    | e => pure (.unreadable (faultOf e))

/-- Runs a file operation, keeping its fault. -/
def attempt (act : IO Unit) : IO (Except FileFault Unit) := do
  try
    act
    pure (.ok ())
  catch e => pure (.error (faultOf e))

/-- The file operations of the file system. -/
def systemDisk : Disk IO where
  look := lookUp
  makeDirs path := attempt (IO.FS.createDirAll path)
  write path bytes := attempt (IO.FS.writeBinFile path bytes)

end TableDdl.Cli

/-- Runs `stratum-ddl` with its arguments. -/
def main (args : List String) : IO UInt32 := do
  let here ← IO.currentDir
  let out ← TableDdl.Cli.run TableDdl.Cli.systemDisk (toString here) args
  IO.print out.stdout
  IO.eprint out.stderr
  pure out.code.toUInt32
