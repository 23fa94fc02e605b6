-- Files as a value: what a path holds, and a finite tree of files and directories whose paths
-- are walked name by name, as a POSIX system walks them. Reading, making a directory and writing
-- fail with the causes the operating system gives, in its words.
import TableDdl.Files.Path

namespace TableDdl

/-- Why an operation on files failed, as the operating system words it. -/
inductive FileFault where
  | notFound
  | isDirectory
  | exists
  | notDirectory
  | notUtf8
  /-- Any other fault the operating system reports, by its code and wording. -/
  | os (code : Nat) (text : String)
  /-- A fault without a code, by its wording. -/
  | other (text : String)
  deriving DecidableEq, Repr

/-- The wording of a fault. -/
def FileFault.message : FileFault → String
  | .notFound => "No such file or directory (os error 2)"
  | .isDirectory => "Is a directory (os error 21)"
  | .exists => "File exists (os error 17)"
  | .notDirectory => "Not a directory (os error 20)"
  | .notUtf8 => "stream did not contain valid UTF-8"
  | .os code text => text ++ " (os error " ++ toString code ++ ")"
  | .other text => text

/-- What a path holds. -/
inductive Entry where
  | file (bytes : ByteArray)
  /-- A regular file that the system refuses to read, with the fault it reports. -/
  | unreadable (fault : FileFault)
  | dir
  | absent
  deriving Inhabited

/-- The text of a file. -/
def Entry.text : Entry → Except FileFault String
  | .file bytes =>
    match String.fromUTF8? bytes with
    | some s => .ok s
    | none => .error .notUtf8
  | .unreadable fault => .error fault
  | .dir => .error .isDirectory
  | .absent => .error .notFound

/-- Whether the entry is a regular file. -/
def Entry.isFile : Entry → Bool
  | .file _ | .unreadable _ => true
  | _ => false

/-- Whether something is at the path. -/
def Entry.isPresent : Entry → Bool
  | .absent => false
  | _ => true

/-- Whether the entry is a directory. -/
def Entry.isDir : Entry → Bool
  | .dir => true
  | _ => false

/-- The names of a path as written, split at `/`; empty names stand for the root's slash and
for repeated or trailing slashes. -/
def Path.names (p : String) : List String :=
  p.splitOn "/"

/-- The place of a path by its names alone: `.` and empty names dropped, each `..` taking away
the name before it. -/
def Path.key (p : String) : List String :=
  (Path.names p).foldl (fun acc n =>
    if n.isEmpty ∨ n = "." then acc
    else if n = ".." then acc.dropLast
    else acc ++ [n]) []

/-- Files and directories, each by the names that lead to it from the root. -/
structure FileTree where
  files : List (List String × ByteArray) := []
  dirs : List (List String) := []
  deriving Inhabited

namespace FileTree

/-- Whether `k'` lies strictly below `k`. -/
def isBelow (k k' : List String) : Bool :=
  k.isPrefixOf k' && k.length < k'.length

/-- What is at a place: a file, a directory (the root, a made one, or the ancestor of another
entry), or nothing. -/
def kindAt (t : FileTree) (k : List String) : Entry :=
  match t.files.lookup k with
  | some bytes => .file bytes
  | none =>
    if k.isEmpty ∨ t.dirs.contains k ∨ t.files.any (fun (k', _) => isBelow k k') ∨
        t.dirs.any (isBelow k ·) then .dir
    else .absent

/-- Walks names from the directory at `dir`, each naming a directory. -/
def walkDirs (t : FileTree) : List String → List String → Except FileFault (List String)
  | dir, [] => .ok dir
  | dir, n :: rest =>
    if n.isEmpty ∨ n = "." then t.walkDirs dir rest
    else if n = ".." then t.walkDirs dir.dropLast rest
    else
      match t.kindAt (dir ++ [n]) with
      | .dir => t.walkDirs (dir ++ [n]) rest
      | .file _ | .unreadable _ => .error .notDirectory
      | .absent => .error .notFound

/-- Where a path leads. -/
inductive Place where
  /-- A name in a directory; `slash` tells whether the path ends in `/` after it. -/
  | named (dir : List String) (name : String) (slash : Bool)
  /-- A directory, reached by a path that ends in `.` or `..` or is the root. -/
  | directory (dir : List String)

/-- Where a path leads, once every directory before its last name is walked. -/
def place (t : FileTree) (p : String) : Except FileFault Place :=
  let ns := Path.names p
  let body := (ns.reverse.dropWhile String.isEmpty).reverse
  let slash := body.length < ns.length
  match body.getLast? with
  | none => .ok (.directory [])
  | some last =>
    if last = "." ∨ last = ".." then (t.walkDirs [] body).map .directory
    else (t.walkDirs [] body.dropLast).map fun dir => .named dir last slash

/-- What a path holds; a path that cannot be walked holds nothing, and one that ends in `/`
holds only a directory. -/
def entry (t : FileTree) (p : String) : Entry :=
  match t.place p with
  | .error _ => .absent
  | .ok (.directory _) => .dir
  | .ok (.named dir name slash) =>
    match t.kindAt (dir ++ [name]) with
    | .file bytes => if slash then .absent else .file bytes
    | e => e

/-- Removes whatever is at a place and below it. -/
def eraseKey (t : FileTree) (k : List String) : FileTree :=
  { files := t.files.filter fun (k', _) => !(k' == k || isBelow k k')
    dirs := t.dirs.filter fun k' => !(k' == k || isBelow k k') }

/-- Removes a file or a directory with all it holds, at the place its names lead to. -/
def remove (t : FileTree) (p : String) : FileTree :=
  t.eraseKey (Path.key p)

/-- Puts a file at the place its names lead to, replacing what was there; the ancestors become
directories. -/
def put (t : FileTree) (p : String) (bytes : ByteArray) : FileTree :=
  let k := Path.key p
  let t := t.eraseKey k
  { t with files := t.files ++ [(k, bytes)] }

/-- Makes a directory at the place its names lead to, with its ancestors. -/
def putDir (t : FileTree) (p : String) : FileTree :=
  let k := Path.key p
  if t.dirs.contains k then t else { t with dirs := t.dirs ++ [k] }

/-- Makes one directory: its parent must be there, and nothing may be at its place. -/
def makeDir (t : FileTree) (p : String) : Except FileFault FileTree := do
  match ← t.place p with
  | .directory _ => throw .exists
  | .named dir name _ =>
    match t.kindAt (dir ++ [name]) with
    | .absent => pure { t with dirs := t.dirs ++ [dir ++ [name]] }
    | _ => throw .exists

/-- Makes a directory with its missing ancestors: when the directory cannot be made because its
parent is not found, the parent is made first and the directory again; a directory that is
already there is no fault. `fuel` bounds the ancestors. -/
def makeDirsWith : Nat → FileTree → String → Except FileFault FileTree
  | 0, _, _ => .error (.other "failed to create whole tree")
  | fuel + 1, t, p =>
    if p.isEmpty then .ok t
    else
      let settle (t : FileTree) (f : FileFault) : Except FileFault FileTree :=
        if (t.entry p).isDir then .ok t else .error f
      match t.makeDir p with
      | .ok t' => .ok t'
      | .error .notFound =>
        match Path.parent p with
        | none => .error (.other "failed to create whole tree")
        | some q =>
          match makeDirsWith fuel t q with
          | .error f => .error f
          | .ok t' =>
            match t'.makeDir p with
            | .ok t'' => .ok t''
            | .error f => settle t' f
      | .error f => settle t f

/-- Makes a directory with all its missing ancestors. -/
def makeDirs (t : FileTree) (p : String) : Except FileFault FileTree :=
  makeDirsWith (p.length + 1) t p

/-- Writes a file: its directory must be there, and the path may not name a directory or end in
`/`, `.` or `..`. -/
def write (t : FileTree) (p : String) (bytes : ByteArray) : Except FileFault FileTree := do
  match ← t.place p with
  | .directory _ => throw .isDirectory
  | .named dir name slash =>
    if slash then throw .isDirectory
    match t.kindAt (dir ++ [name]) with
    | .dir => throw .isDirectory
    | _ =>
      let k := dir ++ [name]
      let t := t.eraseKey k
      pure { t with files := t.files ++ [(k, bytes)] }

end FileTree

end TableDdl
