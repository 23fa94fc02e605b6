-- Paths as text, by the rules of a POSIX path library: joining two paths, the parent of a path,
-- and the extension of its file name.
import TableDdl.Text.Printable

namespace TableDdl.Path

/-- Whether a path starts at the root. -/
def isAbsolute (p : String) : Bool :=
  p.startsWith "/"

/-- `base` and then `p`, as a path. -/
def join (base p : String) : String :=
  if isAbsolute p then p
  else if base.isEmpty then p
  else if base.endsWith "/" then base ++ p
  else base ++ "/" ++ p

/-- A path split where its components start: the root `/` or a leading `.` directory, and the
rest. An empty or `.` component of the rest stands for nothing. -/
def splitStart (cs : List Char) : List Char × List Char :=
  match cs with
  | '/' :: rest => (['/'], rest)
  | ['.'] => (['.'], [])
  | '.' :: '/' :: rest => (['.'], '/' :: rest)
  | _ => ([], cs)

/-- Reversed text without its last components that stand for nothing: empty ones and `.`. -/
def dropEmptyTail : List Char → List Char
  | '/' :: rest => dropEmptyTail rest
  | '.' :: '/' :: rest => dropEmptyTail rest
  | ['.'] => []
  | rs => rs

/-- The last component of reversed text, and the reversed text before it and its `/`. -/
def lastOf (rs : List Char) : List Char × List Char :=
  ((rs.takeWhile (· ≠ '/')).reverse, (rs.dropWhile (· ≠ '/')).drop 1)

/-- The path without its last component, as the text before it with the empty and `.`
components there dropped: nothing for the root and for the empty path, and the empty path for a
lone `.`. -/
def parent (p : String) : Option String :=
  let (start, rest) := splitStart p.toList
  match dropEmptyTail rest.reverse with
  | [] => if start = ['.'] then some "" else none
  | rs => some (String.ofList (start ++ (dropEmptyTail (lastOf rs).2).reverse))

/-- The last component of a path, if it names a file or directory. -/
def fileName (p : String) : Option String :=
  let (_, rest) := splitStart p.toList
  match dropEmptyTail rest.reverse with
  | [] => none
  | rs =>
    let name := (lastOf rs).1
    if name = ['.', '.'] then none else some (String.ofList name)

/-- The extension of the file name: after its last `.`, when that dot is not its first
character. -/
def extension (p : String) : Option String := do
  let name := (← fileName p).toList
  match name with
  | [] => none
  | _ :: rest =>
    if rest.contains '.' then
      some (String.ofList (name.reverse.takeWhile (· ≠ '.')).reverse)
    else none

/-- How a character stands in a quoted path: quotes and backslashes escaped, the usual controls
by their short escapes, the other controls and the characters `Text.isEscaped` names as
`\u{hex}`. -/
def debugChar (c : Char) : List Char :=
  if c = '"' then ['\\', '"']
  else if c = '\\' then ['\\', '\\']
  else if c = '\n' then ['\\', 'n']
  else if c = '\r' then ['\\', 'r']
  else if c = '\t' then ['\\', 't']
  else if c.toNat = 0 then ['\\', '0']
  else if c.toNat < 32 ∨ Text.isEscaped c then
    ['\\', 'u', '\x7b'] ++ Nat.toDigits 16 c.toNat ++ ['\x7d']
  else [c]

/-- A path in double quotes, as error messages show it. -/
def quoted (p : String) : String :=
  String.ofList ('"' :: p.toList.flatMap debugChar ++ ['"'])

end TableDdl.Path
