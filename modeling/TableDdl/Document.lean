-- Loading documents from files: a `.yaml` or `.yml` file is read as YAML and any other as JSON. A
-- path that holds no regular file is not found, and template parameters must be a mapping.
import TableDdl.Json.Parse
import TableDdl.Yaml.Value
import TableDdl.Files.Tree
import TableDdl.Template.Value

namespace TableDdl

/-- A fault of a file operation on a named path. -/
inductive FileError where
  | notFound (path : String)
  | read (path : String) (cause : String)
  | write (path : String) (cause : String)
  | parse (path : String) (cause : String)
  deriving DecidableEq, Repr

namespace FileError

/-- The wording of a fault. -/
def message : FileError → String
  | .notFound path => "File not found: " ++ path
  | .read path cause => "Failed to read file: " ++ path ++ " (cause: " ++ cause ++ ")"
  | .write path cause => "Failed to write file: " ++ path ++ " (cause: " ++ cause ++ ")"
  | .parse path cause => "Failed to parse file: " ++ path ++ " (cause: " ++ cause ++ ")"

/-- The file is not there. -/
def isNotFound : FileError → Bool
  | .notFound _ => true
  | _ => false

/-- The file could not be read. -/
def isRead : FileError → Bool
  | .read .. => true
  | _ => false

/-- The file could not be written. -/
def isWrite : FileError → Bool
  | .write .. => true
  | _ => false

/-- The file's text does not read. -/
def isParse : FileError → Bool
  | .parse .. => true
  | _ => false

end FileError

/-- The notation of a document file. -/
inductive Notation where
  | json
  | yaml
  deriving DecidableEq, Repr

/-- The notation a path's extension names. -/
def Notation.ofPath (path : String) : Notation :=
  match Path.extension path with
  | some ext => if ext.toLower = "yaml" ∨ ext.toLower = "yml" then .yaml else .json
  | none => .json

/-- Reads document text in a notation. -/
def Notation.read? : Notation → String → Option Json
  | .json, text => Json.parse? text
  | .yaml, text => Yaml.parse? text

/-- How a parse fault is described. -/
def Notation.fault : Notation → String
  | .json => "Invalid JSON"
  | .yaml => "Invalid YAML"

namespace Document

variable {m : Type → Type} [Monad m]

/-- The text of a regular file. -/
def readText (look : String → m Entry) (path : String) : ExceptT FileError m String := do
  let e ← (look path : m Entry)
  if e.isFile then
    match e.text with
    | .ok s => pure s
    | .error f => throw (.read path f.message)
  else throw (.notFound path)

/-- The document in a file. -/
def load (look : String → m Entry) (path : String) : ExceptT FileError m Json := do
  let text ← readText look path
  let form := Notation.ofPath path
  match form.read? text with
  | some j => pure j
  | none => throw (.parse path form.fault)

/-- The template parameters in a file, which must hold a mapping. -/
def loadParams (look : String → m Entry) (path : String) :
    ExceptT FileError m Template.Params := do
  let j ← load look path
  match Template.Params.ofJson? j with
  | some ps => pure ps
  | none => throw (.parse path "template parameters must be a mapping")

end Document

end TableDdl
