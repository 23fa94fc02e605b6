-- The project configuration: a YAML mapping with `version`, `dialect` and `template_dir`, each
-- with its default. Other keys are ignored and none may be set twice; a relative template directory
-- is taken from a base directory.
import TableDdl.Document
import TableDdl.Yaml.Value
import TableDdl.Dialect

namespace TableDdl

/-- A project configuration. -/
structure Config where
  version : String := "1.0"
  dialect : Dialect := .postgres
  templateDir : Option String := none
  deriving Inhabited

namespace Config

/-- The configuration file that a project has by default. -/
def defaultFile : String := ".stratum-ddl.yaml"

/-- Sets one field from one entry. A field takes text; `template_dir` may also be null. Other
keys change nothing, but their values must still be well formed. -/
def setField (c : Config) (key : String) (v : Yaml.Node) : Option Config :=
  if key = "version" then v.text?.toOption.map fun s => { c with version := s }
  else if key = "dialect" then (v.text?.toOption.bind Dialect.ofConfigName?).map fun d =>
    { c with dialect := d }
  else if key = "template_dir" then
    if v.isAbsent then some { c with templateDir := none }
    else v.text?.toOption.map fun s => { c with templateDir := some s }
  else if v.skippable true then some c
  else none

/-- Whether a key names a field of a configuration. -/
def isField (key : String) : Bool :=
  key = "version" || key = "dialect" || key = "template_dir"

/-- Sets the fields of entries in turn, after the fields named `set`; a field set twice is a
fault. -/
def setFields (c : Config) (set : List String) : List (Yaml.Node × Yaml.Node) → Option Config
  | [] => some c
  | (k, v) :: rest => do
    let key ← k.keyText?.toOption
    if isField key && set.contains key then none
    else (← c.setField key v).setFields (key :: set) rest

/-- The configuration a YAML node describes: a null node is the default one, and a mapping
sets the fields it names. -/
def ofNode? (n : Yaml.Node) : Option Config :=
  if n.isNull then some {}
  else match n with
    | .map es _ => do ({} : Config).setFields [] (← (Yaml.entries? es).toOption)
    | _ => none

/-- The configuration in YAML text. -/
def ofYaml? (text : String) : Option Config :=
  (Yaml.root? text).bind ofNode?

/-- The template directory, relative ones taken from `base`. -/
def resolveTemplateDir (c : Config) (base : String) : Option String :=
  c.templateDir.map fun d => if Path.isAbsolute d then d else Path.join base d

end Config

/-- A fault of reading a configuration file. -/
inductive ConfigError where
  | file (e : FileError)
  | parse
  deriving DecidableEq, Repr

/-- The wording of a configuration that does not read. -/
def ConfigError.parseMessage : String := "Failed to parse config file"

namespace Config

variable {m : Type → Type} [Monad m]

/-- Reads a configuration file: it must exist, read as text and describe a configuration. -/
def fromFile (look : String → m Entry) (path : String) : ExceptT ConfigError m Config := do
  let e ← (look path : m Entry)
  if !e.isPresent then throw (.file (.notFound path))
  match e.text with
  | .error f => throw (.file (.read path f.message))
  | .ok text =>
    match ofYaml? text with
    | some c => pure c
    | none => throw .parse

end Config

end TableDdl
