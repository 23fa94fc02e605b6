-- The two commands: `translate` turns a table description into SQL with the project's
-- configuration, and `render` fills a template file with parameters. Either returns its result as
-- text, or writes it to a file whose directory it makes first.
import TableDdl.Cli.Failure
import TableDdl.Files.Disk
import TableDdl.Text.Blank
import TableDdl.Template.Compile

namespace TableDdl.Cli

/-- A path taken from a base directory, unless it is absolute. -/
def resolvePath (base p : String) : String :=
  if Path.isAbsolute p then p else Path.join base p

/-- The settings a command runs with: the project directory, the configuration file that was
read, if any, and the configuration. -/
structure Context where
  project : String
  configPath : Option String := none
  config : Config := {}

namespace Context

variable {m : Type → Type} [Monad m]

/-- Reads a configuration file that is there. -/
def readConfig (disk : Disk m) (path : String) : ExceptT Failure m Config :=
  within "Failed to read config file" (ofConfig (Config.fromFile disk.look path))

/-- The settings of a project. A configuration file that is asked for must exist; otherwise the
project's default file is read if it is there, and the defaults are taken if not. -/
def load (disk : Disk m) (project : String) : Option String → ExceptT Failure m Context
  | some p => do
    let path := resolvePath project p
    let e ← (disk.look path : m Entry)
    if !e.isPresent then failWith ("Config file not found: " ++ Path.quoted path)
    let c ← readConfig disk path
    pure { project, configPath := some path, config := c }
  | none => do
    let path := Path.join project Config.defaultFile
    let e ← (disk.look path : m Entry)
    if e.isPresent then
      let c ← readConfig disk path
      pure { project, configPath := some path, config := c }
    else pure { project }

/-- The dialect asked for, or else the configured one. -/
def dialect (c : Context) : Option String → Except Failure Dialect
  | some name =>
    match Dialect.parse name with
    | .ok d => .ok d
    | .error e => .error { cause := .plain e.message }
  | none => .ok c.config.dialect

/-- The template directory asked for, from the project; or else the configured one, from the
configuration file's directory. -/
def templateDir (c : Context) : Option String → Option String
  | some d => some (resolvePath c.project d)
  | none => c.config.resolveTemplateDir ((c.configPath.bind Path.parent).getD c.project)

end Context

/-- A description whose `type` is missing or null asks for `op`. -/
def withOperation (op : String) : Json → Json
  | .obj ms =>
    match findMember "type" ms with
    | none | some .null => .obj (setMember "type" (.str op) ms)
    | some _ => .obj ms
  | j => j

/-- Text that ends with a line break. -/
def withFinalBreak (s : String) : String :=
  if s.endsWith "\n" then s else s ++ "\n"

/-- The report of a written file. -/
def writtenSummary (path : String) : String :=
  "✓ SQL written to " ++ path

/-- One `KEY=VALUE` argument, split at its first `=`; the key loses surrounding blanks. -/
def parseParam (arg : String) : Except Failure (String × Template.Value) :=
  match arg.toList.span (· ≠ '=') with
  | (_, []) => .error { cause := .plain ("Invalid parameter '" ++ arg ++ "': expected KEY=VALUE") }
  | (key, _ :: value) =>
    let key := Text.trimBlanks key
    if key.isEmpty then .error { cause := .plain ("Invalid parameter '" ++ arg ++ "': empty key") }
    else .ok (String.ofList key, .text (String.ofList value))

/-- What `translate` is asked to do. -/
structure TranslateRequest where
  project : String
  configPath : Option String := none
  input : String
  dialect : Option String := none
  operation : Option String := none
  templateDir : Option String := none
  output : Option String := none

/-- What `render` is asked to do. -/
structure RenderRequest where
  project : String
  template : String
  paramsFile : Option String := none
  params : List String := []
  output : Option String := none

variable {m : Type → Type} [Monad m]

/-- A result as text, or written to a file with a final line break and reported. -/
def emit (disk : Disk m) (sql : String) : Option String → ExceptT Failure m String
  | none => pure sql
  | some path => do
    match Path.parent path with
    | some dir =>
      if !dir.isEmpty then
        match ← (disk.makeDirs dir : m _) with
        | .ok () => pure ()
        | .error f => throw { cause := .file (.write dir f.message) }
    | none => pure ()
    match ← (disk.write path (withFinalBreak sql).toUTF8 : m _) with
    | .ok () => pure (writtenSummary path)
    | .error f => throw { cause := .file (.write path f.message) }

/-- Runs `translate`. -/
def runTranslate (disk : Disk m) (r : TranslateRequest) : ExceptT Failure m String := do
  let ctx ← Context.load disk r.project r.configPath
  let d ← liftExcept (ctx.dialect r.dialect)
  let dir := ctx.templateDir r.templateDir
  let inputPath := resolvePath r.project r.input
  let input ← within ("Failed to load table description: " ++ Path.quoted inputPath)
    (ofFile (Document.load disk.look inputPath))
  let input := match r.operation with
    | some op => withOperation op input
    | none => input
  let tr : Translator := { templateDir := dir }
  let sql ← within ("Failed to translate " ++ Path.quoted inputPath)
    (ofTranslate (tr.translate disk.look d input))
  emit disk sql (r.output.map (resolvePath r.project))
where
  liftExcept {α : Type} (x : Except Failure α) : ExceptT Failure m α := ExceptT.mk (pure x)

/-- The parameters in a parameter file, if one is given. -/
def paramsFrom (disk : Disk m) (project : String) : Option String →
    ExceptT Failure m Template.Params
  | some p => within "Failed to load template parameters"
      (ofFile (Document.loadParams disk.look (resolvePath project p)))
  | none => pure []

/-- Runs `render`. -/
def runRender (disk : Disk m) (r : RenderRequest) : ExceptT Failure m String := do
  let base ← paramsFrom disk r.project r.paramsFile
  let params ← r.params.foldlM (fun ps arg => do
      let (k, v) ← ExceptT.mk (pure (parseParam arg))
      pure (Template.Params.insert k v ps)) base
  let path := resolvePath r.project r.template
  let sql ← within ("Failed to render template " ++ Path.quoted path)
    (ofTemplate (Template.formatFile disk.look path params))
  emit disk sql (r.output.map (resolvePath r.project))

end TableDdl.Cli
