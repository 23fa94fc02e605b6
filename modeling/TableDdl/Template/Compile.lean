-- Templates read from files: each include `%F:name` is replaced in place by the segments of
-- `name.sql` beside the template, which may not include again. Files are looked up in some monad,
-- so the same definitions read a `FileTree` value or a real disk.
import TableDdl.Template.Render
import TableDdl.Files.Tree

namespace TableDdl.Template

variable {m : Type → Type} [Monad m]

/-- The extension of template files, which an include leaves out. -/
def fileExtension : String := "sql"

/-- The text of a template file. -/
def readText (look : String → m Entry) (path : String) : ExceptT Error m String := do
  let e ← (look path : m Entry)
  if e.isFile then
    match e.text with
    | .ok s => pure s
    | .error f => throw (.fileRead path f.message)
  else throw (.fileNotFound path)

/-- The first include among segments, by its name (empty when it has none). -/
def firstInclude? (segs : List Segment) : Option String :=
  ((holes segs).find? (·.kind = .include)).map (·.name.getD "")

/-- The segments of an included file, which may not include again. -/
def loadInclude (look : String → m Entry) (dir name : String) :
    ExceptT Error m (List Segment) := do
  let text ← readText look (Path.join dir (name ++ "." ++ fileExtension))
  match scan text with
  | .error e => throw e
  | .ok segs =>
    match firstInclude? segs with
    | some nested => throw (.nestedInclude nested)
    | none => pure segs

/-- Replaces each include by the segments of its file in `dir`. -/
def spliceIncludes (look : String → m Entry) (dir : String) :
    List Segment → ExceptT Error m (List Segment)
  | [] => pure []
  | .text s :: rest => do
    let r ← spliceIncludes look dir rest
    pure (.text s :: r)
  | .hole p :: rest => do
    if p.kind = .include then
      match p.name with
      | none => throw (.missingIncludeName p.position)
      | some n =>
        let segs ← loadInclude look dir n
        let r ← spliceIncludes look dir rest
        pure (segs ++ r)
    else
      let r ← spliceIncludes look dir rest
      pure (.hole p :: r)

/-- Reads and compiles a template file; its includes come from its own directory. -/
def ofFile (look : String → m Entry) (path : String) : ExceptT Error m Template := do
  let text ← readText look path
  match scan text with
  | .error e => throw e
  | .ok segs =>
    let segs ← spliceIncludes look ((Path.parent path).getD "") segs
    pure ⟨segs⟩

/-- Reads a template file and renders it with named parameters. -/
def formatFile (look : String → m Entry) (path : String) (params : Params) :
    ExceptT Error m String := do
  let t ← ofFile look path
  match t.renderNamed params with
  | .ok s => pure s
  | .error e => throw e

end TableDdl.Template
