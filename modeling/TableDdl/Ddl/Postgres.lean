-- CREATE TABLE for PostgreSQL: the head, the columns and the primary key, then one block per index
-- from the index template, the directory's `create-index.sql` when that is a regular file and the
-- bundled one otherwise. The template is read only when the table has indexes.
import TableDdl.Ddl.Layout
import TableDdl.Template.Compile

namespace TableDdl.Ddl

variable {m : Type → Type} [Monad m]

/-- The bundled index template. -/
def bundledIndexTemplate : String :=
  "do\n$$\nbegin\nif not exists (\n    select indexname\n        from pg_indexes\n" ++
  "    where schemaname = %L:schema\n        and tablename = %L:table\n" ++
  "        and indexname = %L:indexName\n)\nthen\n" ++
  "    create index %I:indexName ON %I:schema.%I:table(%I:columns);\nend if;\nend\n$$;\n"

/-- The file name of an index template in a template directory. -/
def indexTemplateFile : String := "create-index.sql"

/-- A result computed without files, inside a computation that may read them. -/
def liftResult {ε α : Type} (r : Except ε α) : ExceptT ε m α :=
  ExceptT.mk (pure r)

/-- The index template: the directory's file when it is a regular file, else the bundled one. -/
def indexTemplate (look : String → m Entry) (dir : Option String) :
    ExceptT Template.Error m Template :=
  match dir with
  | none => liftResult (Template.ofText bundledIndexTemplate)
  | some d => do
    let path := Path.join d indexTemplateFile
    let e ← (look path : m Entry)
    if e.isFile then Template.ofFile look path
    else liftResult (Template.ofText bundledIndexTemplate)

/-- The parameters of an index's block. -/
def indexParams (t : Table) (i : Index) : Template.Params :=
  Template.Params.ofList
    [("schema", .text t.schema), ("table", .text t.table),
     ("indexName", .text (i.derivedName t.table)), ("columns", .list (i.columns.map .text))]

/-- The block of every index, in order, from one reading of the template; no reading at all for
a table without indexes. -/
def indexBlocks (look : String → m Entry) (dir : Option String) (t : Table) :
    ExceptT Template.Error m (List String) :=
  if t.indexes.isEmpty then pure []
  else do
    let tpl ← indexTemplate look dir
    liftResult (t.indexes.mapM fun i => tpl.renderNamed (indexParams t i))

/-- The block of one index, reading the template afresh. -/
def createIndex (look : String → m Entry) (dir : Option String) (t : Table) (i : Index) :
    ExceptT Template.Error m String := do
  let tpl ← indexTemplate look dir
  liftResult (tpl.renderNamed (indexParams t i))

/-- The statement for given index blocks. -/
def postgresLayout (t : Table) (blocks : List String) : String :=
  let cols := !t.columns.isEmpty
  joinPieces ([head t, pieceIf cols "(", columnBlock false t, primaryKeyPiece t, pieceIf cols ")",
    pieceIf cols ";"] ++ blocks)

/-- CREATE TABLE for PostgreSQL, with the index template of `dir` or the bundled one. -/
def createPostgres (look : String → m Entry) (dir : Option String) (t : Table) :
    ExceptT Template.Error m String := do
  let blocks ← indexBlocks look dir t
  pure (postgresLayout t blocks)

end TableDdl.Ddl
