-- The pieces of a CREATE TABLE statement that both dialects share: the head, the column lines and
-- the primary key. Pieces are joined by newlines, empty ones dropped.
import TableDdl.Table.Descriptor
import TableDdl.Sql.Quote
import TableDdl.Sql.TypeName

namespace TableDdl.Ddl

/-- Joins the non-empty pieces with newlines. -/
def joinPieces (pieces : List String) : String :=
  "\n".intercalate (pieces.filter (!·.isEmpty))

/-- A piece present only when a condition holds. -/
def pieceIf (c : Bool) (s : String) : String :=
  if c then s else ""

/-- `CREATE TABLE IF NOT EXISTS schema.table`. -/
def head (t : Table) : String :=
  "CREATE TABLE IF NOT EXISTS " ++ Sql.quoteIdent t.schema ++ "." ++ Sql.quoteIdent t.table

/-- The line that defines a column; `withEncoding` adds its encoding. -/
def columnLine (withEncoding : Bool) (c : Column) : String :=
  Sql.quoteIdent c.name ++ " " ++ Sql.mapType c.type ++
    (match c.length with
      | some n => "(" ++ toString n ++ ")"
      | none => "") ++
    (if c.nullable then "" else " NOT NULL") ++
    (match c.default with
      | some d => " DEFAULT " ++ d
      | none => "") ++
    (match withEncoding, c.encode with
      | true, some e => " ENCODE " ++ e
      | _, _ => "")

/-- The column lines, joined by a comma and a newline. -/
def columnBlock (withEncoding : Bool) (t : Table) : String :=
  ",\n".intercalate (t.columns.map (columnLine withEncoding))

/-- `,PRIMARY KEY(names)`, or nothing when the key is empty. -/
def primaryKeyPiece (t : Table) : String :=
  if t.hasPrimaryKey then ",PRIMARY KEY(" ++ Sql.quoteIdents t.primaryKey ++ ")" else ""

end TableDdl.Ddl
