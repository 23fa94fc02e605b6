-- Column type names: a declared type is looked up by its ASCII upper-case form in a table that
-- both dialects share, and any other type is written as it was declared.

namespace TableDdl.Sql

/-- The common type names and what each is written as. -/
def commonTypes : List (String × String) :=
  [("INT", "INT"), ("SMALLINT", "SMALLINT"), ("BIGINT", "BIGINT"), ("VARCHAR", "VARCHAR"),
   ("CHAR", "CHAR"), ("BOOLEAN", "BOOLEAN"), ("BOOL", "BOOLEAN"), ("TIMESTAMP", "TIMESTAMP"),
   ("TIMESTAMPTZ", "TIMESTAMPTZ"), ("DATE", "DATE"), ("TEXT", "TEXT"), ("FLOAT4", "FLOAT4"),
   ("FLOAT8", "FLOAT8"), ("BIGSERIAL", "BIGSERIAL")]

/-- The canonical name of a declared type, if the table knows it. -/
def lookupType (declared : String) : Option String :=
  commonTypes.lookup declared.toUpper

/-- The name a column type is written with: the canonical one, else the declared text. -/
def mapType (declared : String) : String :=
  (lookupType declared).getD declared

end TableDdl.Sql
