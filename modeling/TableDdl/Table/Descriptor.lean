-- Table descriptors, what a CREATE TABLE statement is generated from: a schema and a name,
-- columns, indexes, a primary key and storage options. An index's name is derived from the table's
-- name and its columns.

namespace TableDdl

/-- A column of a table. -/
structure Column where
  name : String
  type : String
  length : Option Nat := none
  nullable : Bool := true
  default : Option String := none
  encode : Option String := none
  deriving DecidableEq, Repr, Inhabited

/-- An index over some columns. -/
structure Index where
  columns : List String
  deriving DecidableEq, Repr, Inhabited

/-- How a table is distributed and sorted. -/
structure StorageOptions where
  distStyle : Option String := none
  distKey : Option String := none
  sortKey : Option String := none
  deriving DecidableEq, Repr, Inhabited

/-- A table to create. -/
structure Table where
  schema : String := ""
  table : String := ""
  description : Option String := none
  primaryKey : List String := []
  columns : List Column := []
  indexes : List Index := []
  options : StorageOptions := {}
  deriving DecidableEq, Repr, Inhabited

/-- The suffix of derived index names. -/
def Index.suffix : String := "idx"

/-- The name of an index on a table: the table's name, the columns and `idx`, joined by `_`. -/
def Index.derivedName (i : Index) (table : String) : String :=
  "_".intercalate (table :: i.columns ++ [Index.suffix])

namespace Column

/-- A column of a name and a declared type, nullable, with nothing else set. -/
def new (name type : String) : Column :=
  { name, type }

/-- The column with a length. -/
def withLength (c : Column) (n : Nat) : Column :=
  { c with length := some n }

/-- The column with nulls forbidden. -/
def notNull (c : Column) : Column :=
  { c with nullable := false }

/-- The column with a default. -/
def withDefault (c : Column) (d : String) : Column :=
  { c with default := some d }

/-- The column with an encoding. -/
def withEncode (c : Column) (e : String) : Column :=
  { c with encode := some e }

end Column

namespace Table

/-- A table of a schema and a name, with nothing else. -/
def new (schema table : String) : Table :=
  { schema, table }

/-- The table with one more column, last. -/
def addColumn (t : Table) (c : Column) : Table :=
  { t with columns := t.columns ++ [c] }

/-- The table with one more index, last. -/
def addIndex (t : Table) (i : Index) : Table :=
  { t with indexes := t.indexes ++ [i] }

/-- Whether the primary key names any column. -/
def hasPrimaryKey (t : Table) : Bool :=
  !t.primaryKey.isEmpty

end Table

end TableDdl
