-- CREATE TABLE for Redshift: the head, the columns with their encodings and the primary key, then
-- the storage options `DISTSTYLE`, `DISTKEY` and `SORTKEY` as far as they are set. Indexes are not
-- written.
import TableDdl.Ddl.Layout

namespace TableDdl.Ddl

/-- The storage option lines, joined by newlines. -/
def tableOptions (o : StorageOptions) : String :=
  joinPieces
    [(o.distStyle.map ("DISTSTYLE " ++ ·)).getD "",
     (o.distKey.map fun k => "DISTKEY(" ++ k ++ ")").getD "",
     (o.sortKey.map fun k => "SORTKEY(" ++ k ++ ")").getD ""]

/-- CREATE TABLE for Redshift. -/
def createRedshift (t : Table) : String :=
  let cols := !t.columns.isEmpty
  joinPieces [head t, pieceIf cols "(", columnBlock true t, primaryKeyPiece t, pieceIf cols ")",
    tableOptions t.options, pieceIf cols ";"]

end TableDdl.Ddl
