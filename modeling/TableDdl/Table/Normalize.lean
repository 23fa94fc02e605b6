-- Reading a loosely written table description into a `Table`. Every field has a fallback, so any
-- document gives a table, and what does not fit is left out.
import TableDdl.Table.Descriptor
import TableDdl.Json.Print
import TableDdl.Text.Blank

namespace TableDdl

namespace Describe

/-- A string field, or empty. -/
def text (o : List (String × Json)) (key : String) : String :=
  match findMember key o with
  | some (.str s) => s
  | _ => ""

/-- A non-empty string field, if there is one. -/
def optionalText (o : List (String × Json)) (key : String) : Option String :=
  match findMember key o with
  | some (.str s) => if s.isEmpty then none else some s
  | _ => none

/-- The string items of an array. -/
def stringItems (items : List Json) : List String :=
  items.filterMap Json.str?

/-- A list of keys: an array's string items joined by commas, or a non-empty string. -/
def keyList (o : List (String × Json)) (key : String) : Option String :=
  match findMember key o with
  | some (.arr items) =>
    let keys := stringItems items
    if keys.isEmpty then none else some (",".intercalate keys)
  | _ => optionalText o key

/-- Whether a character is an ASCII digit. -/
def isDigit (c : Char) : Bool :=
  '0' ≤ c && c ≤ '9'

/-- The value of decimal digits. -/
def digitsValue (ds : List Char) : Nat :=
  ds.foldl (fun n d => n * 10 + (d.toNat - 48)) 0

/-- An unsigned 64-bit integer written in decimal, after trimming blanks, with an optional `+`. -/
def parseU64? (s : String) : Option Nat :=
  let cs := Text.trimBlanks s.toList
  let ds := match cs with
    | '+' :: r => r
    | r => r
  if !ds.isEmpty && ds.all isDigit then
    let v := digitsValue ds
    if v < Nat.pow 2 64 then some v else none
  else none

/-- A column's length: zero counts as none. -/
def length (o : List (String × Json)) : Option Nat :=
  let raw := match findMember "length" o with
    | some (.num n) => n.toU64?
    | some (.str s) => parseU64? s
    | _ => none
  match raw with
  | some 0 => none
  | r => r

/-- Whether a column may be null: a truth value, else true. -/
def nullable (o : List (String × Json)) : Bool :=
  match findMember "nullable" o with
  | some (.bool b) => b
  | _ => true

/-- A column's default as SQL text. -/
def default (o : List (String × Json)) : Option String :=
  match findMember "default" o with
  | none => none
  | some .null => some "NULL"
  | some (.str s) => some s
  | some (.bool b) => some (if b then "TRUE" else "FALSE")
  | some (.num n) => some n.write
  | some _ => none

/-- A primary key. -/
def primaryKey (v : Option Json) : List String :=
  match v with
  | some (.str s) => if s.isEmpty then [] else [s]
  | some (.arr items) => stringItems items
  | _ => []

/-- An index from one item of `indexes`, unless it has no columns. -/
def index? (item : Json) : Option Index :=
  let cols := match item with
    | .str s => if s.isEmpty then [] else [s]
    | .arr items => stringItems items
    | _ => []
  if cols.isEmpty then none else some ⟨cols⟩

end Describe

/-- The column an object describes; nothing for any other document. -/
def Column.ofJson? : Json → Option Column
  | .obj o => some
    { name := Describe.text o "name"
      type := Describe.text o "type"
      length := Describe.length o
      nullable := Describe.nullable o
      default := Describe.default o
      encode := Describe.optionalText o "encode" }
  | _ => none

/-- The table a document describes; the empty table for anything but an object. -/
def Table.ofJson : Json → Table
  | .obj o =>
    { schema := Describe.text o "schema"
      table := Describe.text o "table"
      description := Describe.optionalText o "description"
      primaryKey := Describe.primaryKey (findMember "primaryKey" o)
      columns := match findMember "columns" o with
        | some (.arr items) => items.filterMap Column.ofJson?
        | _ => []
      indexes := match findMember "indexes" o with
        | some (.arr items) => items.filterMap Describe.index?
        | _ => []
      options :=
        { distStyle := Describe.optionalText o "distStyle"
          distKey := Describe.optionalText o "distKey"
          sortKey := Describe.keyList o "sortKey" } }
  | _ => {}

end TableDdl
