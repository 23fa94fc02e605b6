-- The values a placeholder is filled with, and their renderings as an identifier, as a literal and
-- as raw text.
import TableDdl.Sql.Quote
import TableDdl.Decimal.Text
import TableDdl.Time.Timestamp
import TableDdl.Json.Print

namespace TableDdl.Template

/-- A value for a placeholder. -/
inductive Value where
  | null
  | bool (b : Bool)
  | int (i : Int)
  | float (f : Float)
  | text (s : String)
  | time (t : Timestamp)
  | list (items : List Value)
  deriving Inhabited

namespace Value

/-- The layout of doubles in template output. -/
def floatLayout : Decimal.Layout where
  positional := none
  wholeMark := ""
  exponentPlus := ""
  nan := "NaN"
  infinity := "inf"
  tie := .up

/-- The text of a value that is neither null nor a list. -/
def scalarText : Value → String
  | .null => ""
  | .bool b => if b then "true" else "false"
  | .int i => toString i
  | .float f => floatLayout.write f
  | .text s => s
  | .time t => t.text
  | .list _ => ""

mutual

/-- The value as a SQL name, or nothing when a null occurs in it. -/
def identifier? : Value → Option String
  | .null => none
  | .list items => (identifiers? items).map (",".intercalate ·)
  | v => some (Sql.quoteIdent v.scalarText)

/-- The names of list items, or nothing when one has none. -/
def identifiers? : List Value → Option (List String)
  | [] => some []
  | v :: rest => do
    let a ← v.identifier?
    let b ← identifiers? rest
    some (a :: b)

end

mutual

/-- The value as a SQL literal. -/
def literal : Value → String
  | .null => "NULL"
  | .text s => Sql.quoteLiteral s
  | .time t => Sql.quoteLiteral t.text
  | .list items => ",".intercalate (literals items)
  | v => v.scalarText

/-- The literals of list items. -/
def literals : List Value → List String
  | [] => []
  | v :: rest => v.literal :: literals rest

end

mutual

/-- The value as a literal in template output: an escape-string constant loses its `E`, item by
item in a list. -/
def templateLiteral : Value → String
  | .list items => ",".intercalate (templateLiterals items)
  | v => Sql.stripEscapePrefix v.literal

/-- The template literals of list items. -/
def templateLiterals : List Value → List String
  | [] => []
  | v :: rest => v.templateLiteral :: templateLiterals rest

end

mutual

/-- The value as raw text. -/
def raw : Value → String
  | .list items => ",".intercalate (raws items)
  | v => v.scalarText

/-- The raw texts of list items. -/
def raws : List Value → List String
  | [] => []
  | v :: rest => v.raw :: raws rest

end

mutual

/-- The value a document denotes: an integer in the signed 64-bit range is an integer, any other
number the nearest double, and an object the compact text of its document. -/
def ofJson : Json → Value
  | .null => .null
  | .bool b => .bool b
  | .num n => match n.toI64? with
    | some i => .int i
    | none => .float n.toFloat
  | .str s => .text s
  | .arr items => .list (ofJsonItems items)
  | j@(.obj _) => .text j.write

/-- The values of array items. -/
def ofJsonItems : List Json → List Value
  | [] => []
  | j :: rest => ofJson j :: ofJsonItems rest

end

end Value

/-- Named values, sorted by name, each name once. -/
abbrev Params := List (String × Value)

namespace Params

/-- Sets a name, keeping the names sorted; a name already present takes the new value. -/
def insert (k : String) (v : Value) : Params → Params
  | [] => [(k, v)]
  | (k', v') :: rest =>
    if k = k' then (k, v) :: rest
    else if k < k' then (k, v) :: (k', v') :: rest
    else (k', v') :: insert k v rest

/-- The value of a name. -/
def get? (k : String) : Params → Option Value
  | [] => none
  | (k', v) :: rest => if k = k' then some v else get? k rest

/-- Named values from pairs; of a repeated name the last value counts. -/
def ofList (pairs : List (String × Value)) : Params :=
  pairs.foldl (fun ps (k, v) => ps.insert k v) []

/-- The named values of a document object, or nothing for any other document. -/
def ofJson? : Json → Option Params
  | .obj members => some (ofList (members.map fun (k, j) => (k, Value.ofJson j)))
  | _ => none

end Params

end TableDdl.Template
