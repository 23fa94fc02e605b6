-- Compact document text: no blank between tokens, and members in their order. A string escapes only
-- what it must, and a double is written with its shortest digits.
import TableDdl.Json.Basic
import TableDdl.Decimal.Text

namespace TableDdl

/-- The layout of doubles in document text. -/
def Number.layout : Decimal.Layout where
  positional := some (-5, 16)
  wholeMark := ".0"
  exponentPlus := "+"
  nan := "null"
  infinity := "null"
  tie := .even

/-- The lower-case hex digit of a number below 16. -/
def hexDigit (n : Nat) : Char :=
  if n < 10 then Char.ofNat (48 + n) else Char.ofNat (87 + n)

/-- How one character is written inside a document string. -/
def escapeChar (c : Char) : List Char :=
  if c = '"' then ['\\', '"']
  else if c = '\\' then ['\\', '\\']
  else if c = '\n' then ['\\', 'n']
  else if c = '\r' then ['\\', 'r']
  else if c = '\t' then ['\\', 't']
  else if c.toNat = 8 then ['\\', 'b']
  else if c.toNat = 12 then ['\\', 'f']
  else if c.toNat < 32 then ['\\', 'u', '0', '0', hexDigit (c.toNat / 16), hexDigit (c.toNat % 16)]
  else [c]

/-- A string as document text, in double quotes. -/
def quoteText (s : String) : String :=
  String.ofList ('"' :: s.toList.flatMap escapeChar ++ ['"'])

/-- The text of a number: an integer exactly, a double in the document layout. -/
def Number.write : Number → String
  | .int i => toString i
  | .float f => Number.layout.write f

mutual

/-- Compact document text. -/
def Json.write : Json → String
  | .null => "null"
  | .bool b => if b then "true" else "false"
  | .num n => n.write
  | .str s => quoteText s
  | .arr items => "[" ++ ",".intercalate (Json.writeItems items) ++ "]"
  | .obj members => "\x7b" ++ ",".intercalate (Json.writeMembers members) ++ "\x7d"

/-- The texts of array items. -/
def Json.writeItems : List Json → List String
  | [] => []
  | j :: rest => j.write :: Json.writeItems rest

/-- The texts of object members, each `"key":value`. -/
def Json.writeMembers : List (String × Json) → List String
  | [] => []
  | (k, v) :: rest => (quoteText k ++ ":" ++ v.write) :: Json.writeMembers rest

end

end TableDdl
