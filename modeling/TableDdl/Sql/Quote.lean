-- Quoting names and string constants for SQL text. A safe name is written bare and any other in
-- double quotes; a string constant takes single quotes, and the escape form `E'...'` when it holds
-- a backslash.
import TableDdl.Sql.Reserved

namespace TableDdl.Sql

/-- Writes each occurrence of `q` twice and leaves every other character alone. -/
def doubling (q : Char) : List Char → List Char
  | [] => []
  | c :: cs => if c = q then q :: q :: doubling q cs else c :: doubling q cs

/-- A character that may open a bare name: a lower-case ASCII letter or `_`. -/
def isLeadChar (c : Char) : Bool :=
  ('a' ≤ c && c ≤ 'z') || c == '_'

/-- A character that may follow in a bare name: a lead character, an ASCII digit or `$`. -/
def isBodyChar (c : Char) : Bool :=
  isLeadChar c || ('0' ≤ c && c ≤ '9') || c == '$'

/-- The spelling of a bare name, with no word list involved. -/
def isBareSpelling : List Char → Bool
  | [] => false
  | c :: cs => isLeadChar c && cs.all isBodyChar

/-- A name is safe when it is spelled as a bare name and is not reserved. -/
def isSafe (name : String) : Bool :=
  isBareSpelling name.toList && !isReserved name

/-- The double-quoted form of a name: each inner `"` is written twice. -/
def delimitedIdent (name : String) : String :=
  String.ofList ('"' :: doubling '"' name.toList ++ ['"'])

/-- A safe name stands as it is; any other name is double-quoted. -/
def quoteIdent (name : String) : String :=
  if isSafe name then name else delimitedIdent name

/-- Names quoted one by one and joined by commas, with no space. -/
def quoteIdents (names : List String) : String :=
  ",".intercalate (names.map quoteIdent)

/-- A string constant. Inner `'` are doubled; a constant holding a backslash also doubles every
backslash and takes the `E'` prefix. -/
def quoteLiteral (s : String) : String :=
  let body := doubling '\'' s.toList
  if body.contains '\\' then
    String.ofList ('E' :: '\'' :: doubling '\\' body ++ ['\''])
  else
    String.ofList ('\'' :: body ++ ['\''])

/-- Drops the `E` (or `e`) in front of a leading `E'`, so an escape-string constant reads as a
plain one. Any other text is left as it is. -/
def stripEscapePrefix (s : String) : String :=
  match s.toList with
  | c :: '\'' :: rest => if c = 'E' ∨ c = 'e' then String.ofList ('\'' :: rest) else s
  | _ => s

end TableDdl.Sql
