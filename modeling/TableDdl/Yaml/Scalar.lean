-- What the text of a plain scalar stands for: null, a truth value, an integer in base 2, 8, 10 or
-- 16, a double, or its text as written.
import TableDdl.Json.Basic
import TableDdl.Decimal.Read
import TableDdl.Text.Blank

namespace TableDdl.Yaml

/-- Whether a plain scalar stands for null. -/
def isNullWord (s : String) : Bool :=
  s.isEmpty || s = "~" || s.toLower = "null"

/-- The truth value a plain scalar stands for. -/
def boolWord? (s : String) : Option Bool :=
  let w := s.toLower
  if w = "true" ∨ w = "yes" ∨ w = "on" ∨ w = "y" then some true
  else if w = "false" ∨ w = "no" ∨ w = "off" ∨ w = "n" then some false
  else none

/-- The value of digits in a base; at least one digit, each below the base. -/
def digitsValue? (base : Nat) (ds : List Char) : Option Nat :=
  if ds.isEmpty then none
  else ds.foldlM (fun n d => do
    let v ← if '0' ≤ d ∧ d ≤ '9' then some (d.toNat - 48)
      else if 'a' ≤ d ∧ d ≤ 'z' then some (d.toNat - 87)
      else if 'A' ≤ d ∧ d ≤ 'Z' then some (d.toNat - 55)
      else none
    if v < base then some (n * base + v) else none) 0

/-- The base a mark names and the digits after it. -/
def baseOf : List Char → Nat × List Char
  | '0' :: 'x' :: ds | '0' :: 'X' :: ds => (16, ds)
  | '0' :: 'o' :: ds | '0' :: 'O' :: ds => (8, ds)
  | '0' :: 'b' :: ds | '0' :: 'B' :: ds => (2, ds)
  | ds => (10, ds)

/-- The integer a plain scalar stands for, within the 64-bit ranges. -/
def readInteger? (s : String) : Option Int :=
  let (negative, body) := match s.toList with
    | '-' :: rest => (true, rest)
    | '+' :: rest => (false, rest)
    | cs => (false, cs)
  let (base, digits) := baseOf body
  match digitsValue? base (digits.filter (· ≠ '_')) with
  | none => none
  | some m =>
    if negative then (if m ≤ Nat.pow 2 63 then some (-(m : Int)) else none)
    else if m < Nat.pow 2 64 then some m else none

/-- Positive infinity. -/
def infinity : Float := Float.ofScientific 1 false 400

/-- The double a plain scalar stands for. -/
def readDouble? (s : String) : Option Float :=
  let w := s.toLower
  if w = ".inf" ∨ w = "+.inf" then some infinity
  else if w = "-.inf" then some (-infinity)
  else if w = ".nan" ∨ w = "+.nan" ∨ w = "-.nan" then some (0.0 / 0.0)
  else Decimal.readFloat? s

/-- A double as a document: a number when finite, else its YAML text. -/
def doubleJson (f : Float) : Json :=
  if f.isNaN then .str ".nan"
  else if f.isInf then .str (if f < 0 then "-.inf" else ".inf")
  else .num (.float f)

/-- The document a plain scalar stands for. -/
def plainJson (s : String) : Json :=
  if isNullWord s then .null
  else
    let t := String.ofList (Text.trimBlanks s.toList)
    match boolWord? t with
    | some b => .bool b
    | none =>
      match readInteger? t with
      | some i => .num (.int i)
      | none =>
        match readDouble? t with
        | some f => doubleJson f
        | none => .str s

end TableDdl.Yaml
