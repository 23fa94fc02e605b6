-- Documents: the JSON values that table descriptions, parameter files and requests are made of.
-- An object keeps each key once, at the position where it was first written.

namespace TableDdl

/-- A number as a document holds it: an integer that was written without fraction or exponent and
fits in 64 bits (signed or unsigned), or else a double. -/
inductive Number where
  | int (i : Int)
  | float (f : Float)
  deriving Inhabited

/-- A document value. -/
inductive Json where
  | null
  | bool (b : Bool)
  | num (n : Number)
  | str (s : String)
  | arr (items : List Json)
  | obj (members : List (String × Json))
  deriving Inhabited

namespace Number

/-- The number as an unsigned 64-bit integer, if it is one; a double never counts. -/
def toU64? : Number → Option Nat
  | .int i => if 0 ≤ i ∧ i < Int.pow 2 64 then some i.toNat else none
  | .float _ => none

/-- The number as a signed 64-bit integer, if it is one. -/
def toI64? : Number → Option Int
  | .int i => if -Int.pow 2 63 ≤ i ∧ i < Int.pow 2 63 then some i else none
  | .float _ => none

/-- The nearest double. -/
def toFloat : Number → Float
  | .int i => if 0 ≤ i then Float.ofNat i.toNat else -Float.ofNat i.natAbs
  | .float f => f

end Number

/-- Sets `key` in a member list: an existing member keeps its place and takes the new value, and
a new key goes last. -/
def setMember (key : String) (v : Json) : List (String × Json) → List (String × Json)
  | [] => [(key, v)]
  | (k, w) :: rest => if k = key then (k, v) :: rest else (k, w) :: setMember key v rest

/-- The value of a member. -/
def findMember (key : String) : List (String × Json) → Option Json
  | [] => none
  | (k, w) :: rest => if k = key then some w else findMember key rest

namespace Json

/-- The value under `key`, for an object that has it. -/
def get? (key : String) : Json → Option Json
  | .obj members => findMember key members
  | _ => none

/-- The members of an object. -/
def members? : Json → Option (List (String × Json))
  | .obj members => some members
  | _ => none

/-- The text of a string. -/
def str? : Json → Option String
  | .str s => some s
  | _ => none

/-- The items of an array. -/
def items? : Json → Option (List Json)
  | .arr items => some items
  | _ => none

/-- Whether the value is `null`. -/
def isNull : Json → Bool
  | .null => true
  | _ => false

end Json

end TableDdl
