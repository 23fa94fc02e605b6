-- Reading document text (RFC 8259). A number without fraction or exponent that fits 64 bits is an
-- integer and any other a double; containers nest at most 127 deep, and a repeated key keeps its
-- first position and takes the last value.
import TableDdl.Json.Basic

namespace TableDdl.Json

/-- The deepest nesting of arrays and objects that is read. -/
def maxDepth : Nat := 127

/-- Drops leading blanks. -/
def skipBlanks : List Char → List Char
  | [] => []
  | c :: cs => if c = ' ' ∨ c = '\n' ∨ c = '\t' ∨ c = '\r' then skipBlanks cs else c :: cs

/-- The value of a hex digit. -/
def hexValue (c : Char) : Option Nat :=
  if '0' ≤ c ∧ c ≤ '9' then some (c.toNat - 48)
  else if 'a' ≤ c ∧ c ≤ 'f' then some (c.toNat - 87)
  else if 'A' ≤ c ∧ c ≤ 'F' then some (c.toNat - 55)
  else none

/-- Four hex digits. -/
def readHex4 : List Char → Option (Nat × List Char)
  | a :: b :: c :: d :: rest => do
    let va ← hexValue a
    let vb ← hexValue b
    let vc ← hexValue c
    let vd ← hexValue d
    some (((va * 16 + vb) * 16 + vc) * 16 + vd, rest)
  | _ => none

/-- The code point of a `\u` escape whose four digits come first, with a following escaped low
surrogate when the first is a high one. -/
def readUnicodeEscape (cs : List Char) : Option (Char × List Char) := do
  let (v, rest) ← readHex4 cs
  if 0xD800 ≤ v ∧ v < 0xDC00 then
    match rest with
    | '\\' :: 'u' :: more =>
      let (w, rest') ← readHex4 more
      if 0xDC00 ≤ w ∧ w < 0xE000 then
        some (Char.ofNat (0x10000 + (v - 0xD800) * 0x400 + (w - 0xDC00)), rest')
      else none
    | _ => none
  else if 0xDC00 ≤ v ∧ v < 0xE000 then none
  else some (Char.ofNat v, rest)

/-- The rest of a string after its opening quote; `acc` holds the characters read, last first. -/
def readStringBody : Nat → List Char → List Char → Option (String × List Char)
  | 0, _, _ => none
  | _ + 1, [], _ => none
  | fuel + 1, c :: cs, acc =>
    if c = '"' then some (String.ofList acc.reverse, cs)
    else if c = '\\' then
      match cs with
      | e :: rest =>
        if e = 'u' then do
          let (u, rest') ← readUnicodeEscape rest
          readStringBody fuel rest' (u :: acc)
        else do
          let d ← if e = '"' then some '"'
            else if e = '\\' then some '\\'
            else if e = '/' then some '/'
            else if e = 'b' then some (Char.ofNat 8)
            else if e = 'f' then some (Char.ofNat 12)
            else if e = 'n' then some '\n'
            else if e = 'r' then some '\r'
            else if e = 't' then some '\t'
            else none
          readStringBody fuel rest (d :: acc)
      | [] => none
    else if c.toNat < 32 then none
    else readStringBody fuel cs (c :: acc)

/-- A string whose opening quote comes first. -/
def readString (cs : List Char) : Option (String × List Char) :=
  match cs with
  | '"' :: rest => readStringBody (rest.length + 1) rest []
  | _ => none

/-- The value of a run of decimal digits. -/
def digitsValue (ds : List Char) : Nat :=
  ds.foldl (fun n d => n * 10 + (d.toNat - 48)) 0

/-- Whether a character is an ASCII digit. -/
def isDigitChar (c : Char) : Bool :=
  '0' ≤ c && c ≤ '9'

/-- The largest 64-bit unsigned value, the bound of a number's significand. -/
def significandBound : Nat := Nat.pow 2 64 - 1

/-- The largest 32-bit signed value, the bound of a number's exponent. -/
def exponentBound : Nat := Nat.pow 2 31 - 1

/-- The doubles nearest to `10 ^ k` for `k ≤ 308`. -/
def powersOfTen : Array Float :=
  (List.range 309).toArray.map fun k => Float.ofScientific 1 false k

/-- `f / 10 ^ k`, dividing by `10 ^ 308` first while `k` is beyond the table; a zero stays zero.
`fuel` bounds the divisions. -/
def divideDown : Nat → Float → Nat → Float
  | 0, f, _ => f
  | fuel + 1, f, k =>
    match powersOfTen[k]? with
    | some p => f / p
    | none => if f == 0 then f else divideDown fuel (f / powersOfTen[308]!) (k - 308)

/-- The double of `significand * 10 ^ e`, composed as documents compose it: the significand as a
double, then one multiplication or division by a power of ten from the table. Nothing when the
product is infinite or the exponent is beyond the table for a non-zero significand. -/
def composeDouble (significand : Nat) (e : Int) : Option Float :=
  let f := significand.toFloat
  if 0 ≤ e then
    match powersOfTen[e.toNat]? with
    | some p =>
      let g := f * p
      if g.isInf then none else some g
    | none => if f == 0 then some f else none
  else some (divideDown (e.natAbs / 308 + 1) f e.natAbs)

/-- Reads the digits of a whole part after its first: a digit joins the significand while the
significand stays within 64 bits; once one would not fit, it and every later digit only count.
Returns the significand, the digits counted, and the rest. -/
def wholeDigits : List Char → Nat → Nat → Nat × Nat × List Char
  | c :: rest, sig, dropped =>
    if isDigitChar c then
      let d := c.toNat - 48
      if dropped > 0 ∨ sig * 10 + d > significandBound then wholeDigits rest sig (dropped + 1)
      else wholeDigits rest (sig * 10 + d) 0
    else (sig, dropped, c :: rest)
  | [], sig, dropped => (sig, dropped, [])

/-- Reads fraction digits: a digit joins the significand while it stays within 64 bits, and the
first that would not fit ends the joining, the later digits being skipped. Returns the
significand, the digits joined, and the rest. -/
def fractionDigits : List Char → Nat → Nat → Bool → Nat × Nat × List Char
  | c :: rest, sig, joined, full =>
    if isDigitChar c then
      let d := c.toNat - 48
      if full ∨ sig * 10 + d > significandBound then fractionDigits rest sig joined true
      else fractionDigits rest (sig * 10 + d) (joined + 1) false
    else (sig, joined, c :: rest)
  | [], sig, joined, _ => (sig, joined, [])

/-- Reads exponent digits into a value within 32 bits; whether it ran past them, and the rest. -/
def exponentDigits : List Char → Nat → Bool → Nat × Bool × List Char
  | c :: rest, v, overflow =>
    if isDigitChar c then
      let d := c.toNat - 48
      if overflow ∨ v * 10 + d > exponentBound then exponentDigits rest v true
      else exponentDigits rest (v * 10 + d) false
    else (v, overflow, c :: rest)
  | [], v, overflow => (v, overflow, [])

/-- An exponent kept within 32 signed bits. -/
def clampExponent (x : Int) : Int :=
  max (-(exponentBound : Int) - 1) (min exponentBound x)

/-- A number. Digits join a 64-bit significand (see `wholeDigits`, `fractionDigits`) and the
double is composed by `composeDouble`. A number without fraction and exponent whose digits fit
64 bits is an integer, unsigned, or signed when negative; `-0` and negative values below
`-2 ^ 63` are doubles. An exponent past 32 bits gives zero, or nothing for a non-zero significand
with a positive exponent. -/
def readNumber (cs : List Char) : Option (Number × List Char) := do
  let (negative, cs) := match cs with
    | '-' :: rest => (true, rest)
    | _ => (false, cs)
  let sign (f : Float) : Float := if negative then -f else f
  let (sig, dropped, rest) ← match cs with
    | '0' :: rest =>
      match rest with
      | c :: _ => if isDigitChar c then none else some (0, 0, rest)
      | [] => some (0, 0, rest)
    | c :: rest =>
      if isDigitChar c then some (wholeDigits rest (c.toNat - 48) 0) else none
    | [] => none
  let (sig, joined, fraction, rest) ← match rest with
    | '.' :: more =>
      match more with
      | c :: _ =>
        if isDigitChar c then
          let (sig, joined, more') := fractionDigits more sig 0 false
          some (sig, joined, true, more')
        else none
      | [] => none
    | _ => some (sig, 0, false, rest)
  let start : Int := (dropped : Int) - joined
  match rest with
  | e :: more =>
    if e = 'e' ∨ e = 'E' then
      let (expNeg, more) := match more with
        | '-' :: m => (true, m)
        | '+' :: m => (false, m)
        | m => (false, m)
      match more with
      | c :: _ =>
        if isDigitChar c then
          let (v, overflow, more') := exponentDigits more 0 false
          if overflow then
            if sig ≠ 0 ∧ !expNeg then none else some (.float (sign 0.0), more')
          else
            let x := clampExponent (if expNeg then start - v else start + v)
            let f ← composeDouble sig x
            some (.float (sign f), more')
        else none
      | [] => none
    else finish negative sign sig dropped fraction start rest
  | [] => finish negative sign sig dropped fraction start rest
where
  /-- A number that ends after its whole part or fraction. -/
  finish (negative : Bool) (sign : Float → Float) (sig dropped : Nat) (fraction : Bool)
      (start : Int) (rest : List Char) : Option (Number × List Char) :=
    if fraction ∨ dropped > 0 then do
      let f ← composeDouble sig start
      some (.float (sign f), rest)
    else if negative then
      if sig = 0 then some (.float (-0.0), rest)
      else if sig ≤ Nat.pow 2 63 then some (.int (-(sig : Int)), rest)
      else some (.float (-sig.toFloat), rest)
    else some (.int sig, rest)

mutual

/-- A value after leading blanks have been dropped, at nesting `depth`. -/
def readValue : Nat → Nat → List Char → Option (Json × List Char)
  | 0, _, _ => none
  | fuel + 1, depth, cs =>
    match cs with
    | 'n' :: 'u' :: 'l' :: 'l' :: rest => some (.null, rest)
    | 't' :: 'r' :: 'u' :: 'e' :: rest => some (.bool true, rest)
    | 'f' :: 'a' :: 'l' :: 's' :: 'e' :: rest => some (.bool false, rest)
    | '"' :: _ => do
      let (s, rest) ← readString cs
      some (.str s, rest)
    | '[' :: rest =>
      if depth + 1 > maxDepth then none
      else
        match skipBlanks rest with
        | ']' :: more => some (.arr [], more)
        | more => do
          let (items, more') ← readItems fuel (depth + 1) more
          some (.arr items, more')
    | '{' :: rest =>
      if depth + 1 > maxDepth then none
      else
        match skipBlanks rest with
        | '}' :: more => some (.obj [], more)
        | more => do
          let (members, more') ← readMembers fuel (depth + 1) more []
          some (.obj members, more')
    | _ => do
      let (n, rest) ← readNumber cs
      some (.num n, rest)

/-- Array items after the opening bracket, up to and including the closing one. -/
def readItems : Nat → Nat → List Char → Option (List Json × List Char)
  | 0, _, _ => none
  | fuel + 1, depth, cs => do
    let (v, rest) ← readValue fuel depth cs
    match skipBlanks rest with
    | ',' :: more => do
      let (vs, rest') ← readItems fuel depth (skipBlanks more)
      some (v :: vs, rest')
    | ']' :: more => some ([v], more)
    | _ => none

/-- Object members after the opening brace, up to and including the closing one; `acc` holds
the members read so far. -/
def readMembers : Nat → Nat → List Char → List (String × Json) →
    Option (List (String × Json) × List Char)
  | 0, _, _, _ => none
  | fuel + 1, depth, cs, acc => do
    let (k, rest) ← readString cs
    let rest ← match skipBlanks rest with
      | ':' :: more => some (skipBlanks more)
      | _ => none
    let (v, rest) ← readValue fuel depth rest
    let acc := setMember k v acc
    match skipBlanks rest with
    | ',' :: more => readMembers fuel depth (skipBlanks more) acc
    | '}' :: more => some (acc, more)
    | _ => none

end

/-- Reads a whole text as one value, with blanks allowed around it. -/
def parse? (s : String) : Option Json :=
  let cs := s.toList
  match readValue (2 * cs.length + 4) 0 (skipBlanks cs) with
  | some (v, rest) => if skipBlanks rest = [] then some v else none
  | none => none

end TableDdl.Json
