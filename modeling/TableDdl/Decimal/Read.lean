-- Reading decimal text as a double, rounded to nearest with ties to even; `inf`, `infinity` and
-- `nan` read in any ASCII case. A value beyond the largest double reads as infinity, one below the
-- least as zero.

namespace TableDdl.Decimal

/-- The double nearest to `m * 10 ^ e`; infinity above the range of doubles. -/
def nearest (m : Nat) (e : Int) : Float :=
  let size := (Nat.toDigits 10 m).length
  if m = 0 then 0.0
  else if e + size > 310 then Float.ofScientific 1 false 400
  else if e + size < -400 then 0.0
  else Float.ofScientific m (decide (e < 0)) e.natAbs

/-- Whether a character is an ASCII digit. -/
def isDigitChar (c : Char) : Bool :=
  '0' ≤ c && c ≤ '9'

/-- The value of decimal digits. -/
def digitsValue (ds : List Char) : Nat :=
  ds.foldl (fun n d => n * 10 + (d.toNat - 48)) 0

/-- A double written as decimal text, `inf`, `infinity` or `nan`. -/
def readFloat? (s : String) : Option Float :=
  let (negative, cs) := match s.toList with
    | '-' :: rest => (true, rest)
    | '+' :: rest => (false, rest)
    | cs => (false, cs)
  let sign (f : Float) : Float := if negative then -f else f
  let word := String.ofList cs |>.toLower
  if word = "inf" ∨ word = "infinity" then some (sign (Float.ofScientific 1 false 400))
  else if word = "nan" then some (0.0 / 0.0)
  else
    let whole := cs.takeWhile isDigitChar
    let rest := cs.dropWhile isDigitChar
    let (fraction, rest) := match rest with
      | '.' :: more => (more.takeWhile isDigitChar, more.dropWhile isDigitChar)
      | _ => ([], rest)
    if whole.isEmpty ∧ fraction.isEmpty then none
    else
      let expo : Option Int := match rest with
        | [] => some 0
        | e :: more =>
          if e = 'e' ∨ e = 'E' then
            let (en, ds) := match more with
              | '-' :: r => (true, r)
              | '+' :: r => (false, r)
              | r => (false, r)
            if !ds.isEmpty && ds.all isDigitChar then
              let v : Int := digitsValue ds
              some (if en then -v else v)
            else none
          else none
      match expo with
      | none => none
      | some x =>
        some (sign (nearest (digitsValue (whole ++ fraction)) (x - fraction.length)))

end TableDdl.Decimal
