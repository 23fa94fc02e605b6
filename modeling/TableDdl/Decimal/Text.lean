-- Laying out a double as text with its shortest digits. A `Layout` says where positional notation
-- gives way to an exponent, and how whole values, exponents, NaN and the infinities are written.
import TableDdl.Decimal.Shortest

namespace TableDdl.Decimal

/-- The choices a text form of doubles makes around the shortest digits. -/
structure Layout where
  /-- The decimal exponents `kk` written positionally, where the value is `0.d₁d₂… × 10 ^ kk`:
  those with `low < kk ≤ high` for `some (low, high)`, and all for `none`. -/
  positional : Option (Int × Int)
  /-- Written after a whole value in positional notation, such as `.0`. -/
  wholeMark : String
  /-- Written before a non-negative exponent, such as `+`. -/
  exponentPlus : String
  nan : String
  infinity : String
  /-- How two shortest decimals equally near the value are settled. -/
  tie : Tie

/-- `n` zeros. -/
def zeros (n : Nat) : List Char :=
  List.replicate n '0'

namespace Digits

/-- The digits as characters. -/
def chars (d : Digits) : List Char :=
  Nat.toDigits 10 d.digits

/-- The exponent `kk` with value `0.d₁d₂… × 10 ^ kk`. -/
def pointExponent (d : Digits) : Int :=
  (d.chars.length : Int) + d.exponent

/-- Positional notation: zeros after the digits for a whole value, else a point inside or a
`0.` and zeros in front. -/
def positional (d : Digits) (wholeMark : String) : String :=
  let s := d.chars
  if 0 ≤ d.exponent then
    String.ofList (s ++ zeros d.exponent.toNat) ++ wholeMark
  else
    let kk := d.pointExponent
    if 0 < kk then
      String.ofList (s.take kk.toNat ++ '.' :: s.drop kk.toNat)
    else
      String.ofList ('0' :: '.' :: zeros (-kk).toNat ++ s)

/-- Scientific notation: one digit, the rest after a point, then `e` and the exponent. -/
def scientific (d : Digits) (plus : String) : String :=
  let s := d.chars
  let e := d.pointExponent - 1
  let mantissa := match s with
    | c :: rest@(_ :: _) => String.ofList (c :: '.' :: rest)
    | _ => String.ofList s
  mantissa ++ "e" ++ (if 0 ≤ e then plus ++ toString e else toString e)

end Digits

/-- The text of a double in this layout. -/
def Layout.write (l : Layout) (f : Float) : String :=
  let sign (negative : Bool) : String := if negative then "-" else ""
  match Kind.ofFloat f with
  | .nan => l.nan
  | .infinite negative => sign negative ++ l.infinity
  | .zero negative => sign negative ++ "0" ++ l.wholeMark
  | .finite negative b =>
    let d := b.shortest l.tie
    let kk := d.pointExponent
    let body := match l.positional with
      | none => d.positional l.wholeMark
      | some (low, high) =>
        if low < kk ∧ kk ≤ high then d.positional l.wholeMark else d.scientific l.exponentPlus
    sign negative ++ body

end TableDdl.Decimal
