-- The shortest decimal that reads back as a given double. Each precision from 1 to 17 digits tests
-- the two grid points next to the value in exact arithmetic; the first precision with a hit wins,
-- and seventeen digits always suffice.

namespace TableDdl.Decimal

/-- How a choice between two equally near decimals is settled. -/
inductive Tie where
  /-- The one whose last digit is even. -/
  | even
  /-- The larger one. -/
  | up
  deriving Repr, DecidableEq

/-- A finite non-zero double as the exact value `mantissa * 2 ^ exponent`. -/
structure Binary where
  mantissa : Nat
  exponent : Int
  /-- The double below is closer than the double above: the mantissa is the least of a normal
  binade other than the lowest. -/
  narrowBelow : Bool
  deriving Repr, DecidableEq

/-- What a double is, read off its bits. -/
inductive Kind where
  | nan
  | infinite (negative : Bool)
  | zero (negative : Bool)
  | finite (negative : Bool) (b : Binary)
  deriving Repr, DecidableEq

/-- Decodes sign, biased exponent and fraction from the 64 bits of a double. -/
def Kind.ofBits (bits : Nat) : Kind :=
  let negative := decide (bits / Nat.pow 2 63 % 2 = 1)
  let e : Nat := bits / Nat.pow 2 52 % Nat.pow 2 11
  let frac : Nat := bits % Nat.pow 2 52
  if e = 2047 then
    if frac = 0 then .infinite negative else .nan
  else if e = 0 then
    if frac = 0 then .zero negative else .finite negative ⟨frac, -1074, false⟩
  else
    .finite negative ⟨frac + Nat.pow 2 52, (e : Int) - 1075, decide (frac = 0 ∧ e > 1)⟩

/-- What a double is. -/
def Kind.ofFloat (f : Float) : Kind :=
  Kind.ofBits f.toBits.toNat

/-- Compares `a * 10 ^ k` with `b * 2 ^ j`, exactly. -/
def compareScaled (a : Nat) (k : Int) (b : Nat) (j : Int) : Ordering :=
  compare (a * Nat.pow 10 k.toNat * Nat.pow 2 (-j).toNat) (b * Nat.pow 2 j.toNat * Nat.pow 10 (-k).toNat)

/-- The number of decimal digits of a positive number. -/
def digitCount (n : Nat) : Nat :=
  (Nat.toDigits 10 n).length

namespace Binary

/-- The decimal exponent `E` with `10 ^ E ≤ value < 10 ^ (E + 1)`. With `a` and `b` the digit
counts of the value's numerator and denominator, `E` is `a - b` or one less. -/
def decimalExponent (b : Binary) : Int :=
  let num := b.mantissa * Nat.pow 2 b.exponent.toNat
  let den := Nat.pow 2 (-b.exponent).toNat
  let e : Int := (digitCount num : Int) - (digitCount den : Int)
  if compareScaled 1 e b.mantissa b.exponent = .gt then e - 1 else e

/-- `⌊value / 10 ^ k⌋`. -/
def floorAt (b : Binary) (k : Int) : Nat :=
  (b.mantissa * Nat.pow 2 b.exponent.toNat * Nat.pow 10 (-k).toNat) /
    (Nat.pow 2 (-b.exponent).toNat * Nat.pow 10 k.toNat)

/-- Whether `c * 10 ^ k` reads back as this double: it lies between the midpoints to the two
neighbours, which count as inside when the mantissa is even. The midpoints are
`(4m ± 2) * 2 ^ (q - 2)`, or `(4m - 1) * 2 ^ (q - 2)` below a narrow gap. -/
def admits (b : Binary) (c : Nat) (k : Int) : Bool :=
  let j := b.exponent - 2
  let low := if b.narrowBelow then 4 * b.mantissa - 1 else 4 * b.mantissa - 2
  let high := 4 * b.mantissa + 2
  let inclusive := b.mantissa % 2 == 0
  let aboveLow := match compareScaled c k low j with
    | .gt => true
    | .eq => inclusive
    | .lt => false
  let belowHigh := match compareScaled c k high j with
    | .lt => true
    | .eq => inclusive
    | .gt => false
  aboveLow && belowHigh

/-- The grid point on the grid of step `10 ^ k` that reads back, if one of the two next to the
value does; of two, the nearer, and of two equally near, the one `tie` picks. -/
def pickAt (tie : Tie) (b : Binary) (k : Int) : Option Nat :=
  let c := b.floorAt k
  match b.admits c k, b.admits (c + 1) k with
  | true, true =>
    -- the value lies below, at or above the middle of the two grid points
    match compareScaled (2 * c + 1) k b.mantissa (b.exponent + 1) with
    | .gt => some c
    | .lt => some (c + 1)
    | .eq => some (if tie = .even ∧ c % 2 = 0 then c else c + 1)
  | true, false => some c
  | false, true => some (c + 1)
  | false, false => none

end Binary

/-- Drops trailing zeros of `d`, raising the exponent for each. -/
def dropZeros (d : Nat) (k : Int) : Nat × Int :=
  if h : d ≠ 0 ∧ d % 10 = 0 then dropZeros (d / 10) (k + 1) else (d, k)
termination_by d
decreasing_by omega

/-- A decimal `digits * 10 ^ exponent` with no trailing zero in `digits`. -/
structure Digits where
  digits : Nat
  exponent : Int
  deriving Repr, DecidableEq

/-- The shortest decimal that reads back as the double; of several, the nearest, and of two
equally near, the one `tie` picks. -/
def Binary.shortest (tie : Tie) (b : Binary) : Digits :=
  let e := b.decimalExponent
  let found := (List.range 17).findSome? fun i =>
    let k := e - (i + 1 : Nat) + 1
    (b.pickAt tie k).map fun c => (c, k)
  let (d, k) := found.getD (b.floorAt (e - 16), e - 16)
  let (d, k) := dropZeros d k
  ⟨d, k⟩

end TableDdl.Decimal
