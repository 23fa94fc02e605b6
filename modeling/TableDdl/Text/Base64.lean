-- Base64 text (RFC 4648, the standard alphabet) decoded to bytes, canonically: pads stand only at
-- the end, and no bits are left over.

namespace TableDdl.Text

/-- The value of a character of the alphabet: `A-Z`, `a-z`, `0-9`, `+` and `/` stand for 0 to 63;
every other character is outside it. -/
def base64Value? (c : Char) : Option Nat :=
  if 'A' ≤ c ∧ c ≤ 'Z' then some (c.toNat - 65)
  else if 'a' ≤ c ∧ c ≤ 'z' then some (c.toNat - 97 + 26)
  else if '0' ≤ c ∧ c ≤ '9' then some (c.toNat - 48 + 52)
  else if c = '+' then some 62
  else if c = '/' then some 63
  else none

/-- Takes in six bits and gives out a byte whenever eight have come. The state holds the bytes
so far (the latest first), the bits not yet given out, and how many they are, so that the bits
stay below `2 ^ count`. -/
def base64Step (st : List UInt8 × Nat × Nat) (v : Nat) : List UInt8 × Nat × Nat :=
  let (out, acc, count) := st
  let acc := acc * 64 + v
  let count := count + 6
  if count ≥ 8 then
    (UInt8.ofNat (acc / Nat.pow 2 (count - 8)) :: out, acc % Nat.pow 2 (count - 8), count - 8)
  else (out, acc, count)

/-- The bytes that canonical base64 text stands for, or nothing when the text is not canonical. -/
def base64Decode? (cs : List Char) : Option ByteArray := do
  let pads := (cs.reverse.takeWhile (· = '=')).length
  guard (pads ≤ 2)
  let body := cs.take (cs.length - pads)
  guard ((body.length + pads) % 4 = 0)
  let values ← body.mapM base64Value?
  let (out, acc, _) := values.foldl base64Step ([], 0, 0)
  guard (acc = 0)
  some (ByteArray.mk out.reverse.toArray)

end TableDdl.Text
