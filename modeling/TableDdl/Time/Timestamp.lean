-- Instants in UTC on the proleptic Gregorian calendar, as template values hold them, written as
-- `YYYY-MM-DD HH:MM:SS.mmm+00:00`. Reading takes RFC 3339 text, a date and time without an offset,
-- or a date.
import TableDdl.Text.Blank

namespace TableDdl

/-- An instant in UTC. -/
structure Timestamp where
  /-- Days since 1970-01-01. -/
  day : Int
  /-- Second of the day, below 86400. -/
  second : Nat
  /-- Nanoseconds, below `2 * 10 ^ 9`; from `10 ^ 9` on in a leap second. -/
  nanos : Nat
  deriving DecidableEq, Repr, Inhabited

/-- A calendar date. -/
structure CivilDate where
  year : Int
  month : Nat
  day : Nat
  deriving DecidableEq, Repr

namespace CivilDate

/-- Whether a year has 29 February. -/
def isLeapYear (y : Int) : Bool :=
  (y % 4 == 0 && y % 100 != 0) || y % 400 == 0

/-- The number of days of a month. -/
def daysInMonth (y : Int) (m : Nat) : Nat :=
  if m = 2 then (if isLeapYear y then 29 else 28)
  else if m = 4 ∨ m = 6 ∨ m = 9 ∨ m = 11 then 30
  else 31

/-- Whether the date exists. -/
def isValid (d : CivilDate) : Bool :=
  1 ≤ d.month && d.month ≤ 12 && 1 ≤ d.day && d.day ≤ daysInMonth d.year d.month

/-- The date of a day counted from 1970-01-01, by eras of 400 years of 146097 days. -/
def ofDay (n : Int) : CivilDate :=
  let z := n + 719468
  let era := z / 146097
  let doe := z - era * 146097
  let yoe := (doe - doe / 1460 + doe / 36524 - doe / 146096) / 365
  let doy := doe - (365 * yoe + yoe / 4 - yoe / 100)
  let mp := (5 * doy + 2) / 153
  let d := doy - (153 * mp + 2) / 5 + 1
  let m := if mp < 10 then mp + 3 else mp - 9
  let y := yoe + era * 400 + (if m ≤ 2 then 1 else 0)
  ⟨y, m.toNat, d.toNat⟩

/-- The day, counted from 1970-01-01, of a date. -/
def toDay (d : CivilDate) : Int :=
  let m : Int := d.month
  let y := d.year - (if m ≤ 2 then 1 else 0)
  let era := y / 400
  let yoe := y - era * 400
  let mp := if m > 2 then m - 3 else m + 9
  let doy := (153 * mp + 2) / 5 + d.day - 1
  let doe := yoe * 365 + yoe / 4 - yoe / 100 + doy
  era * 146097 + doe - 719468

end CivilDate

/-- `n` written with at least `width` digits, zeros in front. -/
def padded (width n : Nat) : String :=
  let ds := Nat.toDigits 10 n
  String.ofList (List.replicate (width - ds.length) '0' ++ ds)

namespace Timestamp

/-- The year as written: four digits from 0 to 9999, else a sign and at least four digits. -/
def yearText (y : Int) : String :=
  if 0 ≤ y ∧ y ≤ 9999 then padded 4 y.toNat
  else if y < 0 then "-" ++ padded 4 y.natAbs
  else "+" ++ padded 4 y.toNat

/-- The text `YYYY-MM-DD HH:MM:SS.mmm+00:00`. -/
def text (t : Timestamp) : String :=
  let d := CivilDate.ofDay t.day
  let leap := decide (t.nanos ≥ Nat.pow 10 9)
  let sec := t.second % 60 + (if leap then 1 else 0)
  let frac := if leap then t.nanos - Nat.pow 10 9 else t.nanos
  yearText d.year ++ "-" ++ padded 2 d.month ++ "-" ++ padded 2 d.day ++ " " ++
    padded 2 (t.second / 3600) ++ ":" ++ padded 2 (t.second / 60 % 60) ++ ":" ++ padded 2 sec ++
    "." ++ padded 3 (frac / Nat.pow 10 6) ++ "+00:00"

/-- The instant of a date and a time of day given in seconds from midnight, shifted by an offset
in seconds east of UTC. -/
def ofLocal (date : CivilDate) (secondOfDay : Nat) (nanos : Nat) (offset : Int) : Timestamp :=
  let total := date.toDay * 86400 + secondOfDay - offset
  ⟨total / 86400, (total % 86400).toNat, nanos⟩

end Timestamp

/-! ## Reading -/

namespace TimeText

/-- Exactly `n` ASCII digits and their value. -/
def fixedDigits : Nat → List Char → Option (Nat × List Char)
  | 0, cs => some (0, cs)
  | n + 1, c :: cs =>
    if '0' ≤ c ∧ c ≤ '9' then do
      let (v, rest) ← fixedDigits n cs
      some ((c.toNat - 48) * Nat.pow 10 n + v, rest)
    else none
  | _ + 1, [] => none

/-- Expects one character. -/
def expect (c : Char) : List Char → Option (List Char)
  | d :: rest => if d = c then some rest else none
  | [] => none

/-- `YYYY-MM-DD` with fields of fixed width. -/
def date (cs : List Char) : Option (CivilDate × List Char) := do
  let (y, cs) ← fixedDigits 4 cs
  let cs ← expect '-' cs
  let (m, cs) ← fixedDigits 2 cs
  let cs ← expect '-' cs
  let (d, cs) ← fixedDigits 2 cs
  let dt : CivilDate := ⟨(y : Int), m, d⟩
  if dt.isValid then some (dt, cs) else none

/-- A fraction of a second after its point: at least one digit, of which the first nine count. -/
def fraction (cs : List Char) : Option (Nat × List Char) :=
  let ds := cs.takeWhile fun d => '0' ≤ d ∧ d ≤ '9'
  if ds.isEmpty then none
  else
    let nine := (ds.take 9 ++ List.replicate (9 - ds.length) '0')
    some (nine.foldl (fun n d => n * 10 + (d.toNat - 48)) 0, cs.drop ds.length)

/-- `HH:MM:SS` with an optional fraction: the second of the day and the nanoseconds, where a
second 60 is a leap second. -/
def time (cs : List Char) : Option ((Nat × Nat) × List Char) := do
  let (h, cs) ← fixedDigits 2 cs
  let cs ← expect ':' cs
  let (m, cs) ← fixedDigits 2 cs
  let cs ← expect ':' cs
  let (s, cs) ← fixedDigits 2 cs
  if h > 23 ∨ m > 59 ∨ s > 60 then none
  else
    let (nanos, cs) ← match cs with
      | '.' :: rest => fraction rest
      | _ => some (0, cs)
    let leap := decide (s = 60)
    some ((h * 3600 + m * 60 + (if leap then 59 else s),
      if leap then nanos + Nat.pow 10 9 else nanos), cs)

/-- An offset `Z`, or `+HH:MM` / `-HH:MM`, in seconds east of UTC; the minus sign U+2212 stands
for `-` too. -/
def offset (cs : List Char) : Option (Int × List Char) :=
  match cs with
  | c :: rest =>
    if c = 'Z' ∨ c = 'z' then some (0, rest)
    else if c = '+' ∨ c = '-' ∨ c = '\u2212' then do
      let (h, rest) ← fixedDigits 2 rest
      let rest ← expect ':' rest
      let (m, rest) ← fixedDigits 2 rest
      if h > 23 ∨ m > 59 then none
      else
        let v : Int := h * 3600 + m * 60
        some (if c = '+' then v else -v, rest)
    else none
  | [] => none

/-- Whether a character is an ASCII digit. -/
def isDigit (c : Char) : Bool :=
  '0' ≤ c && c ≤ '9'

/-- The value of ASCII digits. -/
def digitsValue (ds : List Char) : Nat :=
  ds.foldl (fun n d => n * 10 + (d.toNat - 48)) 0

/-- A lenient number: blanks, then one digit up to `width` digits. -/
def looseField (width : Nat) (cs : List Char) : Option (Nat × List Char) :=
  let cs := cs.dropWhile Text.isBlank
  let ds := (cs.take width).takeWhile isDigit
  if ds.isEmpty then none else some (digitsValue ds, cs.drop ds.length)

/-- A lenient year: blanks, then a sign and at least one digit, or one to four digits. -/
def looseYear (cs : List Char) : Option (Int × List Char) :=
  match cs.dropWhile Text.isBlank with
  | c :: rest =>
    if c = '+' ∨ c = '-' then
      let ds := rest.takeWhile isDigit
      if ds.isEmpty then none
      else
        let v : Int := digitsValue ds
        some (if c = '-' then -v else v, rest.drop ds.length)
    else (looseField 4 (c :: rest)).map fun (v, rest) => ((v : Int), rest)
  | [] => none

/-- A separator after optional blanks. -/
def looseExpect (c : Char) (cs : List Char) : Option (List Char) :=
  expect c (cs.dropWhile Text.isBlank)

/-- Whether a year is within the calendar that dates can hold. -/
def yearInRange (y : Int) : Bool :=
  -262143 ≤ y && y ≤ 262142

/-- A lenient `YYYY-MM-DD`. -/
def looseDate (cs : List Char) : Option (CivilDate × List Char) := do
  let (y, cs) ← looseYear cs
  let cs ← looseExpect '-' cs
  let (m, cs) ← looseField 2 cs
  let cs ← looseExpect '-' cs
  let (d, cs) ← looseField 2 cs
  let dt : CivilDate := ⟨y, m, d⟩
  if yearInRange y && dt.isValid then some (dt, cs) else none

/-- A lenient `HH:MM:SS` with an optional fraction right after the seconds: the second of the
day and the nanoseconds, where a second 60 is a leap second. -/
def looseTime (cs : List Char) : Option ((Nat × Nat) × List Char) := do
  let (h, cs) ← looseField 2 cs
  let cs ← looseExpect ':' cs
  let (m, cs) ← looseField 2 cs
  let cs ← looseExpect ':' cs
  let (s, cs) ← looseField 2 cs
  if h > 23 ∨ m > 59 ∨ s > 60 then none
  else
    let (nanos, cs) ← match cs with
      | '.' :: rest => fraction rest
      | _ => some (0, cs)
    let leap := decide (s = 60)
    some ((h * 3600 + m * 60 + (if leap then 59 else s),
      if leap then nanos + Nat.pow 10 9 else nanos), cs)

end TimeText

namespace Timestamp

/-- RFC 3339 text with an offset, as an instant in UTC. -/
def ofRfc3339? (s : String) : Option Timestamp := do
  let (d, cs) ← TimeText.date s.toList
  let cs ← match cs with
    | c :: rest => if c = 'T' ∨ c = 't' ∨ c = ' ' then some rest else none
    | [] => none
  let ((sec, nanos), cs) ← TimeText.time cs
  let (off, cs) ← TimeText.offset cs
  if cs.isEmpty then some (ofLocal d sec nanos off) else none

/-- A date and time without offset, taken as UTC; `T` or `t` stands right after the date. -/
def ofLocalText? (s : String) : Option Timestamp := do
  let (d, cs) ← TimeText.looseDate s.toList
  let cs ← match cs with
    | c :: rest => if c = 'T' ∨ c = 't' then some rest else none
    | [] => none
  let ((sec, nanos), cs) ← TimeText.looseTime cs
  if (cs.dropWhile Text.isBlank).isEmpty then some (ofLocal d sec nanos 0) else none

/-- A date, taken as midnight UTC. -/
def ofDateText? (s : String) : Option Timestamp := do
  let (d, cs) ← TimeText.looseDate s.toList
  if (cs.dropWhile Text.isBlank).isEmpty then some (ofLocal d 0 0 0) else none

end Timestamp

end TableDdl
