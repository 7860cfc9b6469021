import HttpBench.Number.Places
import HttpBench.Text.Blank
import HttpBench.Time.Calendar
import HttpBench.Time.Duration

/-!
# Timestamps

Moments of the wall clock as they stand in reports: a date, a time of day with
up to nine places of the second, and the distance from universal time. A
timestamp may be written with blanks around its numbers; it is always printed
in universal time and without blanks, with no, three, six or nine places,
whatever shows all of it.

A sixtieth second is kept as the fifty-ninth with a whole second of nanoseconds
more.
-/

namespace HttpBench

open Number Text

/-- **A moment of the wall clock** in universal time. -/
structure Timestamp where
  /-- since the first moment of 1970 -/
  seconds : Int
  /-- a leap second has a billion more -/
  nanos : Nat
deriving DecidableEq, Repr, Inhabited

namespace Timestamp

/-- The first moment of 1970. -/
def epoch : Timestamp := ⟨0, 0⟩

/-- The wall clock of a clock that starts at the first moment of 1970. -/
def ofInstant (i : Instant) : Timestamp := ⟨(i.nanos / 1000000000 : Nat), i.nanos % 1000000000⟩

/-! ## Printing -/

/-- The year with at least four digits, and with a sign where it has more. -/
def yearText (year : Int) : String :=
  if 0 ≤ year && year ≤ 9999 then padLeft '0' 4 (Nat.repr year.toNat)
  else (if year < 0 then "-" else "+") ++ padLeft '0' 4 (Nat.repr year.natAbs)

/-- Two digits. -/
def twoText (n : Nat) : String := padLeft '0' 2 (Nat.repr n)

/-- The places of a second, in groups of three. -/
def fractionText (nanos : Nat) : String :=
  if nanos == 0 then ""
  else if nanos % 1000000 == 0 then "." ++ padLeft '0' 3 (Nat.repr (nanos / 1000000))
  else if nanos % 1000 == 0 then "." ++ padLeft '0' 6 (Nat.repr (nanos / 1000))
  else "." ++ padLeft '0' 9 (Nat.repr nanos)

/-- The number of the day. -/
def dayNumber (t : Timestamp) : Int := t.seconds.fdiv 86400

/-- The seconds since the day began. -/
def secondOfDay (t : Timestamp) : Nat := (t.seconds - t.dayNumber * 86400).toNat

/-- The year, the month and the day. -/
def dateText (t : Timestamp) : String :=
  let date := Date.ofDays t.dayNumber
  yearText date.year ++ "-" ++ twoText date.month ++ "-" ++ twoText date.day

/-- The hour. -/
def hourText (t : Timestamp) : String := twoText (t.secondOfDay / 3600)

/-- The time of day in whole seconds. -/
def clockText (t : Timestamp) : String :=
  t.hourText ++ ":" ++ twoText (t.secondOfDay / 60 % 60) ++ ":" ++ twoText (t.secondOfDay % 60 + t.nanos / 1000000000)

/-- **The text of a timestamp.** -/
def text (t : Timestamp) : String :=
  t.dateText ++ "T" ++ t.clockText ++ fractionText (t.nanos % 1000000000) ++ "Z"

/-- The date and the time of day with `places` places of the second, which are
at most nine, and `between` between the two. -/
def stamp (between : String) (places : Nat) (t : Timestamp) : String :=
  t.dateText ++ between ++ t.clockText ++ "."
    ++ padLeft '0' places (Nat.repr (t.nanos % 1000000000 / Nat.pow 10 (9 - places)))

/-! ## Reading -/

/-- The value of digits. -/
def digitsValue (digits : List Char) : Nat := digits.foldl (fun n c => n * 10 + (c.toNat - 48)) 0

/-- **A number** behind blanks, of one digit at least and of so many at most. -/
def number? (most : Nat) (cs : List Char) : Option (Nat × List Char) :=
  let cs := skipBlanks cs
  let digits := (cs.takeWhile Char.isDigit).take most
  if digits.isEmpty then none else some (digitsValue digits, cs.drop digits.length)

/-- A year: up to four digits, or any number of them behind a sign. -/
def year? (cs : List Char) : Option (Int × List Char) := do
  let limit := fun r : Nat × List Char => if r.1 < 1000000 then some r else none
  match skipBlanks cs with
  | '-' :: rest =>
    guard ((rest.head?.map Char.isDigit).getD false)
    let (n, rest) ← number? rest.length rest >>= limit
    some (-(n : Int), rest)
  | '+' :: rest =>
    guard ((rest.head?.map Char.isDigit).getD false)
    let (n, rest) ← number? rest.length rest >>= limit
    some (n, rest)
  | cs => (number? 4 cs).map fun (n, rest) => (n, rest)

/-- A mark behind blanks. -/
def mark? (mark : Char) (cs : List Char) : Option (List Char) :=
  match skipBlanks cs with
  | c :: rest => if c == mark then some rest else none
  | [] => none

/-- The places of a second, of which nine count. -/
def fraction? : List Char → Option (Nat × List Char)
  | '.' :: rest =>
    let digits := rest.takeWhile Char.isDigit
    let counted := digits.take 9
    if digits.isEmpty then none
    else some (digitsValue counted * Nat.pow 10 (9 - counted.length), rest.drop digits.length)
  | cs => some (0, cs)

/-- A distance from universal time, in seconds: hours and minutes behind a sign. -/
def distance? (cs : List Char) : Option (Int × List Char) :=
  let signed := match cs with
    | '+' :: rest => some (1, rest)
    | '-' :: rest => some (-1, rest)
    | '\u2212' :: rest => some (-1, rest)
    | _ => none
  match signed with
  | some (sign, h1 :: h2 :: rest) =>
    match rest.dropWhile fun c => c == ':' || isBlank c with
    | m1 :: m2 :: rest =>
      if [h1, h2, m1, m2].all Char.isDigit && m1.toNat < '6'.toNat then
        some (sign * ((digitsValue [h1, h2] * 3600 + digitsValue [m1, m2] * 60 : Nat) : Int), rest)
      else none
    | _ => none
  | _ => none

/-- **The zone**: a letter or the name of universal time, or a distance from it. -/
def zone? (cs : List Char) : Option (Int × List Char) :=
  match cs with
  | 'Z' :: rest | 'z' :: rest => some (0, rest)
  | _ =>
    if (String.ofList (cs.take 3)).toUpper == "UTC" then some (0, cs.drop 3)
    else distance? cs

/-- The years that a timestamp can have, as it is written and in universal time. -/
def isYear (year : Int) : Bool := -262143 ≤ year && year ≤ 262142

/-- **Read a timestamp.** -/
def parse? (source : String) : Option Timestamp := do
  let (year, cs) ← year? source.toList
  let (month, cs) ← mark? '-' cs >>= number? 2
  let (day, cs) ← mark? '-' cs >>= number? 2
  let cs ← match cs with
    | 'T' :: rest | 't' :: rest | ' ' :: rest => some rest
    | _ => none
  let (hour, cs) ← number? 2 cs
  let (minute, cs) ← mark? ':' cs >>= number? 2
  let (second, cs) ← mark? ':' cs >>= number? 2
  let (nanos, cs) ← fraction? cs
  let (distance, cs) ← zone? (skipBlanks cs)
  guard (skipBlanks cs).isEmpty
  let date : Date := ⟨year, month, day⟩
  guard (isYear year && date.isValid && hour < 24 && minute < 60 && second ≤ 60 && distance.natAbs < 86400)
  let leap := second / 60
  let ofDay : Int := (hour * 3600 + minute * 60 + (second - leap) : Nat)
  let t : Timestamp := ⟨date.toDays * 86400 + ofDay - distance, nanos + leap * 1000000000⟩
  guard (isYear (Date.ofDays t.dayNumber).year)
  some t

end Timestamp

end HttpBench
