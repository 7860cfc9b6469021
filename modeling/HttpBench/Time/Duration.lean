import HttpBench.Number.Scalar

/-!
# Durations and instants

A duration is a whole number of nanoseconds. In reports it is a number of
milliseconds, in rates a number of seconds; both are taken in whatever
number system the figures are computed in.

`ofMillis` undoes `toMillis` where the number system loses nothing: it
rounds to the nearest nanosecond, and caps what is too long for a duration.
-/

namespace HttpBench

open Number

/-- **A length of time** in nanoseconds. -/
structure Duration where
  nanos : Nat
deriving DecidableEq, Repr, Inhabited

namespace Duration

/-- No time at all. -/
def zero : Duration := ⟨0⟩

/-- The longest duration: one nanosecond short of `2 ^ 64` seconds. -/
def longest : Duration := ⟨range64 * 1000000000 - 1⟩

/-- A whole number of milliseconds. -/
def millis (count : Nat) : Duration := ⟨count * 1000000⟩

/-- A whole number of seconds. -/
def seconds (count : Nat) : Duration := ⟨count * 1000000000⟩

/-- Whole milliseconds, the rest dropped. -/
def wholeMillis (d : Duration) : Nat := d.nanos / 1000000

/-- The sum of two durations, unless it is longer than the longest one. -/
def add? (a b : Duration) : Option Duration :=
  if a.nanos + b.nanos ≤ longest.nanos then some ⟨a.nanos + b.nanos⟩ else none

section
variable {R : Type} [Scalar R]

/-- **Milliseconds**, with their fraction. -/
def toMillis (d : Duration) : R := ofInt d.nanos / ofInt 1000000

/-- **Seconds**: the whole seconds and the fraction are taken into the
number system apart. -/
def toSeconds (d : Duration) : R :=
  ofInt (d.nanos / 1000000000 : Nat) + ofInt (d.nanos % 1000000000 : Nat) / ofInt 1000000000

/-- **The duration of a number of milliseconds**, to the nearest nanosecond
with a tie going to the even one. What is not finite or not positive is no
time; what is too long is the longest duration. -/
def ofMillis (ms : R) : Duration :=
  if Scalar.isFinite ms && Scalar.lt Scalar.zero ms then
    match Scalar.toRat? (ms / ofInt 1000) with
    | some seconds =>
      let nanos := roundQuotient (seconds.num.toNat * 1000000000) seconds.den
      if nanos ≤ longest.nanos then ⟨nanos⟩ else longest
    | none => longest
  else zero

end

/-- The fraction `part / 10 ^ width` behind a whole number, without trailing zeros. -/
def fractionText (whole part width : Nat) : String :=
  let digits := (padLeft '0' width (Nat.repr part)).toList
  let kept := (digits.reverse.dropWhile (· == '0')).reverse
  if part == 0 then Nat.repr whole else Nat.repr whole ++ "." ++ String.ofList kept

/-- **A duration for a reader**: in the largest of seconds, milliseconds,
microseconds and nanoseconds of which there is at least one. -/
def text (d : Duration) : String :=
  if 1000000000 ≤ d.nanos then fractionText (d.nanos / 1000000000) (d.nanos % 1000000000) 9 ++ "s"
  else if 1000000 ≤ d.nanos then fractionText (d.nanos / 1000000) (d.nanos % 1000000) 6 ++ "ms"
  else if 1000 ≤ d.nanos then fractionText (d.nanos / 1000) (d.nanos % 1000) 3 ++ "µs"
  else Nat.repr d.nanos ++ "ns"

end Duration

/-- **A moment**, in nanoseconds since the clock started. -/
structure Instant where
  nanos : Nat
deriving DecidableEq, Repr, Inhabited

namespace Instant

/-- The time from `earlier` to `later`; none if they are the other way round. -/
def since (later earlier : Instant) : Duration := ⟨later.nanos - earlier.nanos⟩

/-- The moment `d` after this one. -/
def after (i : Instant) (d : Duration) : Instant := ⟨i.nanos + d.nanos⟩

end Instant

end HttpBench
