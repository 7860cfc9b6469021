import HttpBench.Number.Shortest

/-!
# Numbers with a fixed number of places

The exact value is rounded to the given number of places, a tie going to
the even neighbour, and keeps its sign even when it rounds to zero.
`NaN` and the infinities have texts of their own; only an infinity shows
a sign.
-/

namespace HttpBench.Number

/-- Pad on the left with `fill` up to `width` characters. -/
def padLeft (fill : Char) (width : Nat) (text : String) : String :=
  String.ofList (List.replicate (width - text.length) fill) ++ text

/-- Pad on the right with spaces up to `width` characters. -/
def padRight (width : Nat) (text : String) : String :=
  text ++ String.ofList (List.replicate (width - text.length) ' ')

/-- **The digits of `units` with `places` of them behind the point.** -/
def pointText (units places : Nat) : String :=
  let digits := (padLeft '0' (places + 1) (Nat.repr units)).toList
  let whole := digits.take (digits.length - places)
  let fraction := digits.drop (digits.length - places)
  String.ofList whole ++ (if places == 0 then "" else "." ++ String.ofList fraction)

/-- **A magnitude to a fixed number of places.** -/
def Binary.placesText (x : Binary) (places : Nat) : String :=
  pointText (roundQuotient (x.significand * Nat.pow 2 x.scale.toNat * Nat.pow 10 places) (Nat.pow 2 (-x.scale).toNat)) places

/-- **A double to a fixed number of places**, with its sign in front; a plus
sign only where `plus` asks for one. -/
def placesText (places : Nat) (x : Float) (plus : Bool) : String :=
  if x.isNaN then "NaN"
  else
    let sign := if isNegativeDouble x then "-" else if plus then "+" else ""
    if isFiniteDouble x then sign ++ (Binary.ofDoubleBits x.toBits).placesText places
    else sign ++ "inf"

/-- A tie in the last place goes to the even digit. -/
example : placesText 2 0.125 false = "0.12" := by decide +kernel

end HttpBench.Number
