import HttpBench.Number.Binary

/-!
# The shortest decimal of a binary number

A number is written with the fewest digits that read back to it, and among
those with the digits nearest to it. `Binary.shortest` searches the decimal
grids from the coarsest to the finest: on each grid only the two neighbours
of the value can lie in the reading interval, so testing both is enough.

`positionalText` lays the digits out: an integral value keeps `.0`, values
from `10 ^ -5` up to below `10 ^ 16` are written positionally, all others
with an exponent.
-/

namespace HttpBench.Number

/-- **The decimal magnitude** of a positive value: the least `k` with the
value below `10 ^ k`. The estimate from the binary logarithm is at most two
steps off, so four candidates are tried. -/
def Binary.magnitude (x : Binary) : Int :=
  let estimate := ((x.significand.log2 : Int) + x.scale) * 30103 / 100000
  let candidates := [estimate - 1, estimate, estimate + 1, estimate + 2]
  (candidates.find? fun k => compareScaled 1 k x.significand x.scale == .gt).getD (estimate + 3)

/-- The floor of the value on the grid `10 ^ exponent`. -/
def Binary.floorOn (x : Binary) (exponent : Int) : Nat :=
  (x.significand * Nat.pow 2 x.scale.toNat * Nat.pow 10 (-exponent).toNat)
    / (Nat.pow 2 (-x.scale).toNat * Nat.pow 10 exponent.toNat)

/-- **The better neighbour on one grid**, if either of the two reads back.
Of two the nearer wins, and a tie goes to the even digit. -/
def Binary.onGrid? (x : Binary) (exponent : Int) : Option Decimal :=
  let lower := x.floorOn exponent
  let down : Decimal := ⟨lower, exponent⟩
  let up : Decimal := ⟨lower + 1, exponent⟩
  match x.readsBack down, x.readsBack up with
  | true, true =>
    match compareScaled (2 * lower + 1) exponent (2 * x.significand) x.scale with
    | .lt => some up
    | .gt => some down
    | .eq => if lower % 2 == 0 then some down else some up
  | true, false => some down
  | false, true => some up
  | false, false => none

/-- Move trailing zeros of the digits into the exponent. -/
def Decimal.strip (d : Decimal) : Decimal :=
  go d.digits.log2 d
where
  /-- At most `fuel` zeros are moved; a number has fewer decimal than binary digits. -/
  go : Nat → Decimal → Decimal
  | 0, d => d
  | fuel + 1, d =>
    if d.digits != 0 && d.digits % 10 == 0 then go fuel ⟨d.digits / 10, d.exponent + 1⟩ else d

/-- **The shortest decimal** that reads back. Seventeen digits identify every
double; if no grid up to there had a hit the exact value would be given. -/
def Binary.shortest (x : Binary) : Decimal :=
  if x.significand == 0 then ⟨0, 0⟩
  else
    let magnitude := x.magnitude
    let grids := (List.range 17).map fun (n : Nat) => magnitude - ((n : Int) + 1)
    match grids.findSome? x.onGrid? with
    | some d => d.strip
    | none => (Decimal.mk (x.significand * Nat.pow 5 (-x.scale).toNat * Nat.pow 2 x.scale.toNat) (min x.scale 0)).strip

/-- **Layout of a decimal**: positional with a point from `10 ^ -5` up to
below `10 ^ 16`, otherwise with an exponent and its sign. -/
def Decimal.positionalText (d : Decimal) : String :=
  let digits := (Nat.repr d.digits).toList
  let count : Int := digits.length
  let point := count + d.exponent
  if d.digits == 0 then "0.0"
  else if 0 ≤ d.exponent && point ≤ 16 then
    String.ofList (digits ++ List.replicate d.exponent.toNat '0') ++ ".0"
  else if 0 < point && point ≤ 16 then
    String.ofList (digits.take point.toNat) ++ "." ++ String.ofList (digits.drop point.toNat)
  else if -5 < point && point ≤ 0 then
    "0." ++ String.ofList (List.replicate (-point).toNat '0' ++ digits)
  else
    let mantissa := match digits with
      | [] => ""
      | [only] => String.ofList [only]
      | first :: rest => String.ofList (first :: '.' :: rest)
    mantissa ++ (if 0 < point then "e+" else "e") ++ toString (point - 1)

/-- A double that is neither infinite nor NaN. -/
def isFiniteDouble (x : Float) : Bool :=
  ((x.toBits >>> 52) &&& 0x7FF) != 0x7FF

/-- The sign bit of a double. -/
def isNegativeDouble (x : Float) : Bool :=
  (x.toBits >>> 63) != 0

/-- **The text of a finite double**, with the fewest digits that read back. -/
def doubleText (x : Float) : String :=
  (if isNegativeDouble x then "-" else "") ++ (Binary.ofDoubleBits x.toBits).shortest.positionalText

/-- **Reading a decimal**: the double nearest to it. Exponents far outside the
range are settled before any power is computed. -/
def Decimal.toDouble (d : Decimal) : Float :=
  let size : Int := (Nat.repr d.digits).length + d.exponent
  if d.digits == 0 || size < -400 then 0.0
  else if 400 < size then 1.0 / 0.0
  else Float.ofScientific d.digits (d.exponent < 0) d.exponent.natAbs

/-- The text of a short decimal reads as the double it came from. -/
example : doubleText 0.1 = "0.1" := by decide +kernel

/-- The shared end of two intervals belongs to the even significand. -/
example : doubleText 1e23 = "1e+23" := by decide +kernel

end HttpBench.Number
