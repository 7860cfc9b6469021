/-!
# Binary and decimal numbers

Two ways to hold a number exactly, and the one question that ties them
together: does a decimal read back as a given binary number?

- `Decimal` is `digits · 10 ^ exponent`.
- `Binary` is the magnitude of a finite floating-point number,
  `significand · 2 ^ scale`, as its bit pattern says.
- `Binary.readsBack` compares a decimal with the two ends of the interval
  of reals that round to the binary number, by cross-multiplying naturals.

Nothing here goes through floating-point arithmetic.
-/

namespace HttpBench.Number

/-- **A decimal**: `digits · 10 ^ exponent`. -/
structure Decimal where
  digits : Nat
  exponent : Int
deriving DecidableEq, Repr

/-- **A finite binary magnitude**: `significand · 2 ^ scale`.

`narrowBelow` says that the number below is only half as far away as the
number above, which happens at powers of two. -/
structure Binary where
  significand : Nat
  scale : Int
  narrowBelow : Bool
deriving DecidableEq, Repr

/-- **The magnitude of a double**, from its bits. Infinities and NaN have
no magnitude; the caller sets them apart first. -/
def Binary.ofDoubleBits (bits : UInt64) : Binary :=
  let exponent := ((bits >>> 52) &&& 0x7FF).toNat
  let fraction := (bits &&& 0xFFFFFFFFFFFFF).toNat
  if exponent == 0 then ⟨fraction, -1074, false⟩
  else ⟨4503599627370496 + fraction, (exponent : Int) - 1075, fraction == 0 && exponent > 1⟩

/-- **The magnitude of a single**, from its bits. -/
def Binary.ofSingleBits (bits : UInt32) : Binary :=
  let exponent := ((bits >>> 23) &&& 0xFF).toNat
  let fraction := (bits &&& 0x7FFFFF).toNat
  if exponent == 0 then ⟨fraction, -149, false⟩
  else ⟨8388608 + fraction, (exponent : Int) - 150, fraction == 0 && exponent > 1⟩

/-- Compare `a · 10 ^ i` with `n · 2 ^ j`, exactly. -/
def compareScaled (a : Nat) (i : Int) (n : Nat) (j : Int) : Ordering :=
  compare (a * Nat.pow 10 i.toNat * Nat.pow 2 (-j).toNat) (n * Nat.pow 2 j.toNat * Nat.pow 10 (-i).toNat)

/-- **The reading test**: the decimal lies among the reals that round to
`x`, to nearest and with ties to the even significand. -/
def Binary.readsBack (x : Binary) (d : Decimal) : Bool :=
  let below := if x.narrowBelow then 4 * x.significand - 1 else 4 * x.significand - 2
  let above := 4 * x.significand + 2
  let inclusive := x.significand % 2 == 0
  let low := compareScaled d.digits d.exponent below (x.scale - 2)
  let high := compareScaled d.digits d.exponent above (x.scale - 2)
  (low == .gt || (inclusive && low == .eq)) && (high == .lt || (inclusive && high == .eq))

/-- **The exact value** of a magnitude as a fraction. -/
def Binary.toRat (x : Binary) : Rat :=
  if 0 ≤ x.scale then ((x.significand * Nat.pow 2 x.scale.toNat : Nat) : Rat)
  else mkRat x.significand (Nat.pow 2 (-x.scale).toNat)

/-- **Rounding a quotient to the nearest natural**, a tie going to the even
neighbour. -/
def roundQuotient (numerator denominator : Nat) : Nat :=
  let quotient := numerator / denominator
  let twice := 2 * (numerator % denominator)
  if twice < denominator then quotient
  else if denominator < twice then quotient + 1
  else if quotient % 2 == 0 then quotient else quotient + 1

end HttpBench.Number
