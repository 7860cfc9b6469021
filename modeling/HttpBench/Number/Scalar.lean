import HttpBench.Number.Places
import HttpBench.Number.Word

/-!
# Scalars

The figures of a run are computed in some number system: doubles when the
program runs, exact rationals when its figures are reasoned about. `Scalar`
is what both offer, so every statistic is written once.

The comparisons `lt` and `le` are the ordinary ones, which fail on a value
that is no number; `ordered` is a total order that sorts every value.
-/

namespace HttpBench.Number

/-- **A number system for figures.** -/
class Scalar (R : Type) extends Add R, Sub R, Mul R, Div R where
  /-- the number nearest to an integer -/
  ofInt : Int → R
  /-- the exact value, absent where the value is no finite number -/
  toRat? : R → Option Rat
  /-- strictly below, false when either side is no number -/
  lt : R → R → Bool
  /-- at most, false when either side is no number -/
  le : R → R → Bool
  /-- a total order on all values, for sorting -/
  ordered : R → R → Bool
  /-- the square root -/
  sqrt : R → R
  /-- the nearest number of single precision -/
  toSingle : R → R
  /-- what the shortest text of a number of single precision reads as -/
  ofSingle : R → R
  /-- the text to a fixed number of places, with a plus sign on request -/
  places : Nat → R → Bool → String

export Scalar (ofInt)

section
variable {R : Type} [Scalar R]

/-- A value is finite exactly when it has an exact value. -/
def Scalar.isFinite (x : R) : Bool := (Scalar.toRat? x).isSome

/-- Zero. -/
def Scalar.zero : R := ofInt 0

/-- One. -/
def Scalar.one : R := ofInt 1

/-- The quotient of two naturals, each taken into the number system first. -/
def Scalar.quotient (numerator denominator : Nat) : R :=
  ofInt numerator / ofInt denominator

/-- The greatest natural at most `x`; zero where there is none. -/
def Scalar.floorNat (x : R) : Nat :=
  match Scalar.toRat? x with
  | some q => q.floor.toNat
  | none => 0

/-- The least natural at least `x`; zero where there is none. -/
def Scalar.ceilNat (x : R) : Nat :=
  match Scalar.toRat? x with
  | some q => q.ceil.toNat
  | none => 0

end

/-- **The exact value of a finite double.** -/
def doubleToRat? (x : Float) : Option Rat :=
  if isFiniteDouble x then
    let magnitude := (Binary.ofDoubleBits x.toBits).toRat
    some (if isNegativeDouble x then -magnitude else magnitude)
  else none

/-- **A total order on doubles**: by sign, and by magnitude within a sign, so
that `-0.0` stands before `0.0` and an infinity beyond all finite numbers. -/
def doubleOrderKey (x : Float) : Int :=
  let bits := x.toBits.toNat
  if bits < range63 then bits else -((bits - range63 : Nat) : Int) - 1

/-- **A single as a double of the same text**: the double that the fewest digits
of the single read as. -/
def ofSingleText (x : Float) : Float :=
  let bits := x.toFloat32.toBits
  if isFiniteDouble x.toFloat32.toFloat then
    let magnitude := (Binary.ofSingleBits bits).shortest.toDouble
    if (bits >>> 31) != 0 then -magnitude else magnitude
  else x.toFloat32.toFloat

instance : Scalar Float where
  ofInt := Float.ofInt
  toRat? := doubleToRat?
  lt x y := decide (x < y)
  le x y := decide (x ≤ y)
  ordered x y := decide (doubleOrderKey x ≤ doubleOrderKey y)
  sqrt := Float.sqrt
  toSingle x := x.toFloat32.toFloat
  ofSingle := ofSingleText
  places n x plus := placesText n x plus

end HttpBench.Number
