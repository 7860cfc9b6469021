import Mathlib.Data.Rat.Cast.Order
import Mathlib.Tactic.NormNum
import HttpBench.Time.Duration

/-!
# Exact numbers

Figures are written for any number system. In one that loses nothing (`Number.Exact`) integers, sums and
quotients of finite values are what they are among the rationals, and a value of single precision comes
back from its text. The rationals themselves are such a system; doubles are not.

In an exact number system a duration comes back from its milliseconds (`Duration.ofMillis_toMillis`).
-/

namespace HttpBench

namespace Number

/-- **A number system that loses nothing.** -/
class Exact (R : Type) [Scalar R] : Prop where
  toRat_ofInt : ∀ n : Int, Scalar.toRat? (ofInt n : R) = some (n : Rat)
  toRat_div : ∀ {x y : R} {p q : Rat}, Scalar.toRat? x = some p → Scalar.toRat? y = some q → q ≠ 0 →
    Scalar.toRat? (x / y) = some (p / q)
  lt_iff : ∀ {x y : R} {p q : Rat}, Scalar.toRat? x = some p → Scalar.toRat? y = some q →
    (Scalar.lt x y = true ↔ p < q)
  toSingle_ofSingle : ∀ {x : R}, Scalar.isFinite x = true → Scalar.toSingle x = x →
    Scalar.isFinite (Scalar.ofSingle x) = true ∧ Scalar.toSingle (Scalar.ofSingle x) = x

/-- The text of a rational to a fixed number of places, a tie going to the even neighbour. -/
def rationalText (places : Nat) (q : Rat) (plus : Bool) : String :=
  (if q < 0 then "-" else if plus then "+" else "") ++
    pointText (roundQuotient (q.num.natAbs * Nat.pow 10 places) q.den) places

/-- The square root of a rational whose numerator and denominator are squares, and otherwise what is left
when each of them is rounded down to one. -/
def rationalRoot (q : Rat) : Rat := (q.num.toNat.sqrt : Rat) / (q.den.sqrt : Rat)

/-- **The rationals** as a number system: all of them are finite. -/
instance : Scalar Rat where
  ofInt n := n
  toRat? := some
  lt x y := decide (x < y)
  le x y := decide (x ≤ y)
  ordered x y := decide (x ≤ y)
  sqrt := rationalRoot
  toSingle := id
  ofSingle := id
  places := rationalText

instance : Exact Rat where
  toRat_ofInt _ := rfl
  toRat_div := by
    rintro x y p q ⟨rfl⟩ ⟨rfl⟩ _
    rfl
  lt_iff := by
    rintro x y p q ⟨rfl⟩ ⟨rfl⟩
    exact decide_eq_true_iff
  toSingle_ofSingle _ _ := ⟨rfl, rfl⟩

/-- **A number system that computes exactly** with its finite values: it adds, subtracts, multiplies and compares
them as the rationals that they are. -/
class ExactArithmetic (R : Type) [Scalar R] : Prop extends Exact R where
  toRat_add : ∀ {x y : R} {p q : Rat}, Scalar.toRat? x = some p → Scalar.toRat? y = some q →
    Scalar.toRat? (x + y) = some (p + q)
  toRat_sub : ∀ {x y : R} {p q : Rat}, Scalar.toRat? x = some p → Scalar.toRat? y = some q →
    Scalar.toRat? (x - y) = some (p - q)
  toRat_mul : ∀ {x y : R} {p q : Rat}, Scalar.toRat? x = some p → Scalar.toRat? y = some q →
    Scalar.toRat? (x * y) = some (p * q)
  le_iff : ∀ {x y : R} {p q : Rat}, Scalar.toRat? x = some p → Scalar.toRat? y = some q →
    (Scalar.le x y = true ↔ p ≤ q)
  ordered_iff : ∀ {x y : R} {p q : Rat}, Scalar.toRat? x = some p → Scalar.toRat? y = some q →
    (Scalar.ordered x y = true ↔ p ≤ q)

instance : ExactArithmetic Rat where
  toRat_add := by
    rintro x y p q ⟨rfl⟩ ⟨rfl⟩
    rfl
  toRat_sub := by
    rintro x y p q ⟨rfl⟩ ⟨rfl⟩
    rfl
  toRat_mul := by
    rintro x y p q ⟨rfl⟩ ⟨rfl⟩
    rfl
  le_iff := by
    rintro x y p q ⟨rfl⟩ ⟨rfl⟩
    exact decide_eq_true_iff
  ordered_iff := by
    rintro x y p q ⟨rfl⟩ ⟨rfl⟩
    exact decide_eq_true_iff

/-- **A rational, or no number.** -/
inductive PartialRat where
  | number (q : Rat)
  | undefined
deriving DecidableEq

namespace PartialRat

/-- The rational, if it is one. -/
def toRat? : PartialRat → Option Rat
  | number q => some q
  | undefined => none

/-- An operation on rationals; what is no number makes no number. -/
def lift (f : Rat → Rat → Rat) : PartialRat → PartialRat → PartialRat
  | number p, number q => number (f p q)
  | _, _ => undefined

/-- A comparison of rationals, which fails on what is no number. -/
def compares (f : Rat → Rat → Bool) : PartialRat → PartialRat → Bool
  | number p, number q => f p q
  | _, _ => false

/-- What is no number stands behind all numbers. -/
def ordered : PartialRat → PartialRat → Bool
  | number p, number q => p ≤ q
  | _, undefined => true
  | undefined, number _ => false

variable {x y : PartialRat} {p q : Rat}

theorem eq_number (hx : x.toRat? = some p) : x = number p := by
  cases x with
  | number q => exact congrArg number (Option.some.inj hx)
  | undefined => cases hx

theorem toRat?_lift (f : Rat → Rat → Rat) (hx : x.toRat? = some p) (hy : y.toRat? = some q) :
    (lift f x y).toRat? = some (f p q) := by
  rw [eq_number hx, eq_number hy]
  rfl

theorem compares_iff (r : Rat → Rat → Prop) [DecidableRel r] (hx : x.toRat? = some p) (hy : y.toRat? = some q) :
    compares (fun p q => r p q) x y = true ↔ r p q := by
  rw [eq_number hx, eq_number hy]
  exact decide_eq_true_iff

theorem ordered_iff (hx : x.toRat? = some p) (hy : y.toRat? = some q) : ordered x y = true ↔ p ≤ q := by
  rw [eq_number hx, eq_number hy]
  exact decide_eq_true_iff

end PartialRat

/-- **The rationals with a value that is no number**, as a number system. -/
instance : Scalar PartialRat where
  ofInt n := .number n
  toRat? := PartialRat.toRat?
  add := PartialRat.lift (· + ·)
  sub := PartialRat.lift (· - ·)
  mul := PartialRat.lift (· * ·)
  div := PartialRat.lift (· / ·)
  lt := PartialRat.compares fun p q => p < q
  le := PartialRat.compares fun p q => p ≤ q
  ordered := PartialRat.ordered
  sqrt
    | .number q => .number (rationalRoot q)
    | .undefined => .undefined
  toSingle := id
  ofSingle := id
  places n x plus :=
    match x with
    | .number q => rationalText n q plus
    | .undefined => "NaN"

instance : ExactArithmetic PartialRat where
  toRat_ofInt _ := rfl
  toRat_div hx hy _ := PartialRat.toRat?_lift (· / ·) hx hy
  lt_iff := PartialRat.compares_iff (· < ·)
  toSingle_ofSingle hx _ := ⟨hx, rfl⟩
  toRat_add := PartialRat.toRat?_lift (· + ·)
  toRat_sub := PartialRat.toRat?_lift (· - ·)
  toRat_mul := PartialRat.toRat?_lift (· * ·)
  le_iff := PartialRat.compares_iff (· ≤ ·)
  ordered_iff := PartialRat.ordered_iff

/-- A quotient that is a natural number is rounded to it. -/
theorem roundQuotient_mul (n : Nat) {d : Nat} (hd : 0 < d) : roundQuotient (n * d) d = n := by
  simp only [roundQuotient, Nat.mul_mod_left, Nat.mul_zero, Nat.mul_div_cancel n hd]
  rw [if_pos hd]

/-- The numerator of a quotient of naturals against its denominator. -/
theorem num_mul_of_div {n d : Nat} {q : Rat} (hd : 0 < d) (hq : q = (n : Rat) / d) :
    q.num.toNat * d = n * q.den := by
  have hpos : (0 : Rat) < d := by exact_mod_cast hd
  have hmul : q * d = n := by rw [hq, div_mul_cancel₀ _ hpos.ne']
  have hnum : 0 ≤ q.num := by
    rw [Rat.num_nonneg, hq]
    exact div_nonneg (Nat.cast_nonneg n) hpos.le
  have hcross : (q.num : Rat) * d = n * q.den := by
    calc (q.num : Rat) * d = q * q.den * d := by rw [Rat.mul_den_eq_num]
      _ = q * d * q.den := mul_right_comm _ _ _
      _ = n * q.den := by rw [hmul]
  have hint : q.num * (d : Int) = n * q.den := by exact_mod_cast hcross
  rw [← Int.toNat_of_nonneg hnum] at hint
  exact_mod_cast hint

end Number

namespace Duration

open Number

variable {R : Type} [Scalar R] [Exact R]

theorem toRat_toMillis (d : Duration) : Scalar.toRat? (d.toMillis : R) = some (d.nanos / 1000000 : Rat) := by
  have hdiv := Exact.toRat_div (Exact.toRat_ofInt (R := R) d.nanos) (Exact.toRat_ofInt 1000000) (by norm_num)
  simpa [toMillis] using hdiv

theorem isFinite_toMillis (d : Duration) : Scalar.isFinite (d.toMillis : R) = true := by
  rw [Scalar.isFinite, toRat_toMillis]
  rfl

/-- **A duration comes back from its milliseconds.** -/
theorem ofMillis_toMillis (d : Duration) (h : d.nanos ≤ longest.nanos) : ofMillis (d.toMillis : R) = d := by
  have hzero : Scalar.toRat? (Scalar.zero : R) = some 0 := Exact.toRat_ofInt (R := R) 0
  have hlt := Exact.lt_iff hzero (toRat_toMillis (R := R) d)
  unfold ofMillis
  rw [isFinite_toMillis, Bool.true_and]
  rcases Nat.eq_zero_or_pos d.nanos with hnone | hsome
  · have hnot : ¬ (0 : Rat) < d.nanos / 1000000 := by simp [hnone]
    rw [if_neg (mt hlt.mp hnot)]
    exact congrArg Duration.mk hnone.symm
  · have hpositive : (0 : Rat) < d.nanos / 1000000 :=
      div_pos (by exact_mod_cast hsome) (by norm_num)
    have hseconds := Exact.toRat_div (toRat_toMillis (R := R) d) (Exact.toRat_ofInt 1000) (by norm_num)
    have hquotient : (d.nanos / 1000000 : Rat) / ((1000 : Int) : Rat) = (d.nanos : Rat) / (1000000000 : Nat) := by
      rw [div_div]
      norm_num
    rw [hquotient] at hseconds
    have hnanos := num_mul_of_div (n := d.nanos) (d := 1000000000) (by norm_num) rfl
    simp only [if_pos (hlt.mpr hpositive), hseconds, hnanos, roundQuotient_mul _ (Rat.den_pos _), if_pos h]

end Duration

end HttpBench
