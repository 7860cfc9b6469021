import Mathlib.Data.ENat.Basic
import HttpBench.Proofs.Statistics.Percentiles

/-!
# Shares in order

A share of a whole is the quotient of two naturals, the smaller one by the greater. A number system keeps shares in
order (`Number.OrdersShares`) if the greater one of two never comes out below the other, at least for wholes up to
some limit. Exact arithmetic keeps all of them in order. Doubles do so for wholes below `2 ^ 53`, which takes more to
see and stands in a module of its own.
-/

namespace HttpBench.Number

/-- **A number system that keeps shares in order**, those of wholes up to its limit. -/
class OrdersShares (R : Type) [Scalar R] where
  limit : ℕ∞
  zero_le_zero : Scalar.le (Scalar.zero : R) Scalar.zero = true
  zero_le_share : ∀ {part whole : Nat}, part ≤ whole → 0 < whole → whole ≤ limit →
    Scalar.le (Scalar.zero : R) (Scalar.quotient part whole) = true
  share_le_share : ∀ {part whole part' whole' : Nat}, part ≤ whole → part' ≤ whole' → 0 < whole → 0 < whole' →
    whole ≤ limit → whole' ≤ limit → part * whole' ≤ part' * whole →
      Scalar.le (Scalar.quotient part whole : R) (Scalar.quotient part' whole') = true

variable {R : Type} [Scalar R]

theorem toRat_quotient [Exact R] (part : Nat) {whole : Nat} (h : 0 < whole) :
    Scalar.toRat? (Scalar.quotient part whole : R) = some ((part : Rat) / whole) :=
  Exact.toRat_div (toRat_ofNat part) (toRat_ofNat whole) (by exact_mod_cast h.ne')

/-- **Exact arithmetic** keeps all shares in order. -/
instance [ExactArithmetic R] : OrdersShares R where
  limit := ⊤
  zero_le_zero := (ExactArithmetic.le_iff (toRat_ofNat 0) (toRat_ofNat 0)).mpr le_rfl
  zero_le_share := by
    intro part whole _ hwhole _
    refine (ExactArithmetic.le_iff (toRat_ofNat 0) (toRat_quotient part hwhole)).mpr ?_
    rw [Nat.cast_zero]
    exact div_nonneg (Nat.cast_nonneg _) (Nat.cast_nonneg _)
  share_le_share := by
    intro part whole part' whole' _ _ hwhole hwhole' _ _ hcross
    refine (ExactArithmetic.le_iff (toRat_quotient part hwhole) (toRat_quotient part' hwhole')).mpr ?_
    rw [div_le_div_iff₀ (by exact_mod_cast hwhole) (by exact_mod_cast hwhole')]
    exact_mod_cast hcross

end HttpBench.Number
