import Mathlib
import HttpBench.Proofs.Number.Exact

/-!
# Rounding

The model of a double rounds by shifting: of what is shifted out it keeps one place and whether anything stands behind
it. That is enough to know the quotient that is left (`Number.extended`), so however a quotient is come by, as a
natural number, as a product or as a quotient of mantissas, it is rounded once: to the nearest mantissa of 53 places,
or of fewer at the least exponent, and to the even one of two that are as near (`Number.round_rounds`).

Rounding keeps numbers in order (`Number.RoundsTo.value_le`) and adds no more than half of the last place
(`Number.RoundsTo.value_le_mul`).
-/

namespace HttpBench.Number

open Float.Model Float.Model.UnpackedFloat

/-! ## Rounded quotients -/

section
variable {a d a' d' : Nat}

theorem div_le_roundQuotient (a d : Nat) : a / d ≤ roundQuotient a d := by
  unfold roundQuotient
  dsimp only
  split_ifs <;> omega

theorem roundQuotient_le (a d : Nat) : roundQuotient a d ≤ a / d + 1 := by
  unfold roundQuotient
  dsimp only
  split_ifs <;> omega

/-- Rounding adds at most one half. -/
theorem two_mul_roundQuotient_le (a d : Nat) : 2 * roundQuotient a d * d ≤ 2 * a + d := by
  have hparts := Nat.div_add_mod a d
  have hmul : 2 * (a / d) * d = 2 * (d * (a / d)) := by rw [Nat.mul_assoc, Nat.mul_comm (a / d)]
  have hnext : 2 * (a / d + 1) * d = 2 * (d * (a / d)) + 2 * d := by rw [Nat.mul_succ, Nat.add_mul, hmul]
  unfold roundQuotient
  dsimp only
  split_ifs <;> omega

/-- Of quotients that are the same but for the remainder, the greater one is rounded to no less. -/
theorem roundQuotient_le_of_remainder (hd : 0 < d) (hd' : 0 < d') (hquotient : a / d = a' / d')
    (hremainder : a % d * d' ≤ a' % d' * d) : roundQuotient a d ≤ roundQuotient a' d' := by
  have hless : d < 2 * (a % d) → d' < 2 * (a' % d') := fun h => by
    have hlow : d * d' < 2 * (a % d) * d' := Nat.mul_lt_mul_of_pos_right h hd'
    have hhigh : d' * d < 2 * (a' % d') * d := by linarith [Nat.mul_comm d d']
    exact Nat.lt_of_mul_lt_mul_right hhigh
  have hmost : d ≤ 2 * (a % d) → d' ≤ 2 * (a' % d') := fun h => by
    have hlow : d * d' ≤ 2 * (a % d) * d' := Nat.mul_le_mul_right _ h
    have hhigh : d' * d ≤ 2 * (a' % d') * d := by linarith [Nat.mul_comm d d']
    exact Nat.le_of_mul_le_mul_right hhigh hd
  unfold roundQuotient
  dsimp only
  rw [← hquotient]
  split_ifs <;> omega

/-- **Rounding keeps quotients in order.** -/
theorem roundQuotient_le_roundQuotient (hd : 0 < d) (hd' : 0 < d') (h : a * d' ≤ a' * d) :
    roundQuotient a d ≤ roundQuotient a' d' := by
  have hle : a / d ≤ a' / d' := by
    rw [Nat.le_div_iff_mul_le hd']
    refine Nat.le_of_mul_le_mul_right ?_ hd
    calc a / d * d' * d = a / d * d * d' := Nat.mul_right_comm _ _ _
      _ ≤ a * d' := Nat.mul_le_mul_right _ (Nat.div_mul_le_self a d)
      _ ≤ a' * d := h
  rcases hle.eq_or_lt with hsame | hless
  · refine roundQuotient_le_of_remainder hd hd' hsame ?_
    rw [← Nat.div_add_mod a d, ← Nat.div_add_mod a' d', ← hsame] at h
    linarith [Nat.mul_comm d d', Nat.mul_right_comm d (a / d) d', Nat.mul_right_comm d' (a / d) d]
  · exact (roundQuotient_le a d).trans ((Nat.succ_le_of_lt hless).trans (div_le_roundQuotient a' d'))

end

/-! ## What is kept of a quotient -/

/-- **A quotient as it is kept**: its whole part, whether the rest is at least one half, and whether it is neither
that nor nothing. -/
def extended (a d : Nat) : ExtendedMantissa :=
  ⟨a / d, decide (d ≤ 2 * (a % d)), decide (a % d ≠ 0 ∧ 2 * (a % d) ≠ d)⟩

section
variable {a d : Nat}

theorem extended_one (a : Nat) : ExtendedMantissa.ofMantissaAndAccuracy a .exact = extended a 1 := by
  simp [ExtendedMantissa.ofMantissaAndAccuracy, extended, Nat.mod_one]

/-- A remainder says how far a quotient is from its whole part. -/
theorem extended_quotient (a : Nat) (hd : 0 < d) :
    ExtendedMantissa.ofMantissaAndAccuracy (a / d) (accuracyOfFraction (a % d) d) = extended a d := by
  unfold accuracyOfFraction extended
  split
  next hnone => simp [ExtendedMantissa.ofMantissaAndAccuracy, hnone, hd.ne']
  next hsome =>
    rcases lt_trichotomy (2 * (a % d)) d with h | h | h
    · simp [ExtendedMantissa.ofMantissaAndAccuracy, Nat.compare_eq_lt.mpr h, hsome, h.ne, h]
    · simp [ExtendedMantissa.ofMantissaAndAccuracy, h]
    · simp [ExtendedMantissa.ofMantissaAndAccuracy, Nat.compare_eq_gt.mpr h, hsome, h.ne', h.le]

/-- To shift a quotient is to halve it. -/
theorem shiftRightOne_extended (a : Nat) (hd : 0 < d) : (extended a d).shiftRightOne = extended a (d * 2) := by
  have hrest := Nat.mod_lt a hd
  simp only [extended, ExtendedMantissa.shiftRightOne, ExtendedMantissa.mk.injEq, Nat.div_div_eq_div_mul, Nat.mod_mul,
    true_and]
  have hbit := Nat.mod_two_eq_zero_or_one (a / d)
  refine ⟨Bool.eq_iff_iff.mpr ?_, Bool.eq_iff_iff.mpr ?_⟩
  · rw [bne_iff_ne, decide_eq_true_iff]
    rcases hbit with hbit | hbit <;> rw [hbit] <;> omega
  · rw [Bool.or_eq_true, decide_eq_true_iff, decide_eq_true_iff, decide_eq_true_iff]
    rcases hbit with hbit | hbit <;> rw [hbit] <;> omega

theorem shiftRight_extended (a : Nat) (hd : 0 < d) (k : Nat) : extended a d >>> k = extended a (d * 2 ^ k) := by
  induction k with
  | zero => rw [Nat.pow_zero, Nat.mul_one]; rfl
  | succ k ih =>
    have hshift : extended a d >>> (k + 1) = (extended a d >>> k).shiftRightOne := rfl
    rw [hshift, ih, shiftRightOne_extended a (Nat.mul_pos hd (Nat.two_pow_pos k)), Nat.mul_assoc, Nat.pow_succ]

theorem roundedMantissa_eq (em : ExtendedMantissa) : em.roundedMantissa =
    if em.roundBit then if em.stickyBit then em.mantissa + 1 else em.mantissa + em.mantissa % 2 else em.mantissa := by
  obtain ⟨m, _ | _, _ | _⟩ := em <;> rfl

/-- **What is kept** is enough to round by. -/
theorem roundedMantissa_extended (a : Nat) (hd : 0 < d) : (extended a d).roundedMantissa = roundQuotient a d := by
  rw [roundedMantissa_eq]
  simp only [extended, roundQuotient, decide_eq_true_eq, beq_iff_eq]
  split_ifs <;> omega

end

/-! ## Rounded numbers -/

theorem value_nonneg (m : Nat) (e : Int) : (0 : Rat) ≤ m * 2 ^ e :=
  mul_nonneg (Nat.cast_nonneg m) (zpow_nonneg zero_le_two e)

theorem value_pos {m : Nat} (hpos : 0 < m) (e : Int) : (0 : Rat) < m * 2 ^ e :=
  mul_pos (by exact_mod_cast hpos) (zpow_pos two_pos e)

/-- **A number rounded** to a mantissa before its exponent. The number has 53 places before that exponent, or fewer if
there is none below. -/
structure RoundsTo (x : Rat) (m : Nat) (e : Int) : Prop where
  least : -1074 ≤ e
  quotient : ∃ a d : Nat, 0 < d ∧ (2 ^ 52 * d ≤ a ∨ e = -1074) ∧ a < 2 ^ 53 * d ∧ (a : Rat) / d * 2 ^ e = x ∧
    roundQuotient a d = m

namespace RoundsTo

variable {x x' : Rat} {m m' : Nat} {e e' : Int}

theorem bounds (h : RoundsTo x m e) : (2 ^ 52 ≤ m ∨ e = -1074) ∧ m ≤ 2 ^ 53 := by
  obtain ⟨_, a, d, hd, hlow, hhigh, _, rfl⟩ := h
  have hceil : a / d < 2 ^ 53 := (Nat.div_lt_iff_lt_mul hd).mpr hhigh
  refine ⟨hlow.imp_left fun hlow => ?_, (roundQuotient_le a d).trans hceil⟩
  exact ((Nat.le_div_iff_mul_le hd).mpr hlow).trans (div_le_roundQuotient a d)

/-- A number lies below the end of what its exponent reaches. -/
theorem lt (h : RoundsTo x m e) : x < (2 : Rat) ^ 53 * 2 ^ e := by
  obtain ⟨_, a, d, hd, _, hhigh, rfl, _⟩ := h
  refine mul_lt_mul_of_pos_right ?_ (zpow_pos two_pos e)
  rw [div_lt_iff₀ (by exact_mod_cast hd)]
  exact_mod_cast hhigh

/-- It does not lie below its beginning, unless the exponent is the least. -/
theorem le (h : RoundsTo x m e) (he : -1074 < e) : (2 : Rat) ^ 52 * 2 ^ e ≤ x := by
  obtain ⟨_, a, d, hd, hlow, _, rfl, _⟩ := h
  refine mul_le_mul_of_nonneg_right ?_ (zpow_nonneg zero_le_two e)
  rw [le_div_iff₀ (by exact_mod_cast hd)]
  exact_mod_cast hlow.resolve_right he.ne'

/-- A mantissa of 53 places is rounded to itself, and before the least exponent a shorter one. -/
theorem self (hlow : 2 ^ 52 ≤ m ∨ e = -1074) (hhigh : m < 2 ^ 53) (he : -1074 ≤ e) : RoundsTo (m * 2 ^ e) m e :=
  ⟨he, m, 1, Nat.one_pos, hlow.imp_left fun hlow => by omega, by omega, by rw [Nat.cast_one, div_one],
    by simpa using roundQuotient_mul m Nat.one_pos⟩

theorem exponent_le (h : RoundsTo x m e) (h' : RoundsTo x' m' e') (hle : x ≤ x') : e ≤ e' := by
  by_contra hgreater
  have hleast := h'.least
  have hpower : (2 : Rat) ^ (e' + 1) ≤ 2 ^ e := zpow_le_zpow_right₀ one_le_two (by omega)
  rw [zpow_add_one₀ two_ne_zero] at hpower
  linarith [h.le (by omega), h'.lt]

theorem value_of_power (i : Int) : ((2 ^ 52 : Nat) : Rat) * 2 ^ (i - 52) = 2 ^ i := by
  rw [Nat.cast_pow, Nat.cast_ofNat, ← zpow_natCast, ← zpow_add₀ two_ne_zero]
  exact congrArg _ (by omega)

/-- A power of two is rounded to itself. -/
theorem power {i : Int} (hi : -1022 ≤ i) : RoundsTo (2 ^ i) (2 ^ 52) (i - 52) :=
  value_of_power i ▸ self (.inl le_rfl) (by norm_num) (by omega)

theorem mantissa_le (h : RoundsTo x m e) (h' : RoundsTo x' m' e) (hle : x ≤ x') : m ≤ m' := by
  obtain ⟨_, a, d, hd, _, _, rfl, rfl⟩ := h
  obtain ⟨_, a', d', hd', _, _, rfl, rfl⟩ := h'
  have hquotient := le_of_mul_le_mul_right hle (zpow_pos two_pos e)
  rw [div_le_div_iff₀ (by exact_mod_cast hd) (by exact_mod_cast hd')] at hquotient
  exact roundQuotient_le_roundQuotient hd hd' (by exact_mod_cast hquotient)

/-- **Rounding keeps numbers in order**, even where the smaller one is rounded up to the next exponent. -/
theorem value_le (h : RoundsTo x m e) (h' : RoundsTo x' m' e') (hle : x ≤ x') :
    (m : Rat) * 2 ^ e ≤ m' * 2 ^ e' := by
  rcases (exponent_le h h' hle).eq_or_lt with rfl | hless
  · exact mul_le_mul_of_nonneg_right (by exact_mod_cast mantissa_le h h' hle) (zpow_nonneg zero_le_two e)
  · have hleast := h.least
    have hlow : ((2 ^ 52 : Nat) : Rat) ≤ m' := by exact_mod_cast h'.bounds.1.resolve_right (by omega)
    have hhigh : (m : Rat) ≤ (2 ^ 53 : Nat) := by exact_mod_cast h.bounds.2
    have hpower : (2 : Rat) ^ (e + 1) ≤ 2 ^ e' := zpow_le_zpow_right₀ one_le_two hless
    calc (m : Rat) * 2 ^ e ≤ (2 ^ 53 : Nat) * 2 ^ e := mul_le_mul_of_nonneg_right hhigh (zpow_nonneg zero_le_two e)
      _ = (2 ^ 52 : Nat) * 2 ^ (e + 1) := by
        rw [zpow_add_one₀ two_ne_zero]
        push_cast
        ring
      _ ≤ (2 ^ 52 : Nat) * 2 ^ e' := mul_le_mul_of_nonneg_left hpower (Nat.cast_nonneg _)
      _ ≤ m' * 2 ^ e' := mul_le_mul_of_nonneg_right hlow (zpow_nonneg zero_le_two e')

/-- **A power of two** that bounds a number bounds what it is rounded to. -/
theorem value_le_power (h : RoundsTo x m e) {i : Int} (hi : -1022 ≤ i) (hx : x ≤ 2 ^ i) : (m : Rat) * 2 ^ e ≤ 2 ^ i :=
  value_of_power i ▸ h.value_le (power hi) hx

theorem power_le_value (h : RoundsTo x m e) {i : Int} (hi : -1022 ≤ i) (hx : 2 ^ i ≤ x) : 2 ^ i ≤ (m : Rat) * 2 ^ e :=
  value_of_power i ▸ (power hi).value_le h hx

/-- **A number is rounded in one way**, though what is rounded up to the next power of two is written in two. -/
theorem value_unique (h : RoundsTo x m e) (h' : RoundsTo x m' e') : (m : Rat) * 2 ^ e = m' * 2 ^ e' :=
  (h.value_le h' le_rfl).antisymm (h'.value_le h le_rfl)

/-- **A natural number below `2 ^ 53`** is rounded to itself. -/
theorem value_of_whole {n : Nat} (h : RoundsTo n m e) (hroom : n < 2 ^ 53) : (m : Rat) * 2 ^ e = n := by
  rcases Nat.eq_zero_or_pos n with rfl | hpos
  · have hself := self (m := 0) (e := -1074) (.inr rfl) (Nat.two_pow_pos 53) le_rfl
    rw [Nat.cast_zero, zero_mul, ← Nat.cast_zero] at hself
    rw [h.value_unique hself, Nat.cast_zero, zero_mul]
  · -- shifted to all 53 places, the number is a mantissa
    have hplaces : n.log2 ≤ 52 := Nat.le_of_lt_succ ((Nat.log2_lt hpos.ne').mpr hroom)
    have hlow : 2 ^ 52 ≤ n * 2 ^ (52 - n.log2) := by
      have hle := Nat.mul_le_mul_right (2 ^ (52 - n.log2)) (Nat.log2_self_le hpos.ne')
      rwa [← Nat.pow_add, Nat.add_sub_cancel' hplaces] at hle
    have hhigh : n * 2 ^ (52 - n.log2) < 2 ^ 53 := by
      have hlt := Nat.mul_lt_mul_of_pos_right (Nat.lt_log2_self (n := n)) (Nat.two_pow_pos (52 - n.log2))
      rwa [← Nat.pow_add, show n.log2 + 1 + (52 - n.log2) = 53 by omega] at hlt
    have hvalue : ((n * 2 ^ (52 - n.log2) : Nat) : Rat) * 2 ^ (-((52 - n.log2 : Nat) : Int)) = n := by
      rw [zpow_neg, zpow_natCast, Nat.cast_mul, Nat.cast_pow, Nat.cast_ofNat]
      exact mul_inv_cancel_right₀ (pow_ne_zero _ two_ne_zero) _
    have hself := self (e := -((52 - n.log2 : Nat) : Int)) (.inl hlow) hhigh (by omega)
    rw [hvalue] at hself
    rw [h.value_unique hself, hvalue]

/-- **Rounding adds** at most half of the last of 53 places. -/
theorem value_le_mul (h : RoundsTo x m e) (hx : 2 ^ (-1022 : Int) ≤ x) :
    (m : Rat) * 2 ^ e ≤ x * (1 + 1 / 2 ^ 53) := by
  obtain ⟨_, a, d, hd, hlow, _, rfl, rfl⟩ := h
  have hpos : (0 : Rat) < d := by exact_mod_cast hd
  have hhalf : 2 * (roundQuotient a d : Rat) * d ≤ 2 * a + d := by exact_mod_cast two_mul_roundQuotient_le a d
  have hlow : (2 : Rat) ^ 52 * d ≤ a := by
    rcases hlow with hlow | rfl
    · exact_mod_cast hlow
    · have hpower : (2 : Rat) ^ (-1022 : Int) = 2 ^ 52 * 2 ^ (-1074 : Int) := by
        rw [← zpow_natCast, ← zpow_add₀ two_ne_zero]
        rfl
      rw [hpower] at hx
      rw [← le_div_iff₀ hpos]
      exact le_of_mul_le_mul_right hx (zpow_pos two_pos _)
  have hround : (roundQuotient a d : Rat) ≤ a / d * (1 + 1 / 2 ^ 53) := by
    rw [div_mul_eq_mul_div, le_div_iff₀ hpos]
    linarith
  calc (roundQuotient a d : Rat) * 2 ^ e ≤ a / d * (1 + 1 / 2 ^ 53) * 2 ^ e :=
        mul_le_mul_of_nonneg_right hround (zpow_nonneg zero_le_two e)
    _ = a / d * 2 ^ e * (1 + 1 / 2 ^ 53) := mul_right_comm _ _ _

end RoundsTo

/-- What is rounded to `2 ^ 53` is half of that, and the exponent one more. -/
def carried (m : Nat) (e : Int) : Nat × Int := if m = 2 ^ 53 then (2 ^ 52, e + 1) else (m, e)

theorem carried_value (m : Nat) (e : Int) : ((carried m e).1 : Rat) * 2 ^ (carried m e).2 = m * 2 ^ e := by
  unfold carried
  split
  next h =>
    rw [h, zpow_add_one₀ two_ne_zero]
    push_cast
    ring
  next => rfl

theorem RoundsTo.carried_bounds {x : Rat} {m : Nat} {e : Int} (h : RoundsTo x m e) :
    (2 ^ 52 ≤ (carried m e).1 ∨ (carried m e).2 = -1074) ∧ (carried m e).1 < 2 ^ 53 ∧ -1074 ≤ (carried m e).2 := by
  obtain ⟨hlow, hhigh⟩ := h.bounds
  have hleast := h.least
  unfold carried
  split_ifs
  · exact ⟨.inl le_rfl, by norm_num, by omega⟩
  · exact ⟨hlow, by omega, hleast⟩

/-! ## Mantissas -/

/-- What comes of rounding: no number without a mantissa. -/
def rounded (s : Sign) (m : Nat) (e : Int) : UnpackedFloat :=
  if h : m = 0 then .zero s else .finite s m e (Nat.pos_of_ne_zero h)

theorem targetExponent_totalExponent (n : Nat) (e : Int) :
    Format.binary64.targetExponent (totalExponent n e) = max (n.log2 + e - 52) (-1074) := by
  have htotal : (n.log2 : Int) + 1 + e - 53 = n.log2 + e - 52 := by omega
  exact congrArg (max · (-1074)) htotal

section
variable {s : Sign} {n a d k : Nat} {e : Int} {accuracy : Accuracy}

theorem log2_eq (hlow : 2 ^ k ≤ n) (hhigh : n < 2 ^ (k + 1)) : n.log2 = k :=
  (Nat.log2_eq_iff (by have := Nat.two_pow_pos k; omega)).mpr ⟨hlow, hhigh⟩

/-- **A mantissa is shifted** to the exponent that it is to have. -/
theorem shift_eq (hd : 0 < d) (hkept : ExtendedMantissa.ofMantissaAndAccuracy n accuracy = extended a d)
    (htarget : max ((n.log2 : Int) + e - 52) (-1074) = e + k) :
    shiftToTargetExponent Format.binary64 n e accuracy = (extended a (d * 2 ^ k), e + k) := by
  simp only [shiftToTargetExponent, shiftToExponent, targetExponent_totalExponent, htarget, add_sub_cancel_left,
    Int.toNat_natCast, hkept, shiftRight_extended a hd k]

/-- What was rounded is shifted again, which carries it. -/
theorem shift_rounded {x : Rat} {r : Nat} (h : RoundsTo x r e) :
    ((shiftToTargetExponent Format.binary64 r e .exact).1.mantissa,
      (shiftToTargetExponent Format.binary64 r e .exact).2) = carried r e := by
  obtain ⟨hlow, hhigh⟩ := h.bounds
  have hleast := h.least
  by_cases hcarry : r = 2 ^ 53
  · have hplaces : r.log2 = 53 := hcarry ▸ Nat.log2_two_pow
    rw [shift_eq (k := 1) Nat.one_pos (extended_one r) (by omega), carried, if_pos hcarry, hcarry]
    rfl
  · have hplaces : r.log2 = 52 ∨ e = -1074 ∧ r.log2 ≤ 52 := by
      rcases hlow with hlow | hlow
      · exact .inl (log2_eq hlow (by omega))
      · refine .inr ⟨hlow, ?_⟩
        rcases Nat.eq_zero_or_pos r with rfl | hpos
        · decide
        · exact Nat.le_of_lt_succ ((Nat.log2_lt hpos.ne').mpr (by omega))
    rw [shift_eq (k := 0) Nat.one_pos (extended_one r) (by omega), carried, if_neg hcarry]
    exact Prod.ext (Nat.div_one r) (Int.add_zero e)

/-- **A number is rounded** to the nearest mantissa of 53 places, or of as many as there are before the least exponent,
and carried if that gets too long. -/
theorem roundWithAccuracy_rounds (s : Sign) (hd : 0 < d)
    (hkept : ExtendedMantissa.ofMantissaAndAccuracy n accuracy = extended a d)
    (he : e ≤ max ((n.log2 : Int) + e - 52) (-1074)) :
    ∃ m e', RoundsTo ((a : Rat) / d * 2 ^ e) m e' ∧
      roundWithAccuracy Format.binary64 s n e accuracy = rounded s (carried m e').1 (carried m e').2 := by
  have hn : n = a / d := by
    have hmantissa := congrArg ExtendedMantissa.mantissa hkept
    cases accuracy with
    | exact => exact hmantissa
    | inexact order => cases order <;> exact hmantissa
  obtain ⟨k, hk⟩ := Int.eq_ofNat_of_zero_le (sub_nonneg.mpr he)
  have htarget : max ((n.log2 : Int) + e - 52) (-1074) = e + k := by omega
  have hpower := Nat.two_pow_pos k
  have hrounds : RoundsTo ((a : Rat) / d * 2 ^ e) (roundQuotient a (d * 2 ^ k)) (e + k) := by
    refine ⟨by omega, a, d * 2 ^ k, Nat.mul_pos hd hpower, ?_, ?_, ?_, rfl⟩
    · rcases eq_or_ne (e + k) (-1074) with hleast | hmore
      · exact .inr hleast
      · refine .inl ?_
        have hplaces : n.log2 = 52 + k := by omega
        have hne : n ≠ 0 := fun hzero => by
          have hnone : n.log2 = 0 := hzero ▸ Nat.log2_zero
          omega
        have hlow := Nat.log2_self_le hne
        rw [hplaces, Nat.pow_add, hn, Nat.le_div_iff_mul_le hd] at hlow
        rwa [Nat.mul_comm d, ← Nat.mul_assoc]
    · have hhigh : n < 2 ^ (53 + k) := Nat.lt_log2_self.trans_le (Nat.pow_le_pow_right two_pos (by omega))
      rw [hn, Nat.div_lt_iff_lt_mul hd, Nat.pow_add] at hhigh
      rwa [Nat.mul_comm d, ← Nat.mul_assoc]
    · rw [zpow_add₀ two_ne_zero, zpow_natCast]
      push_cast
      field_simp
  refine ⟨_, _, hrounds, ?_⟩
  obtain ⟨hmantissa, hexponent⟩ := Prod.mk.inj (shift_rounded hrounds)
  unfold roundWithAccuracy
  rw [shift_eq hd hkept htarget]
  dsimp only
  rw [roundedMantissa_extended a (Nat.mul_pos hd hpower)]
  simp only [hmantissa, hexponent]
  rfl

/-- **A mantissa with its exponent** is rounded, wherever its places lie. -/
theorem round_rounds (s : Sign) (hn : 0 < n) (e : Int) :
    ∃ m e', RoundsTo ((n : Rat) * 2 ^ e) m e' ∧
      UnpackedFloat.round Format.binary64 s n e = rounded s (carried m e').1 (carried m e').2 := by
  simp only [UnpackedFloat.round, decreaseExponent, targetExponent_totalExponent]
  generalize hk : (e - max ((n.log2 : Int) + e - 52) (-1074)).toNat = k
  have hplaces : (n * 2 ^ k).log2 = n.log2 + k := by
    refine log2_eq ?_ ?_
    · rw [Nat.pow_add]
      exact Nat.mul_le_mul_right _ (Nat.log2_self_le hn.ne')
    · rw [Nat.add_right_comm, Nat.pow_add]
      exact Nat.mul_lt_mul_of_pos_right Nat.lt_log2_self (Nat.two_pow_pos k)
  obtain ⟨m, e', hrounds, hround⟩ := roundWithAccuracy_rounds (e := e - k) s Nat.one_pos (extended_one (n * 2 ^ k))
    (by omega)
  have hvalue : ((n * 2 ^ k : Nat) : Rat) / (1 : Nat) * 2 ^ (e - k) = n * 2 ^ e := by
    rw [zpow_sub₀ two_ne_zero, zpow_natCast]
    push_cast
    field_simp
  rw [hvalue] at hrounds
  rw [Nat.shiftLeft_eq]
  exact ⟨m, e', hrounds, hround⟩

end

end HttpBench.Number
