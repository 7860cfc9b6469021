import Mathlib
import HttpBench.Proofs.Number.Order
import HttpBench.Proofs.Number.Shares

/-!
# Doubles

To subtract, to multiply or to divide is to round the exact result once (`Number.isRounded_sub`, `Number.isRounded_mul`,
`Number.isRounded_div`), however small or great it is, and a natural number is rounded once as well
(`Number.isRounded_ofNat`). All of this is said of results that are not negative: that is where figures and limits are
compared.

So doubles keep shares of a whole below `2 ^ 53` in order: both naturals are doubles as they are, and rounding keeps
their quotients in order. From `2 ^ 53` on a natural may be rounded before it is divided, and nothing is said of the
order of its shares.
-/

namespace HttpBench.Number

open Float.Model Float.Model.UnpackedFloat

/-! ## Rounded doubles -/

/-- **The double that a number is rounded to**: its place is the rounded number, or that of an infinity if the rounded
number is too great. -/
def IsRounded (x : Float) (q : Rat) : Prop :=
  ∃ m e, RoundsTo q m e ∧ place? x = some (min ((m : Rat) * 2 ^ e) reach)

namespace IsRounded

variable {x y : Float} {p q r : Rat} {m : Nat} {e : Int}

/-- **What comes of rounding** is packed as the rounded number. -/
theorem of_pack (h : RoundsTo q m e)
    (hx : x.toModel = .pack (rounded .positive (carried m e).1 (carried m e).2)) : IsRounded x q := by
  refine ⟨m, e, h, ?_⟩
  have hvalue := carried_value m e
  obtain ⟨hfull, hhigh, hleast⟩ := h.carried_bounds
  rw [place?, hx, ← hvalue]
  generalize (carried m e).1 = m, (carried m e).2 = e at *
  unfold rounded
  split
  next hzero =>
    rw [hzero, Nat.cast_zero, zero_mul, min_eq_left reach_pos.le]
    rfl
  next hsome =>
    rcases le_or_gt e 971 with hmost | hgreat
    · have hcanonical : Canonical m e := ⟨hfull, hhigh, hleast, hmost⟩
      rw [hcanonical.unpack_pack, min_eq_left hcanonical.lt_reach.le]
      rfl
    · have hpower : (2 : Rat) ^ ((971 : Int) + 1) ≤ 2 ^ e := zpow_le_zpow_right₀ one_le_two hgreat
      have hlow : (2 : Rat) ^ 52 ≤ m := by exact_mod_cast hfull.resolve_right (by omega)
      have hreach : reach ≤ m * 2 ^ e :=
        calc reach = 2 ^ 52 * 2 ^ ((971 : Int) + 1) := by
              rw [reach, zpow_add_one₀ two_ne_zero]
              ring
          _ ≤ 2 ^ 52 * 2 ^ e := mul_le_mul_of_nonneg_left hpower (by norm_num)
          _ ≤ m * 2 ^ e := mul_le_mul_of_nonneg_right hlow (zpow_nonneg zero_le_two e)
      rw [unpack_pack_of_great hgreat, min_eq_right hreach]
      rfl

/-- A double is rounded to itself. -/
theorem self (h : Scalar.toRat? x = some q) (hq : 0 < q) : IsRounded x q := by
  obtain ⟨m, e, _, _, hcanonical, rfl⟩ := exists_unpack h hq
  exact ⟨m, e, hcanonical.roundsTo, by rw [place_of_toRat h, min_eq_left hcanonical.lt_reach.le]⟩

/-- Zero is rounded to a zero. -/
theorem zero (h : Scalar.toRat? x = some 0) : IsRounded x 0 := by
  have hself : RoundsTo ((0 : Nat) * 2 ^ (-1074 : Int)) 0 (-1074) := .self (.inr rfl) (by norm_num) le_rfl
  rw [Nat.cast_zero, zero_mul] at hself
  exact ⟨0, -1074, hself, by rw [place_of_toRat h, Nat.cast_zero, zero_mul, min_eq_left reach_pos.le]⟩

/-- **Greater numbers** are rounded to doubles that are no smaller. -/
theorem le (h : IsRounded x q) (h' : IsRounded y r) (hle : q ≤ r) : Scalar.le x y = true := by
  obtain ⟨m, e, hrounds, hplace⟩ := h
  obtain ⟨m', e', hrounds', hplace'⟩ := h'
  exact (le_iff_place hplace hplace').mpr (min_le_min_right _ (hrounds.value_le hrounds' hle))

theorem zero_le (h : IsRounded x q) {zero : Float} (hzero : Scalar.toRat? zero = some 0) :
    Scalar.le zero x = true := by
  obtain ⟨m, e, _, hplace⟩ := h
  refine (le_iff_place (place_of_toRat hzero) hplace).mpr (le_min ?_ reach_pos.le)
  exact value_nonneg m e

/-- A number that is not too great is rounded to a value. -/
theorem toRat (h : IsRounded x q) {i : Int} (hi : -1022 ≤ i ∧ i ≤ 1023) (hq : q ≤ 2 ^ i) :
    ∃ m e, RoundsTo q m e ∧ Scalar.toRat? x = some ((m : Rat) * 2 ^ e) := by
  obtain ⟨m, e, hrounds, hplace⟩ := h
  have hpower : (2 : Rat) ^ (i - 52) ≤ 2 ^ (971 : Int) := zpow_le_zpow_right₀ one_le_two (by omega)
  have hless : (m : Rat) * 2 ^ e < reach :=
    calc (m : Rat) * 2 ^ e ≤ 2 ^ i := hrounds.value_le_power hi.1 hq
      _ = (2 ^ 52 : Nat) * 2 ^ (i - 52) := (RoundsTo.value_of_power i).symm
      _ ≤ (2 ^ 52 : Nat) * 2 ^ (971 : Int) := mul_le_mul_of_nonneg_left hpower (Nat.cast_nonneg _)
      _ < reach := mul_lt_mul_of_pos_right (by norm_num) (zpow_pos two_pos 971)
  rw [min_eq_left hless.le] at hplace
  exact ⟨m, e, hrounds, toRat_of_place hplace (value_nonneg _ _) hless⟩

end IsRounded

/-- A mantissa with its exponent is rounded once. -/
theorem isRounded_round {x : Float} {n : Nat} (hpos : 0 < n) {e : Int}
    (hmodel : x.toModel = .pack (UnpackedFloat.round Format.binary64 .positive n e)) : IsRounded x (n * 2 ^ e) := by
  obtain ⟨m, e', hrounds, hround⟩ := round_rounds .positive hpos e
  exact .of_pack hrounds (hmodel.trans (congrArg _ hround))

/-! ## Differences, products and quotients -/

theorem toModel_sub (x y : Float) :
    (x - y).toModel = .pack (UnpackedFloat.sub Format.binary64 x.toModel.unpack y.toModel.unpack) := rfl

theorem toModel_mul (x y : Float) :
    (x * y).toModel = .pack (UnpackedFloat.mul Format.binary64 x.toModel.unpack y.toModel.unpack) := rfl

theorem toModel_div (x y : Float) :
    (x / y).toModel = .pack (UnpackedFloat.div Format.binary64 x.toModel.unpack y.toModel.unpack) := rfl

/-- **A mantissa is divided** after it has been shifted until its quotient has all places, or one before the least
exponent. -/
theorem exists_divCore {m m' : Nat} (hm : 0 < m) (hm' : 0 < m') (e e' : Int) : ∃ k : Nat,
    divCore Format.binary64 m e m' e' =
      (m * 2 ^ k / m', e - e' - k, accuracyOfFraction (m * 2 ^ k % m') m') ∧
    (e - e' - k ≤ -1074 ∨ 52 ≤ (m * 2 ^ k / m').log2) := by
  have htarget : Format.binary64.targetExponent (totalExponent m e - totalExponent m' e') =
      max ((m.log2 : Int) - m'.log2 + e - e' - 53) (-1074) := by
    have htotal : (m.log2 : Int) + 1 + e - (m'.log2 + 1 + e') - 53 = m.log2 - m'.log2 + e - e' - 53 := by omega
    exact congrArg (max · (-1074)) htotal
  generalize hk : (e - e' - min (e - e') (max ((m.log2 : Int) - m'.log2 + e - e' - 53) (-1074))).toNat = k
  refine ⟨k, ?_, ?_⟩
  · simp only [divCore, htarget, hk, Nat.shiftLeft_eq, Prod.mk.injEq, true_and, and_true]
    omega
  · have hplaces : e - e' - k ≤ -1074 ∨ m'.log2 + 53 ≤ m.log2 + k := by omega
    refine hplaces.imp_right fun hplaces => ?_
    have hmany : 2 ^ 52 ≤ m * 2 ^ k / m' := by
      rw [Nat.le_div_iff_mul_le hm']
      calc 2 ^ 52 * m' ≤ 2 ^ 52 * 2 ^ (m'.log2 + 1) := Nat.mul_le_mul_left _ Nat.lt_log2_self.le
        _ = 2 ^ (m'.log2 + 53) := by rw [← Nat.pow_add]; congr 1; omega
        _ ≤ 2 ^ (m.log2 + k) := Nat.pow_le_pow_right two_pos hplaces
        _ = 2 ^ m.log2 * 2 ^ k := Nat.pow_add ..
        _ ≤ m * 2 ^ k := Nat.mul_le_mul_right _ (Nat.log2_self_le hm.ne')
    exact (Nat.le_log2 (by omega)).mpr hmany

section
variable {x y : Float} {p q : Rat} (hp : Scalar.toRat? x = some p) (hq : Scalar.toRat? y = some q)
include hp hq

/-- **A difference of doubles** is rounded once. -/
theorem isRounded_sub (hpos : 0 < p) (hless : q < p) : IsRounded (x - y) (p - q) := by
  obtain ⟨m, e, hm, hunpack, hcanonical, hvalue⟩ := exists_unpack hp hpos
  rw [toRat_eq] at hq
  rcases hunpack' : y.toModel.unpack with _ | _ | s | ⟨s, m', e', hm'⟩ <;> rw [hunpack'] at hq <;> cases hq
  case zero =>
    refine ⟨m, e, by rw [sub_zero, ← hvalue]; exact hcanonical.roundsTo, ?_⟩
    have hsame : (x - y).toModel = .pack (.finite .positive m e hm) := by
      rw [toModel_sub, hunpack, hunpack']
      rfl
    rw [place?, hsame, hcanonical.unpack_pack, min_eq_left hcanonical.lt_reach.le]
    rfl
  case finite =>
    obtain ⟨i, hi⟩ := Int.eq_ofNat_of_zero_le (sub_nonneg.mpr (min_le_left e e'))
    obtain ⟨j, hj⟩ := Int.eq_ofNat_of_zero_le (sub_nonneg.mpr (min_le_right e e'))
    have hscale {k : Int} {l : Nat} (h : k - min e e' = l) : (2 : Rat) ^ k = 2 ^ l * 2 ^ min e e' := by
      rw [← zpow_natCast, ← zpow_add₀ two_ne_zero, ← h, sub_add_cancel]
    -- at the smaller exponent the difference is that of the mantissas
    have hdifference : (((m * 2 ^ i : Nat) - s.apply (m' * 2 ^ j : Nat) : Int) : Rat) * 2 ^ min e e' =
        p - signed s (m' * 2 ^ e') := by
      rw [← hvalue, hscale hi, hscale hj]
      cases s <;> simp only [Sign.apply, signed] <;> push_cast <;> ring
    have hsome : (0 : Rat) < ((m * 2 ^ i : Nat) - s.apply (m' * 2 ^ j : Nat) : Int) :=
      pos_of_mul_pos_left (hdifference ▸ sub_pos.mpr hless) (zpow_nonneg zero_le_two _)
    obtain ⟨n, hn⟩ := Int.eq_ofNat_of_zero_le (Int.cast_nonneg_iff.mp hsome.le)
    rw [hn] at hdifference hsome
    have hpos : 0 < n := by exact_mod_cast hsome
    have hcompare : compare (n : Int) 0 = .gt := Int.compare_eq_gt.mpr (by omega)
    refine hdifference ▸ isRounded_round hpos ?_
    rw [toModel_sub, hunpack, hunpack']
    simp only [UnpackedFloat.sub, decreaseExponent, hi, hj, Int.toNat_natCast, Nat.shiftLeft_eq, Sign.apply] at hn ⊢
    rw [hn]
    simp only [UnpackedFloat.normalize, hcompare, Int.toNat_natCast]

/-- **A product of doubles** is rounded once. -/
theorem isRounded_mul (hpos : 0 < p) (hpos' : 0 < q) : IsRounded (x * y) (p * q) := by
  obtain ⟨m, e, hm, hunpack, hcanonical, rfl⟩ := exists_unpack hp hpos
  obtain ⟨m', e', hm', hunpack', hcanonical', rfl⟩ := exists_unpack hq hpos'
  have hvalue : ((m * m' : Nat) : Rat) / (1 : Nat) * 2 ^ (e + e') = m * 2 ^ e * (m' * 2 ^ e') := by
    rw [Nat.cast_one, div_one, Nat.cast_mul, zpow_add₀ two_ne_zero, mul_mul_mul_comm]
  have hplaces : 52 ≤ (m * m').log2 ∨ e + e' ≤ -1074 := by
    rcases hcanonical.full with hfull | he
    · refine .inl ((Nat.le_log2 (Nat.mul_pos hm hm').ne').mpr (hfull.trans (Nat.le_mul_of_pos_right m hm')))
    rcases hcanonical'.full with hfull' | he'
    · refine .inl ((Nat.le_log2 (Nat.mul_pos hm hm').ne').mpr (hfull'.trans (Nat.le_mul_of_pos_left m' hm)))
    · exact .inr (by omega)
  obtain ⟨r, i, hrounds, hround⟩ := roundWithAccuracy_rounds (e := e + e') .positive Nat.one_pos
    (extended_one (m * m')) (by omega)
  refine .of_pack (hvalue ▸ hrounds) ?_
  rw [toModel_mul, hunpack, hunpack', ← hround]
  rfl

/-- **A quotient of doubles** is rounded once. -/
theorem isRounded_div (hnonneg : 0 ≤ p) (hpos' : 0 < q) : IsRounded (x / y) (p / q) := by
  obtain ⟨m', e', hm', hunpack', _, rfl⟩ := exists_unpack hq hpos'
  rcases hnonneg.eq_or_lt with rfl | hpos
  · obtain ⟨s, hunpack⟩ := exists_unpack_zero hp
    rw [zero_div]
    refine .zero ((toRat_eq _).trans ?_)
    rw [toModel_div, hunpack, hunpack']
    simp only [UnpackedFloat.div]
    cases s <;> rfl
  obtain ⟨m, e, hm, hunpack, _, rfl⟩ := exists_unpack hp hpos
  obtain ⟨k, hcore, hplaces⟩ := exists_divCore hm hm' e e'
  have hvalue : ((m * 2 ^ k : Nat) : Rat) / m' * 2 ^ (e - e' - k) = m * 2 ^ e / (m' * 2 ^ e') := by
    rw [zpow_sub₀ two_ne_zero, zpow_sub₀ two_ne_zero, zpow_natCast, Nat.cast_mul, Nat.cast_pow, Nat.cast_ofNat]
    field_simp
  obtain ⟨r, i, hrounds, hround⟩ := roundWithAccuracy_rounds (e := e - e' - k) .positive hm'
    (extended_quotient (m * 2 ^ k) hm') (by omega)
  refine .of_pack (hvalue ▸ hrounds) ?_
  rw [toModel_div, hunpack, hunpack', ← hround]
  simp only [UnpackedFloat.div, hcore]
  rfl

end

/-! ## Natural numbers -/

/-- A word is rounded once. -/
theorem isRounded_word {n : Nat} (hpos : 0 < n) (hroom : n < 2 ^ 53) : IsRounded n.toUInt64.toFloat n := by
  have hmodel : n.toUInt64.toFloat.toModel = .pack (UnpackedFloat.round Format.binary64 .positive n 0) := by
    have hword : n.toUInt64.toNat = n := Nat.mod_eq_of_lt (by omega)
    have hcompare : compare (n : Int) 0 = .gt := Int.compare_eq_gt.mpr (by omega)
    show Float.Model.pack (UnpackedFloat.ofNat Format.binary64 n.toUInt64.toNat) = _
    simp only [hword, UnpackedFloat.ofNat, UnpackedFloat.ofInt, UnpackedFloat.normalize, hcompare, Int.toNat_natCast]
  have hrounded := isRounded_round hpos hmodel
  rwa [zpow_zero, mul_one] at hrounded

/-- A natural number below `2 ^ 53` is itself whatever it is rounded to. -/
theorem IsRounded.toRat_of_whole {x : Float} {n : Nat} (h : IsRounded x n) (hroom : n < 2 ^ 53) :
    Scalar.toRat? x = some (n : Rat) := by
  have hmost : (n : Rat) ≤ 2 ^ (53 : Int) := by
    rw [show (2 : Rat) ^ (53 : Int) = (2 ^ 53 : Nat) by norm_num]
    exact_mod_cast hroom.le
  obtain ⟨m, e, hrounds, hvalue⟩ := h.toRat (by norm_num) hmost
  rw [hvalue, hrounds.value_of_whole hroom]

theorem toRat_ofNat_zero : Scalar.toRat? (ofInt (0 : Nat) : Float) = some 0 := toRat_eq _

/-- A natural number that is a word of 53 places is multiplied by one, ... -/
theorem isRounded_ofNat_of_lt {n : Nat} (hpos : 0 < n) (hfew : n < 2 ^ 53) : IsRounded (ofInt n : Float) n := by
  have hproduct : (ofInt n : Float) = n.toUInt64.toFloat * Float.ofBits 0x3FF0000000000000 := by
    show Float.ofScientific n false 0 = _
    unfold Float.ofScientific
    rw [dif_pos ⟨hfew, by decide⟩]
    rfl
  have hone : Scalar.toRat? (Float.ofBits 0x3FF0000000000000) = some 1 := by decide +kernel
  have hrounded := isRounded_mul ((isRounded_word hpos hfew).toRat_of_whole hfew) hone (by exact_mod_cast hpos)
    one_pos
  rwa [mul_one, ← hproduct] at hrounded

/-- ... and a greater one is shifted and rounded. -/
theorem isRounded_ofNat_of_le {n : Nat} (hmany : 2 ^ 53 ≤ n) : IsRounded (ofInt n : Float) n := by
  have hmodel : (ofInt n : Float).toModel =
      .pack (roundWithAccuracy Format.binary64 .positive (n * 2 ^ 53) (-53) .exact) := by
    have hslow : (ofInt n : Float) = .ofModel (.ofScientific n 0) := by
      show Float.ofScientific n false 0 = _
      unfold Float.ofScientific
      rw [dif_neg (by omega)]
      rfl
    have hsmall : ¬(0 : Int) < -(2 ^ Format.binary64.exponentBits + n.log2) := by
      show ¬(0 : Int) < -(2048 + n.log2)
      omega
    rw [hslow]
    show Float.Model.pack (UnpackedFloat.ofScientific Format.binary64 n 0) = _
    unfold UnpackedFloat.ofScientific
    rw [dif_neg (by omega), if_neg (by decide), if_neg hsmall, if_pos le_rfl]
    simp only [UnpackedFloat.mul, Nat.shiftLeft_eq, Int.toNat_zero, Nat.pow_zero, Nat.mul_one, Int.add_zero]
    rfl
  have hplaces : 52 ≤ (n * 2 ^ 53).log2 := (Nat.le_log2 (by omega)).mpr (by omega)
  obtain ⟨m, e, hrounds, hround⟩ := roundWithAccuracy_rounds (e := -53) .positive Nat.one_pos
    (extended_one (n * 2 ^ 53)) (by omega)
  have hvalue : ((n * 2 ^ 53 : Nat) : Rat) / (1 : Nat) * 2 ^ (-53 : Int) = n := by
    rw [Nat.cast_one, div_one, zpow_neg, Nat.cast_mul, Nat.cast_pow, Nat.cast_ofNat]
    exact mul_inv_cancel_right₀ (by norm_num) _
  exact .of_pack (hvalue ▸ hrounds) (hmodel.trans (congrArg _ hround))

/-- **A natural number** is rounded once. -/
theorem isRounded_ofNat (n : Nat) : IsRounded (ofInt n : Float) n := by
  rcases Nat.eq_zero_or_pos n with rfl | hpos
  · rw [Nat.cast_zero]
    exact .zero toRat_ofNat_zero
  · rcases lt_or_ge n (2 ^ 53) with hfew | hmany
    · exact isRounded_ofNat_of_lt hpos hfew
    · exact isRounded_ofNat_of_le hmany

/-- **A natural number below `2 ^ 53`** is a double as it is. -/
theorem toRat_double {n : Nat} (hroom : n < 2 ^ 53) : Scalar.toRat? (ofInt n : Float) = some (n : Rat) :=
  (isRounded_ofNat n).toRat_of_whole hroom

theorem natCast_le_power {n : Nat} (hroom : n < 2 ^ 96) : (n : Rat) ≤ 2 ^ (96 : Int) := by
  rw [show (2 : Rat) ^ (96 : Int) = (2 ^ 96 : Nat) by norm_num]
  exact_mod_cast hroom.le

/-- A natural number that no machine counts to is still no infinity. -/
theorem toRat_ofNat_of_lt {n : Nat} (hroom : n < 2 ^ 96) :
    ∃ m e, RoundsTo n m e ∧ Scalar.toRat? (ofInt n : Float) = some ((m : Rat) * 2 ^ e) :=
  (isRounded_ofNat n).toRat (by norm_num) (natCast_le_power hroom)

/-! ## Shares -/

section
variable {part whole : Nat}

/-- **A quotient of naturals** is that of the doubles that they are rounded to. -/
theorem isRounded_quotient (hpos : 0 < whole) (hpart : part < 2 ^ 96) (hwhole : whole < 2 ^ 96) :
    ∃ v w : Rat, 0 ≤ v ∧ v ≤ 2 ^ (96 : Int) ∧ 1 ≤ w ∧ (part ≤ whole → v ≤ w) ∧
      IsRounded (Scalar.quotient part whole) (v / w) := by
  obtain ⟨m, e, hrounds, hvalue⟩ := toRat_ofNat_of_lt hpart
  obtain ⟨m', e', hrounds', hvalue'⟩ := toRat_ofNat_of_lt hwhole
  have hhigh := hrounds.value_le_power (by norm_num) (natCast_le_power hpart)
  have hlow := hrounds'.power_le_value (i := 0) (by norm_num) (by rw [zpow_zero]; exact_mod_cast hpos)
  rw [zpow_zero] at hlow
  have hnonneg := value_nonneg m e
  exact ⟨_, _, hnonneg, hhigh, hlow, fun hle => hrounds.value_le hrounds' (by exact_mod_cast hle),
    isRounded_div hvalue hvalue' hnonneg (one_pos.trans_le hlow)⟩

/-- Below `2 ^ 53` it is the quotient that is rounded, and nothing else. -/
theorem isRounded_quotient_of_lt (hpos : 0 < whole) (hle : part ≤ whole) (hroom : whole < 2 ^ 53) :
    IsRounded (Scalar.quotient part whole) ((part : Rat) / whole) :=
  isRounded_div (toRat_double (hle.trans_lt hroom)) (toRat_double hroom) (Nat.cast_nonneg part)
    (by exact_mod_cast hpos)

end

/-- **Doubles** keep shares in order, those of wholes below `2 ^ 53`. -/
instance : OrdersShares Float where
  limit := (2 ^ 53 - 1 : Nat)
  zero_le_zero := by decide +kernel
  zero_le_share := by
    intro part whole hle hpos hlimit
    have hroom : whole ≤ 2 ^ 53 - 1 := by exact_mod_cast hlimit
    exact (isRounded_quotient_of_lt hpos hle (by omega)).zero_le toRat_ofNat_zero
  share_le_share := by
    intro part whole part' whole' hle hle' hpos hpos' hlimit hlimit' hcross
    have hroom : whole ≤ 2 ^ 53 - 1 := by exact_mod_cast hlimit
    have hroom' : whole' ≤ 2 ^ 53 - 1 := by exact_mod_cast hlimit'
    refine (isRounded_quotient_of_lt hpos hle (by omega)).le (isRounded_quotient_of_lt hpos' hle' (by omega)) ?_
    rw [div_le_div_iff₀ (by exact_mod_cast hpos) (by exact_mod_cast hpos')]
    exact_mod_cast hcross

end HttpBench.Number
