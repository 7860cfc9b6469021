import Mathlib
import HttpBench.Proofs.Number.Rounding

/-!
# The order of doubles

A double that is finite and not zero has a mantissa and an exponent, and all of its 53 places are used unless the
exponent is the least (`Number.Canonical`). So its value determines both, and to compare exponents and then mantissas
is to compare values.

An infinity has no value, but it has a place in the order of doubles: it stands where the first power of two would that
is too great (`Number.reach`). With that, every double but one that is no number has a place among the rationals
(`Number.place?`), and the comparisons of doubles are those of their places (`Number.le_iff_place`,
`Number.lt_iff_place`). The order that sorts them, which is that of their bits, agrees with their places
(`Number.le_of_ordered`), and their exact values are what they unpack to (`Number.toRat_eq`).
-/

namespace HttpBench.Number

open Float.Model Float.Model.UnpackedFloat

/-! ## Packed doubles -/

/-- **The mantissa and the exponent of a finite double**: all 53 places are used, or the exponent is the least. -/
structure Canonical (m : Nat) (e : Int) : Prop where
  full : 2 ^ 52 ≤ m ∨ e = -1074
  high : m < 2 ^ 53
  least : -1074 ≤ e
  most : e ≤ 971

/-- **What a double unpacks to** is canonical. -/
theorem canonical_unpack {b : BitVec Format.binary64.numBits} {s : Sign} {m : Nat} {e : Int} {hpos : 0 < m}
    (h : UnpackedFloat.unpack Format.binary64 b = .finite s m e hpos) : Canonical m e := by
  have hexponent := (unpackExponent b).isLt
  have hmantissa := (unpackMantissa b).isLt
  change _ < 2 ^ 11 at hexponent
  change _ < 2 ^ 52 at hmantissa
  have hbias : (Format.binary64.exponentBias : Int) + Format.binary64.mantissaBitsWithoutImplicit = 1075 := rfl
  unfold UnpackedFloat.unpack at h
  simp only [hbias] at h
  split at h
  next => split at h <;> cases h
  next hinf =>
    have hne : (unpackExponent b).toNat ≠ 2047 := fun hall => hinf (BitVec.eq_of_toNat_eq hall)
    split at h
    next hzero =>
      split at h
      next => cases h
      next =>
        obtain ⟨rfl, rfl, rfl⟩ := UnpackedFloat.finite.inj h
        have hnone : (unpackExponent b).toNat = 0 := congrArg BitVec.toNat hzero
        exact ⟨.inr (by omega), by omega, by omega, by omega⟩
    next hzero =>
      obtain ⟨rfl, rfl, rfl⟩ := UnpackedFloat.finite.inj h
      have hsome : (unpackExponent b).toNat ≠ 0 := fun hnone => hzero (BitVec.eq_of_toNat_eq hnone)
      have hone : (1#1 ++ unpackMantissa b).toNat = 2 ^ 52 + (unpackMantissa b).toNat := by
        rw [BitVec.toNat_append, ← Nat.shiftLeft_add_eq_or_of_lt (unpackMantissa b).isLt]
        rfl
      rw [hone]
      exact ⟨.inl (by omega), by omega, by omega, by omega⟩

section
variable {s : Sign} {m : Nat} {e : Int} {hpos : 0 < m}

/-- The bits of a sign. -/
def signBits : Sign → Nat
  | .positive => 0
  | .negative => range63

theorem toNat_packComponents (s : Sign) (exponent : BitVec 11) (fraction : BitVec 52) :
    (packComponents Format.binary64 s exponent fraction).toNat =
      signBits s + exponent.toNat * 2 ^ 52 + fraction.toNat := by
  have hsign : (s.toBitVec ++ exponent).toNat * 2 ^ 52 = signBits s + exponent.toNat * 2 ^ 52 := by
    rw [BitVec.toNat_append, ← Nat.shiftLeft_add_eq_or_of_lt exponent.isLt, Nat.shiftLeft_eq, Nat.add_mul]
    cases s <;> rfl
  unfold packComponents
  rw [BitVec.toNat_append, ← Nat.shiftLeft_add_eq_or_of_lt fraction.isLt, Nat.shiftLeft_eq]
  exact congrArg (· + fraction.toNat) hsign

theorem toNat_exponent (he : e ≤ 971) : (BitVec.ofNat 11 (e + 1075).toNat).toNat = (e + 1075).toNat := by
  rw [BitVec.toNat_ofNat, Nat.mod_eq_of_lt (by omega)]

/-- Without its leading place a full mantissa has 52. -/
theorem toNat_fraction (hlow : 2 ^ 52 ≤ m) (hhigh : m < 2 ^ 53) : (BitVec.ofNat 52 m).toNat = m - 2 ^ 52 := by
  rw [BitVec.toNat_ofNat]
  omega

theorem pack_finite (he : e ≤ 971) : UnpackedFloat.pack Format.binary64 (.finite s m e hpos) =
    if m.log2 = 52 then packComponents Format.binary64 s (BitVec.ofNat 11 (e + 1075).toNat) (BitVec.ofNat 52 m)
    else packComponents Format.binary64 s 0#11 (BitVec.ofNat 52 m) := by
  have hbiased : e + Format.binary64.exponentBias + Format.binary64.mantissaBitsWithoutImplicit = e + 1075 := by
    show e + 1023 + 52 = e + 1075
    omega
  have hroom : ¬2 ^ Format.binary64.exponentBits ≤ (e + 1075).toNat + 1 := by
    show ¬2048 ≤ (e + 1075).toNat + 1
    omega
  have hplaces : m.log2 + 1 = Format.binary64.mantissaBits ↔ m.log2 = 52 := Nat.add_right_cancel_iff
  simp only [UnpackedFloat.pack, hbiased, if_neg hroom, hplaces]

/-- **A finite double** is what it was made of. -/
theorem Canonical.unpack_pack (h : Canonical m e) :
    (Float.Model.pack (.finite s m e hpos)).unpack = .finite s m e hpos := by
  obtain ⟨hfull, hhigh, hleast, hmost⟩ := h
  have hexponent := toNat_exponent hmost
  show UnpackedFloat.unpack Format.binary64 (UnpackedFloat.pack Format.binary64 (.finite s m e hpos)) = _
  rcases lt_or_ge m (2 ^ 52) with hfew | hlow
  · obtain rfl := hfull.resolve_left (by omega)
    have hplaces : ¬m.log2 = 52 := fun h => by have := (Nat.log2_eq_iff hpos.ne').mp h; omega
    have hfraction : (BitVec.ofNat 52 m).toNat = m := Nat.mod_eq_of_lt hfew
    have hsome : BitVec.ofNat 52 m ≠ 0#52 := fun h => hpos.ne' (hfraction.symm.trans (congrArg BitVec.toNat h))
    simp only [pack_finite hmost, if_neg hplaces, UnpackedFloat.unpack, unpackMantissa_packComponents,
      unpackExponent_packComponents, unpackSign_packComponents, Sign.ofBitVec_toBitVec, hfraction]
    rw [if_neg (by decide), if_pos trivial, dif_neg hsome]
    rfl
  · have hplaces : m.log2 = 52 := log2_eq hlow hhigh
    have hinfinite : BitVec.ofNat 11 (e + 1075).toNat ≠ -1#_ := fun h => by
      have hall : (e + 1075).toNat = 2047 := hexponent.symm.trans (congrArg BitVec.toNat h)
      omega
    have hsmall : BitVec.ofNat 11 (e + 1075).toNat ≠ 0#_ := fun h => by
      have hnone : (e + 1075).toNat = 0 := hexponent.symm.trans (congrArg BitVec.toNat h)
      omega
    have hback : ((e + 1075).toNat : Int) - (Format.binary64.exponentBias + (52 : Nat)) = e := by
      show ((e + 1075).toNat : Int) - (1023 + 52) = e
      omega
    have hmantissa : (1#1 ++ BitVec.ofNat 52 m).toNat = m := by
      rw [BitVec.toNat_append, toNat_fraction hlow hhigh, Nat.or_comm]
      show m - 2 ^ 52 ||| 2 ^ 52 = m
      rw [Nat.or_two_pow_eq_add_of_lt (by omega)]
      omega
    simp only [pack_finite hmost, if_pos hplaces, UnpackedFloat.unpack, unpackMantissa_packComponents,
      unpackExponent_packComponents, unpackSign_packComponents, Sign.ofBitVec_toBitVec, if_neg hinfinite,
      if_neg hsmall, hexponent, hback, hmantissa]

/-- **An exponent that is too great** makes an infinity. -/
theorem unpack_pack_of_great (he : 972 ≤ e) :
    (Float.Model.pack (.finite s m e hpos)).unpack = .infinity s := by
  have hbiased : e + Format.binary64.exponentBias + Format.binary64.mantissaBitsWithoutImplicit = e + 1075 := by
    show e + 1023 + 52 = e + 1075
    omega
  have hmany : 2 ^ Format.binary64.exponentBits ≤ (e + 1075).toNat + 1 := by
    show 2048 ≤ (e + 1075).toNat + 1
    omega
  show UnpackedFloat.unpack Format.binary64 (UnpackedFloat.pack Format.binary64 (.finite s m e hpos)) = _
  simp only [UnpackedFloat.pack, hbiased, if_pos hmany]
  cases s <;> rfl

end

/-! ## Places -/

theorem cmp_neg_neg (p q : Rat) : cmp (-p) (-q) = cmp q p := by
  simp only [cmp, cmpUsing, neg_lt_neg_iff]

namespace Canonical

variable {m m' : Nat} {e e' : Int}

theorem roundsTo (h : Canonical m e) : RoundsTo (m * 2 ^ e) m e := .self h.full h.high h.least

/-- **Numbers are compared** by their exponents and then by their mantissas. -/
theorem compare_eq (h : Canonical m e) (h' : Canonical m' e') :
    (compare e e').then (compare m m') = cmp ((m : Rat) * 2 ^ e) (m' * 2 ^ e') := by
  have hless : ∀ {m m' : Nat} {e e' : Int}, Canonical m e → Canonical m' e' → e < e' →
      (m : Rat) * 2 ^ e < m' * 2 ^ e' := fun h h' hless =>
    lt_of_not_ge fun hle => (h'.roundsTo.exponent_le h.roundsTo hle).not_gt hless
  rcases lt_trichotomy e e' with he | rfl | he
  · rw [compare_lt_iff_lt.mpr he, (cmp_eq_lt_iff _ _).mpr (hless h h' he)]
    rfl
  · rw [compare_eq_iff_eq.mpr rfl, cmp_mul_pos_right (zpow_pos two_pos e), Nat.strictMono_cast.cmp_map_eq,
      cmp_eq_compare]
    rfl
  · rw [compare_gt_iff_gt.mpr he, (cmp_eq_gt_iff _ _).mpr (hless h' h he)]
    rfl

end Canonical

/-- The first power of two that no finite double reaches. -/
def reach : Rat := 2 ^ 53 * 2 ^ (971 : Int)

theorem reach_pos : 0 < reach := mul_pos (by norm_num) (zpow_pos two_pos 971)

theorem Canonical.lt_reach {m : Nat} {e : Int} (h : Canonical m e) : (m : Rat) * 2 ^ e < reach :=
  h.roundsTo.lt.trans_le
    (mul_le_mul_of_nonneg_left (zpow_le_zpow_right₀ one_le_two h.most) (by norm_num))

/-- A number with a sign before it. -/
def signed : Sign → Rat → Rat
  | .positive, q => q
  | .negative, q => -q

/-- The value of what a double unpacks to, if that is finite. -/
def valueOf : UnpackedFloat → Option Rat
  | .notANumber | .infinity _ => none
  | .zero _ => some 0
  | .finite s m e _ => some (signed s (m * 2 ^ e))

/-- The place of what a double unpacks to. -/
def placeOf : UnpackedFloat → Option Rat
  | .infinity s => some (signed s reach)
  | x => valueOf x

/-- **The place of a double** among the rationals, unless it is no number: its value, and for an infinity the first
power of two that no finite double reaches. -/
def place? (x : Float) : Option Rat := placeOf x.toModel.unpack

theorem Canonical.of_unpack {x : Float} {s : Sign} {m : Nat} {e : Int} {hpos : 0 < m}
    (h : x.toModel.unpack = .finite s m e hpos) : Canonical m e := canonical_unpack h

section
variable {x y : Float} {p q : Rat}

/-- **Doubles are compared** by their places. -/
theorem compare_eq_cmp (hp : place? x = some p) (hq : place? y = some q) :
    x.toModel.unpack.compare y.toModel.unpack = some (cmp p q) := by
  have hvalue : ∀ {x : Float} {s m e hpos}, x.toModel.unpack = .finite s m e hpos →
      (0 : Rat) < m * 2 ^ e ∧ (m : Rat) * 2 ^ e < reach := fun {_ _ _ e hpos} h =>
    ⟨value_pos hpos e, (Canonical.of_unpack h).lt_reach⟩
  have hlt : ∀ {p q : Rat}, p < q → some Ordering.lt = some (cmp p q) := fun h =>
    congrArg some ((cmp_eq_lt_iff _ _).mpr h).symm
  have hgt : ∀ {p q : Rat}, q < p → some Ordering.gt = some (cmp p q) := fun h =>
    congrArg some ((cmp_eq_gt_iff _ _).mpr h).symm
  have hreach := reach_pos
  unfold place? at hp hq
  rcases hx : x.toModel.unpack with (_ | _) | _ | _ | ⟨(_ | _), m, e, hpos⟩ <;> rw [hx] at hp <;> cases hp <;>
    rcases hy : y.toModel.unpack with (_ | _) | _ | _ | ⟨(_ | _), m', e', hpos'⟩ <;> rw [hy] at hq <;> cases hq
  all_goals simp only [UnpackedFloat.compare, signed]
  case finite.negative.refl.finite.negative.refl =>
    rw [(Canonical.of_unpack hx).compare_eq (.of_unpack hy), cmp_swap, cmp_neg_neg]
  case finite.positive.refl.finite.positive.refl => rw [(Canonical.of_unpack hx).compare_eq (.of_unpack hy)]
  -- between other kinds of doubles the kinds and the signs decide
  all_goals first
    | exact hlt (by grind)
    | exact hgt (by grind)
    | exact congrArg some (cmp_self_eq_eq _).symm

theorem le_iff_unpack : Scalar.le x y = true ↔ (x.toModel.unpack.compare y.toModel.unpack).any (·.isLE) = true := by
  have hmodel : x ≤ y ↔ x.toModel ≤ y.toModel := decide_eq_true_iff
  exact decide_eq_true_iff.trans hmodel

theorem lt_iff_unpack : Scalar.lt x y = true ↔ x.toModel.unpack.compare y.toModel.unpack = some .lt := by
  have hmodel : x < y ↔ x.toModel < y.toModel := decide_eq_true_iff
  exact decide_eq_true_iff.trans (hmodel.trans beq_iff_eq)

theorem le_iff_place (hp : place? x = some p) (hq : place? y = some q) : Scalar.le x y = true ↔ p ≤ q := by
  rw [le_iff_unpack, compare_eq_cmp hp hq, Option.any_some, Ordering.isLE_iff_ne_gt]
  exact (cmp_eq_gt_iff p q).not.trans not_lt

theorem lt_iff_place (hp : place? x = some p) (hq : place? y = some q) : Scalar.lt x y = true ↔ p < q := by
  rw [lt_iff_unpack, compare_eq_cmp hp hq, Option.some_inj, cmp_eq_lt_iff]

/-- Only doubles with places are compared. -/
theorem exists_places {order : Ordering} (h : x.toModel.unpack.compare y.toModel.unpack = some order) :
    ∃ p q, place? x = some p ∧ place? y = some q := by
  unfold place?
  rcases hx : x.toModel.unpack with _ | _ | _ | _ <;> rw [hx] at h
  case notANumber => cases h
  all_goals rcases hy : y.toModel.unpack with _ | _ | _ | _ <;> rw [hy] at h
  case infinity.notANumber | zero.notANumber | finite.notANumber => cases h
  all_goals exact ⟨_, _, rfl, rfl⟩

theorem places_of_le (h : Scalar.le x y = true) : ∃ p q, place? x = some p ∧ place? y = some q ∧ p ≤ q := by
  obtain ⟨order, horder, _⟩ := (Option.any_eq_true _ _).mp (le_iff_unpack.mp h)
  obtain ⟨p, q, hp, hq⟩ := exists_places horder
  exact ⟨p, q, hp, hq, (le_iff_place hp hq).mp h⟩

theorem places_of_lt (h : Scalar.lt x y = true) : ∃ p q, place? x = some p ∧ place? y = some q ∧ p < q := by
  obtain ⟨p, q, hp, hq⟩ := exists_places (lt_iff_unpack.mp h)
  exact ⟨p, q, hp, hq, (lt_iff_place hp hq).mp h⟩

end

/-! ## Bits -/

/-- **The bits of a magnitude**: its exponent before its mantissa, without the leading place. -/
inductive Magnitude : Nat → Rat → Prop where
  | zero : Magnitude 0 0
  | finite {m : Nat} {e : Int} (h : Canonical m e) (hpos : 0 < m) :
    Magnitude ((e + 1074).toNat * 2 ^ 52 + m) (m * 2 ^ e)
  | infinite : Magnitude (2047 * 2 ^ 52) reach

namespace Magnitude

variable {k k' : Nat} {v v' : Rat}

theorem nonneg (h : Magnitude k v) : 0 ≤ v := by
  cases h with
  | zero => exact le_rfl
  | finite => exact value_nonneg _ _
  | infinite => exact reach_pos.le

theorem lt (h : Magnitude k v) : k < range63 := by
  unfold range63
  cases h with
  | zero => norm_num
  | finite h =>
    obtain ⟨_, hhigh, _, hmost⟩ := h
    omega
  | infinite => norm_num

/-- **Greater bits** are those of a greater magnitude. -/
theorem le (h : Magnitude k v) (h' : Magnitude k' v') (hle : k ≤ k') : v ≤ v' := by
  cases h with
  | zero => exact h'.nonneg
  | @finite m e h hpos =>
    cases h' with
    | zero => omega
    | @finite m' e' h' =>
      have hcompare := h.compare_eq h'
      obtain ⟨hfull, hhigh, hleast, _⟩ := h
      obtain ⟨hfull', hhigh', hleast', _⟩ := h'
      have hlex : e < e' ∨ e = e' ∧ m ≤ m' := by omega
      rw [← not_lt, ← cmp_eq_gt_iff, ← hcompare]
      rcases hlex with hless | ⟨rfl, hle⟩
      · simp [Int.compare_eq_lt.mpr hless]
      · simpa [Nat.compare_eq_gt] using hle
    | infinite => exact h.lt_reach.le
  | infinite =>
    cases h' with
    | zero => norm_num at hle
    | finite h' =>
      obtain ⟨_, hhigh, _, hmost⟩ := h'
      omega
    | infinite => exact le_rfl

end Magnitude

section
variable {x y : Float} {p q : Rat}

theorem toNat_toBits (x : Float) : x.toBits.toNat = (UnpackedFloat.pack Format.binary64 x.toModel.unpack).toNat := by
  have hvalid := pack_unpack_of_valid x.toModel.valid
  exact congrArg BitVec.toNat hvalid.symm

theorem toNat_pack {s : Sign} {m : Nat} {e : Int} {hpos : 0 < m} (h : Canonical m e) :
    (UnpackedFloat.pack Format.binary64 (.finite s m e hpos)).toNat =
      signBits s + ((e + 1074).toNat * 2 ^ 52 + m) := by
  obtain ⟨hfull, hhigh, hleast, hmost⟩ := h
  rw [pack_finite hmost]
  split
  next hplaces =>
    have hlow := ((Nat.log2_eq_iff hpos.ne').mp hplaces).1
    rw [toNat_packComponents, toNat_exponent hmost, toNat_fraction hlow hhigh]
    omega
  next hplaces =>
    have hfew : m < 2 ^ 52 := lt_of_not_ge fun hlow => hplaces (log2_eq hlow hhigh)
    have hfraction : (BitVec.ofNat 52 m).toNat = m := Nat.mod_eq_of_lt hfew
    rw [toNat_packComponents, hfraction]
    have hnone : (0#11).toNat = 0 := rfl
    omega

/-- **The bits of a double** are those of its sign and of its magnitude. -/
theorem exists_magnitude (hp : place? x = some p) :
    ∃ s k v, Magnitude k v ∧ p = signed s v ∧ x.toBits.toNat = signBits s + k := by
  rw [toNat_toBits]
  unfold place? at hp
  rcases hx : x.toModel.unpack with s | _ | s | ⟨s, m, e, hpos⟩ <;> rw [hx] at hp <;> cases hp
  · exact ⟨s, _, _, .infinite, rfl, by cases s <;> rfl⟩
  · exact ⟨s, _, _, .zero, by cases s <;> simp [signed], by cases s <;> rfl⟩
  · exact ⟨s, _, _, .finite (.of_unpack hx) hpos, rfl, toNat_pack (.of_unpack hx)⟩

/-- The place of a sign and the bits of a magnitude in the order of doubles. -/
def orderKey : Sign → Nat → Int
  | .positive, k => k
  | .negative, k => -k - 1

theorem doubleOrderKey_eq {s : Sign} {k : Nat} (hk : k < range63) (hbits : x.toBits.toNat = signBits s + k) :
    doubleOrderKey x = orderKey s k := by
  unfold doubleOrderKey
  rw [hbits]
  cases s with
  | positive => simp [signBits, orderKey, hk]
  | negative => simp [signBits, orderKey]

/-- **What comes first** in the order of doubles is no greater. -/
theorem le_of_ordered (hp : place? x = some p) (hq : place? y = some q) (h : Scalar.ordered x y = true) : p ≤ q := by
  have hkey : doubleOrderKey x ≤ doubleOrderKey y := of_decide_eq_true h
  obtain ⟨s, k, v, hv, rfl, hbits⟩ := exists_magnitude hp
  obtain ⟨s', k', v', hv', rfl, hbits'⟩ := exists_magnitude hq
  rw [doubleOrderKey_eq hv.lt hbits, doubleOrderKey_eq hv'.lt hbits'] at hkey
  cases s <;> cases s' <;> dsimp only [orderKey, signed] at hkey ⊢
  · exact neg_le_neg (hv'.le hv (by omega))
  · exact (neg_nonpos.mpr hv.nonneg).trans hv'.nonneg
  · omega
  · exact hv.le hv' (by omega)

end

/-! ## Exact values -/

/-- The value of a magnitude is its significand with its scale. -/
theorem Binary.toRat_eq (b : Binary) : b.toRat = b.significand * 2 ^ b.scale := by
  unfold Binary.toRat
  split
  next hscale =>
    obtain ⟨k, hk⟩ := Int.eq_ofNat_of_zero_le hscale
    simp [hk]
  next hscale =>
    obtain ⟨k, hk⟩ := Int.eq_ofNat_of_zero_le (show 0 ≤ -b.scale by omega)
    have hscale : b.scale = -k := by omega
    simp [hscale, Rat.mkRat_eq_div, div_eq_mul_inv]

section
variable {x : Float} {q : Rat}

/-- What the bits say of the exponent, of the mantissa and of the sign. -/
theorem fields (x : Float) : ((x.toBits >>> 52) &&& 0x7FF).toNat = x.toBits.toNat / 2 ^ 52 % 2 ^ 11 ∧
    (x.toBits &&& 0xFFFFFFFFFFFFF).toNat = x.toBits.toNat % 2 ^ 52 ∧
    (x.toBits >>> 63).toNat = x.toBits.toNat / 2 ^ 63 := by
  refine ⟨?_, ?_, Nat.shiftRight_eq_div_pow ..⟩
  · rw [← Nat.and_two_pow_sub_one_eq_mod, ← Nat.shiftRight_eq_div_pow]
    exact UInt64.toNat_and ..
  · rw [← Nat.and_two_pow_sub_one_eq_mod]
    exact UInt64.toNat_and ..

theorem isFiniteDouble_iff (x : Float) : isFiniteDouble x = true ↔ x.toBits.toNat / 2 ^ 52 % 2 ^ 11 ≠ 2047 := by
  rw [isFiniteDouble, bne_iff_ne, ne_eq, ← UInt64.toNat_inj, (fields x).1]
  rfl

/-- **A mantissa and an exponent** are read off the bits of a double. -/
theorem toRat_of_bits {s : Sign} {m : Nat} {e : Int} (h : Canonical m e)
    (hbits : x.toBits.toNat = signBits s + ((e + 1074).toNat * 2 ^ 52 + m)) :
    Scalar.toRat? x = some (signed s (m * 2 ^ e)) := by
  obtain ⟨hfull, hhigh, hleast, hmost⟩ := h
  obtain ⟨hexponent, hfraction, hsign⟩ := fields x
  have hsignBits : signBits s = 0 ∨ signBits s = 2 ^ 63 := by cases s <;> simp [signBits, range63]
  have hfinite : isFiniteDouble x = true := (isFiniteDouble_iff x).mpr (by omega)
  have hnegative : isNegativeDouble x = true ↔ x.toBits.toNat / 2 ^ 63 ≠ 0 := by
    rw [isNegativeDouble, bne_iff_ne, ne_eq, ← UInt64.toNat_inj, hsign]
    rfl
  have hbinary : (Binary.ofDoubleBits x.toBits).significand = m ∧ (Binary.ofDoubleBits x.toBits).scale = e := by
    simp only [Binary.ofDoubleBits, hexponent, hfraction, beq_iff_eq]
    split <;> dsimp only <;> omega
  show doubleToRat? x = _
  rw [doubleToRat?, if_pos hfinite, Binary.toRat_eq, hbinary.1, hbinary.2]
  cases s with
  | positive =>
    have hnone : ¬isNegativeDouble x = true := fun h => hnegative.mp h (by simp only [signBits] at hbits; omega)
    exact congrArg some (if_neg hnone)
  | negative =>
    have hsome : isNegativeDouble x = true := hnegative.mpr (by simp only [signBits, range63] at hbits; omega)
    exact congrArg some (if_pos hsome)

/-- **The exact value of a double** is that of what it unpacks to. -/
theorem toRat_eq (x : Float) : Scalar.toRat? x = valueOf x.toModel.unpack := by
  have hbits := toNat_toBits x
  have hnone (hall : x.toBits.toNat / 2 ^ 52 % 2 ^ 11 = 2047) : Scalar.toRat? x = none :=
    if_neg fun hfinite => (isFiniteDouble_iff x).mp hfinite hall
  rcases hx : x.toModel.unpack with s | _ | s | ⟨s, m, e, hpos⟩ <;> rw [hx] at hbits
  case infinity =>
    refine hnone ?_
    rw [hbits]
    cases s <;> rfl
  case notANumber =>
    refine hnone ?_
    rw [hbits]
    rfl
  case zero =>
    have hzero : Canonical 0 (-1074) := ⟨.inr rfl, by norm_num, le_rfl, by norm_num⟩
    rw [toRat_of_bits (s := s) hzero (hbits.trans (by cases s <;> rfl))]
    cases s <;> simp [signed, valueOf]
  case finite =>
    have hcanonical := Canonical.of_unpack hx
    exact toRat_of_bits hcanonical (hbits.trans (toNat_pack hcanonical))

theorem place_of_toRat (h : Scalar.toRat? x = some q) : place? x = some q := by
  rw [toRat_eq] at h
  unfold place?
  rcases hx : x.toModel.unpack with _ | _ | _ | _ <;> rw [hx] at h
  case infinity | notANumber => cases h
  all_goals exact h

/-- A value lies between the infinities. -/
theorem value_bounds (h : Scalar.toRat? x = some q) : -reach < q ∧ q < reach := by
  rw [toRat_eq] at h
  rcases hx : x.toModel.unpack with _ | _ | _ | ⟨s, m, e, hpos⟩ <;> rw [hx] at h <;> cases h
  case zero => exact ⟨neg_neg_of_pos reach_pos, reach_pos⟩
  case finite =>
    have hvalue := value_pos hpos e
    have hless := (Canonical.of_unpack hx).lt_reach
    cases s with
    | positive => exact ⟨by simp only [signed]; linarith, hless⟩
    | negative => exact ⟨neg_lt_neg hless, by simp only [signed]; linarith⟩

/-- A place is a value, or that of an infinity. -/
theorem toRat_or_infinite (h : place? x = some q) :
    Scalar.toRat? x = some q ∨ ∃ s, x.toModel.unpack = .infinity s ∧ q = signed s reach := by
  rw [toRat_eq]
  unfold place? at h
  rcases hx : x.toModel.unpack with s | _ | _ | _ <;> rw [hx] at h
  case infinity => exact .inr ⟨s, rfl, (Option.some.inj h).symm⟩
  all_goals exact .inl h

theorem place_le_reach (h : place? x = some q) : q ≤ reach := by
  rcases toRat_or_infinite h with hvalue | ⟨s, _, rfl⟩
  · exact (value_bounds hvalue).2.le
  · cases s with
    | positive => exact le_rfl
    | negative => exact neg_le_self reach_pos.le

theorem toRat_or_reach (h : place? x = some q) (hq : 0 ≤ q) :
    Scalar.toRat? x = some q ∨ x.toModel.unpack = .infinity .positive ∧ q = reach := by
  rcases toRat_or_infinite h with hvalue | ⟨s, hunpack, rfl⟩
  · exact .inl hvalue
  · cases s with
    | positive => exact .inr ⟨hunpack, rfl⟩
    | negative => exact absurd hq (neg_neg_of_pos reach_pos).not_ge

theorem toRat_or_neg_reach (h : place? x = some q) (hq : q < reach) :
    Scalar.toRat? x = some q ∨ x.toModel.unpack = .infinity .negative ∧ q = -reach := by
  rcases toRat_or_infinite h with hvalue | ⟨s, hunpack, rfl⟩
  · exact .inl hvalue
  · cases s with
    | positive => exact absurd hq (lt_irrefl reach)
    | negative => exact .inr ⟨hunpack, rfl⟩

theorem toRat_of_place (h : place? x = some q) (hq : 0 ≤ q) (hless : q < reach) : Scalar.toRat? x = some q :=
  (toRat_or_reach h hq).resolve_right fun hinfinite => hless.ne hinfinite.2

theorem exists_unpack_zero (h : Scalar.toRat? x = some 0) : ∃ s, x.toModel.unpack = .zero s := by
  rw [toRat_eq] at h
  rcases hx : x.toModel.unpack with _ | _ | s | ⟨s, m, e, hpos⟩ <;> rw [hx] at h
  case infinity | notANumber => cases h
  case zero => exact ⟨s, rfl⟩
  case finite =>
    have hvalue := value_pos hpos e
    have hzero := Option.some.inj h
    cases s with
    | positive => exact absurd hzero hvalue.ne'
    | negative => exact absurd hzero (neg_neg_of_pos hvalue).ne

/-- **A positive double** has a mantissa and an exponent. -/
theorem exists_unpack (h : Scalar.toRat? x = some q) (hq : 0 < q) :
    ∃ m e hpos, x.toModel.unpack = .finite .positive m e hpos ∧ Canonical m e ∧ (m : Rat) * 2 ^ e = q := by
  rw [toRat_eq] at h
  rcases hx : x.toModel.unpack with _ | _ | _ | ⟨s, m, e, hpos⟩ <;> rw [hx] at h <;> cases h
  case zero => exact absurd hq (lt_irrefl 0)
  case finite =>
    cases s with
    | positive => exact ⟨m, e, hpos, rfl, .of_unpack hx, rfl⟩
    | negative =>
      have hvalue := value_nonneg m e
      exact absurd hq (neg_nonpos.mpr hvalue).not_gt

end

end HttpBench.Number
