import HttpBench.Proofs.Number.Doubles

/-!
# Margins

A figure that lies beyond a limit by at least that limit is told by dividing the distance by the limit. For doubles both
are rounded. A quotient of doubles is one or more exactly if that is so of the doubles (`Number.one_le_div_iff`): the
next double below is too far away to be rounded up. A distance though is not always what it was before it was rounded.
One that takes something away may be no less than what it is taken from, and then what is taken away is less than that
by a factor of `2 ^ 52` (`Number.RoundsTo.lt_of_sub`, `Number.place_sub_of_lt`).

A figure or a limit may be infinite, and then so is the distance between them (`Number.place_sub_of_infinite`,
`Number.place_sub_infinite`).
-/

namespace HttpBench.Number

open Float.Model Float.Model.UnpackedFloat

/-- The least positive double is no greater than any other. -/
theorem least_le {x : Float} {q : Rat} (h : Scalar.toRat? x = some q) (hq : 0 < q) : (2 : Rat) ^ (-1074 : Int) ≤ q := by
  obtain ⟨m, e, hpos, _, hcanonical, rfl⟩ := exists_unpack h hq
  have hone : (1 : Rat) ≤ m := by exact_mod_cast hpos
  calc (2 : Rat) ^ (-1074 : Int) ≤ 2 ^ e := zpow_le_zpow_right₀ one_le_two hcanonical.least
    _ ≤ m * 2 ^ e := le_mul_of_one_le_left (zpow_nonneg zero_le_two e) hone

/-! ## Quotients -/

/-- **The next double below** is less by a factor. -/
theorem Canonical.le_of_lt {m m' : Nat} {e e' : Int} (h : Canonical m e) (h' : Canonical m' e')
    (hless : (m : Rat) * 2 ^ e < m' * 2 ^ e') : (m : Rat) * 2 ^ e ≤ m' * 2 ^ e' * (1 - 1 / 2 ^ 53) := by
  have hexponent := h.roundsTo.exponent_le h'.roundsTo hless.le
  have hpower := zpow_pos (two_pos (α := Rat)) e
  rcases hexponent.eq_or_lt with rfl | hexponent
  · have hnext : (m : Rat) + 1 ≤ m' := by exact_mod_cast lt_of_mul_lt_mul_right hless hpower.le
    have hmost : (m' : Rat) ≤ 2 ^ 53 := by exact_mod_cast h'.high.le
    rw [mul_right_comm]
    exact mul_le_mul_of_nonneg_right (by linarith) hpower.le
  · have hnext : (m : Rat) ≤ 2 ^ 53 - 1 := by
      have hhigh : (m : Rat) + 1 ≤ (2 ^ 53 : Nat) := by exact_mod_cast h.high
      push_cast at hhigh
      linarith
    have hleast := h.least
    have hlow : (2 : Rat) ^ 52 ≤ m' := by exact_mod_cast h'.full.resolve_right (by omega)
    have hstep : (2 : Rat) ^ (e + 1) ≤ 2 ^ e' := zpow_le_zpow_right₀ one_le_two hexponent
    rw [zpow_add_one₀ two_ne_zero] at hstep
    calc (m : Rat) * 2 ^ e ≤ (2 ^ 53 - 1) * 2 ^ e := mul_le_mul_of_nonneg_right hnext hpower.le
      _ = 2 ^ 52 * (2 ^ e * 2) * (1 - 1 / 2 ^ 53) := by ring
      _ ≤ m' * 2 ^ e' * (1 - 1 / 2 ^ 53) :=
        mul_le_mul_of_nonneg_right (mul_le_mul hlow hstep (by positivity) (Nat.cast_nonneg _)) (by norm_num)

theorem toRat_double_one : Scalar.toRat? (Scalar.one : Float) = some 1 := by
  exact_mod_cast toRat_double (n := 1) (by norm_num)

section
variable {x y : Float} {p q : Rat}

/-- What is less than one is not rounded to one. -/
theorem lt_of_one_le_div (hp : Scalar.toRat? x = some p) (hnonneg : 0 ≤ p) (hq : Scalar.toRat? y = some q)
    (hpos : 0 < q) (h : Scalar.le Scalar.one (x / y) = true) : q ≤ p := by
  by_contra hsmall
  rw [not_le] at hsmall
  have hgap : p ≤ q * (1 - 1 / 2 ^ 53) := by
    obtain ⟨m', e', _, _, hcanonical', rfl⟩ := exists_unpack hq hpos
    rcases hnonneg.eq_or_lt with rfl | hsome
    · exact mul_nonneg hpos.le (by norm_num)
    · obtain ⟨m, e, _, _, hcanonical, rfl⟩ := exists_unpack hp hsome
      exact hcanonical.le_of_lt hcanonical' hsmall
  have hself : RoundsTo ((2 ^ 53 - 1 : Nat) * 2 ^ (-53 : Int)) (2 ^ 53 - 1) (-53) :=
    .self (.inl (by norm_num)) (by norm_num) (by norm_num)
  have hlow : ((2 ^ 53 - 1 : Nat) : Rat) * 2 ^ (-53 : Int) = 1 - 1 / 2 ^ 53 := by norm_num
  rw [hlow] at hself
  obtain ⟨m, e, hrounds, hplace⟩ := isRounded_div hp hq hnonneg hpos
  have hquotient := hrounds.value_le hself ((div_le_iff₀' hpos).mpr hgap)
  rw [hlow] at hquotient
  have hmin := (le_iff_place (place_of_toRat toRat_double_one) hplace).mp h
  linarith [min_le_left ((m : Rat) * 2 ^ e) reach]

/-- **A quotient of doubles is at least one** exactly if it need not be rounded to be so. -/
theorem one_le_div_iff (hp : place? x = some p) (hnonneg : 0 ≤ p) (hq : Scalar.toRat? y = some q) (hpos : 0 < q) :
    Scalar.le Scalar.one (x / y) = true ↔ q ≤ p := by
  rcases toRat_or_reach hp hnonneg with hvalue | ⟨hunpack, rfl⟩
  · refine ⟨lt_of_one_le_div hvalue hnonneg hq hpos, fun hle => ?_⟩
    exact (IsRounded.self toRat_double_one one_pos).le (isRounded_div hvalue hq hnonneg hpos)
      ((one_le_div₀ hpos).mpr hle)
  · obtain ⟨m', e', _, hunpack', _⟩ := exists_unpack hq hpos
    have hplace : place? (x / y) = some reach := by
      rw [place?, toModel_div, hunpack, hunpack']
      simp only [UnpackedFloat.div]
      rfl
    exact iff_of_true ((le_iff_place (place_of_toRat toRat_double_one) hplace).mpr (value_bounds toRat_double_one).2.le)
      (value_bounds hq).2.le

/-- Nothing is one or more as often as an infinity. -/
theorem one_le_div_of_infinite {s : Sign} (hy : y.toModel.unpack = .infinity s) :
    Scalar.le Scalar.one (x / y) = false := by
  have hquotient : ∀ q, place? (x / y) = some q → q = 0 := by
    intro q hq
    rw [place?, toModel_div, hy] at hq
    rcases hx : x.toModel.unpack with _ | _ | s' | ⟨s', _⟩ <;> rw [hx] at hq <;> simp only [UnpackedFloat.div] at hq
    case infinity | notANumber => cases hq
    all_goals
      cases s <;> cases s' <;> exact (Option.some.inj hq).symm
  by_contra hle
  obtain ⟨p, q, hp, hq, hle⟩ := places_of_le (Bool.not_eq_false _ ▸ hle)
  obtain rfl := Option.some.inj ((place_of_toRat toRat_double_one).symm.trans hp)
  rw [hquotient q hq] at hle
  exact absurd hle (by norm_num)

end

/-! ## Distances -/

section
variable {x y : Float} {p q : Rat}

/-- An infinity is as far from every value. -/
theorem place_sub_of_infinite (hq : Scalar.toRat? y = some q) (hx : x.toModel.unpack = .infinity .positive) :
    place? (x - y) = some reach := by
  rw [toRat_eq] at hq
  rw [place?, toModel_sub, hx]
  rcases hy : y.toModel.unpack with _ | _ | _ | _ <;> rw [hy] at hq
  case infinity | notANumber => cases hq
  all_goals
    simp only [UnpackedFloat.sub]
    rfl

theorem place_sub_infinite (hp : Scalar.toRat? x = some p) (hy : y.toModel.unpack = .infinity .negative) :
    place? (x - y) = some reach := by
  rw [toRat_eq] at hp
  rw [place?, toModel_sub, hy]
  rcases hx : x.toModel.unpack with _ | _ | _ | _ <;> rw [hx] at hp
  case infinity | notANumber => cases hp
  all_goals
    simp only [UnpackedFloat.sub]
    rfl

/-- **More is left** where less is taken away. -/
theorem place_sub_le {y' : Float} {q' : Rat} (hp : place? x = some p) (hq : Scalar.toRat? y = some q)
    (hq' : Scalar.toRat? y' = some q') (hpos : 0 < q') (hle : q' ≤ q) (hless : q < p) :
    ∃ v v', place? (x - y) = some v ∧ place? (x - y') = some v' ∧ 0 ≤ v ∧ v ≤ v' := by
  have hpos' : 0 < p := hpos.trans (hle.trans_lt hless)
  rcases toRat_or_reach hp hpos'.le with hvalue | ⟨hunpack, rfl⟩
  · obtain ⟨m, e, hrounds, hplace⟩ := isRounded_sub hvalue hq hpos' hless
    obtain ⟨m', e', hrounds', hplace'⟩ := isRounded_sub hvalue hq' hpos' (hle.trans_lt hless)
    refine ⟨_, _, hplace, hplace', le_min (value_nonneg _ _) reach_pos.le, min_le_min_right _ ?_⟩
    exact hrounds.value_le hrounds' (sub_le_sub_left hle p)
  · exact ⟨reach, reach, place_sub_of_infinite hq hunpack, place_sub_of_infinite hq' hunpack, reach_pos.le, le_rfl⟩

/-- What is left of a double is rounded to less, if it is that much less. -/
theorem RoundsTo.lt_of_sub {m : Nat} {e : Int} (hp : Scalar.toRat? x = some p) (hq : Scalar.toRat? y = some q)
    (hpos : 0 < p) (h : RoundsTo (p - q) m e) (hmuch : p ≤ 2 ^ 52 * q) : (m : Rat) * 2 ^ e < p := by
  have hsome : 0 < q := by linarith
  obtain ⟨n, i, hn, _, hcanonical, rfl⟩ := exists_unpack hp hpos
  rcases eq_or_ne i (-1074) with rfl | hmore
  · -- before the least exponent at least the last place is taken away
    have hself : RoundsTo ((n - 1 : Nat) * 2 ^ (-1074 : Int)) (n - 1) (-1074) :=
      .self (.inr rfl) (by have := hcanonical.high; omega) le_rfl
    have hone : ((n - 1 : Nat) : Rat) = n - 1 := by rw [Nat.cast_sub hn, Nat.cast_one]
    rw [hone] at hself
    have hleft := h.value_le hself (by linarith [least_le hq hsome])
    rw [hone] at hleft
    linarith [zpow_pos (two_pos (α := Rat)) (-1074)]
  · have hleast := hcanonical.least
    have hlow : (2 : Rat) ^ (i + 52) ≤ n * 2 ^ i := by
      rw [← RoundsTo.value_of_power, add_sub_cancel_right]
      refine mul_le_mul_of_nonneg_right ?_ (zpow_nonneg zero_le_two i)
      exact_mod_cast hcanonical.full.resolve_right hmore
    have hpower : (2 : Rat) ^ (-1022 : Int) < 2 ^ (i + 52) := zpow_lt_zpow_right₀ one_lt_two (by omega)
    rcases le_total (n * 2 ^ i - q) (2 ^ (-1022 : Int)) with hfew | hmany
    · exact (h.value_le_power le_rfl hfew).trans_lt (hpower.trans_le hlow)
    · have hadded := h.value_le_mul hmany
      linarith

/-- **What is taken away** from a positive double leaves no less of it only if it is not positive, or too small. -/
theorem place_sub_of_lt (hp : Scalar.toRat? x = some p) (hq : place? y = some q) (hpos : 0 < p) (hless : q < p) :
    ∃ v, place? (x - y) = some v ∧ 0 ≤ v ∧ (q ≤ 0 → p ≤ v) ∧ (p ≤ v → 2 ^ 52 * q < p) := by
  rcases toRat_or_neg_reach hq (hless.trans (value_bounds hp).2) with hvalue | ⟨hunpack, rfl⟩
  · obtain ⟨m, e, hrounds, hplace⟩ := isRounded_sub hp hvalue hpos hless
    refine ⟨_, hplace, le_min (value_nonneg _ _) reach_pos.le, fun hlow => ?_, fun hle => ?_⟩
    · have hself := (IsRounded.self hp hpos).le ⟨m, e, hrounds, hplace⟩ (by linarith)
      exact (le_iff_place (place_of_toRat hp) hplace).mp hself
    · by_contra hmuch
      exact (hrounds.lt_of_sub hp hvalue hpos (not_lt.mp hmuch)).not_ge (hle.trans (min_le_left _ _))
  · refine ⟨reach, place_sub_infinite hp hunpack, reach_pos.le, fun _ => (value_bounds hp).2.le, fun _ => ?_⟩
    linarith [reach_pos]

end

end HttpBench.Number
