import Mathlib.Data.List.GetD
import Mathlib.Data.Rat.Floor
import Mathlib.Tactic.Linarith
import Mathlib.Tactic.Positivity
import HttpBench.Proofs.Number.Exact
import HttpBench.Proofs.Statistics.Ascending
import HttpBench.Statistics.Latency

/-!
# Percentiles

A percentile of an ascending series is its value at a rank, which need not be a whole number: between two
places the series is taken to be linear (`interpolated`). In exact arithmetic every share of a series has its
percentile (`percentile_exact`). No rank is missing on the way to it and no bounds are reversed; holding the
value between its two neighbours changes nothing, for it lies there anyway.

So a percentile is one: as many values as its rank says are at most the percentile, and as many as there are
behind its rank are at least the percentile, whatever values are equal (`percentile_ranked`). It never falls
when the share grows, nor when the values do.
-/

namespace HttpBench

open Number

namespace Number

variable {R : Type} [Scalar R] {x : R} {q : Rat}

theorem floorNat_eq (hx : Scalar.toRat? x = some q) : Scalar.floorNat x = ⌊q⌋₊ := by
  rw [Scalar.floorNat, hx]
  rfl

theorem ceilNat_eq (hx : Scalar.toRat? x = some q) : Scalar.ceilNat x = ⌈q⌉₊ := by
  have hceil : q.ceil = ⌈q⌉ := eq_of_forall_ge_iff fun n => Rat.ceil_le_iff.trans Int.ceil_le.symm
  rw [Scalar.ceilNat, hx]
  exact congrArg Int.toNat hceil

theorem toRat_ofNat [Exact R] (n : Nat) : Scalar.toRat? (ofInt n : R) = some (n : Rat) := by
  rw [Exact.toRat_ofInt, Int.cast_natCast]

end Number

/-! ## Between two places -/

/-- **The value of a series at a rank**, on the line between its neighbours. -/
def interpolated (series : List Rat) (rank : Rat) : Rat :=
  series.getD ⌊rank⌋₊ 0 + (series.getD ⌈rank⌉₊ 0 - series.getD ⌊rank⌋₊ 0) * (rank - ⌊rank⌋₊)

section
variable {series series' : List Rat} {rank rank' : Rat} {i j : Nat}

theorem getD_le_getD (h : series.Pairwise (· ≤ ·)) (hij : i ≤ j) (hj : j < series.length) :
    series.getD i 0 ≤ series.getD j 0 := by
  rw [List.getD_eq_getElem _ _ hj, List.getD_eq_getElem _ _ (hij.trans_lt hj)]
  exact Ascending.getElem_le_getElem_of_le h hij hj

/-- At a place of the series its value is the one there. -/
theorem interpolated_of_whole (h : ⌈rank⌉₊ = ⌊rank⌋₊) : interpolated series rank = series.getD ⌊rank⌋₊ 0 := by
  rw [interpolated, h, sub_self, zero_mul, add_zero]

/-- **A value lies between its neighbours.** -/
theorem interpolated_between (h : series.Pairwise (· ≤ ·)) (hrank : 0 ≤ rank) (hin : ⌈rank⌉₊ < series.length) :
    series.getD ⌊rank⌋₊ 0 ≤ interpolated series rank ∧ interpolated series rank ≤ series.getD ⌈rank⌉₊ 0 := by
  have hgap : 0 ≤ series.getD ⌈rank⌉₊ 0 - series.getD ⌊rank⌋₊ 0 :=
    sub_nonneg.mpr (getD_le_getD h (Nat.floor_le_ceil rank) hin)
  have hlow : 0 ≤ rank - ⌊rank⌋₊ := sub_nonneg.mpr (Nat.floor_le hrank)
  have hhigh : rank - ⌊rank⌋₊ ≤ 1 := by linarith [Nat.lt_floor_add_one rank]
  have hpart := mul_le_of_le_one_right hgap hhigh
  exact ⟨le_add_of_nonneg_right (mul_nonneg hgap hlow), by unfold interpolated; linarith⟩

/-- **At a greater rank** a series is no smaller. -/
theorem interpolated_mono (h : series.Pairwise (· ≤ ·)) (hrank : 0 ≤ rank) (hle : rank ≤ rank')
    (hin : ⌈rank'⌉₊ < series.length) : interpolated series rank ≤ interpolated series rank' := by
  have hceil : ⌈rank⌉₊ ≤ ⌈rank'⌉₊ := Nat.ceil_mono hle
  obtain ⟨_, hupper⟩ := interpolated_between h hrank (hceil.trans_lt hin)
  obtain ⟨hlower, _⟩ := interpolated_between h (hrank.trans hle) hin
  rcases (Nat.floor_mono hle).eq_or_lt with hsame | hless
  · rcases (Nat.floor_le_ceil rank).eq_or_lt with hwhole | hgap
    · rw [interpolated_of_whole hwhole.symm, hsame]
      exact hlower
    -- both ranks lie in the same gap, where the series is linear
    · have hnext : ⌈rank⌉₊ = ⌈rank'⌉₊ := by
        have := Nat.ceil_le_floor_add_one rank'
        omega
      have hslope : 0 ≤ series.getD ⌈rank'⌉₊ 0 - series.getD ⌊rank'⌋₊ 0 :=
        sub_nonneg.mpr (getD_le_getD h (Nat.floor_le_ceil rank') hin)
      unfold interpolated
      rw [hnext, hsame]
      exact add_le_add_right (mul_le_mul_of_nonneg_left (sub_le_sub_right hle _) hslope) _
  · have hbetween : ⌈rank⌉₊ ≤ ⌊rank'⌋₊ := (Nat.ceil_le_floor_add_one rank).trans hless
    exact (hupper.trans (getD_le_getD h hbetween ((Nat.floor_le_ceil rank').trans_lt hin))).trans hlower

/-- **A series that is greater** at both neighbours is greater at a rank. -/
theorem interpolated_le_interpolated (hrank : 0 ≤ rank) (hbelow : series.getD ⌊rank⌋₊ 0 ≤ series'.getD ⌊rank⌋₊ 0)
    (habove : series.getD ⌈rank⌉₊ 0 ≤ series'.getD ⌈rank⌉₊ 0) :
    interpolated series rank ≤ interpolated series' rank := by
  have hlow : 0 ≤ rank - ⌊rank⌋₊ := sub_nonneg.mpr (Nat.floor_le hrank)
  have hhigh : 0 ≤ 1 - (rank - ⌊rank⌋₊) := by linarith [Nat.lt_floor_add_one rank]
  have hparts := add_le_add (mul_le_mul_of_nonneg_right hbelow hhigh) (mul_le_mul_of_nonneg_right habove hlow)
  unfold interpolated
  linarith

end

/-! ## Percentiles in exact arithmetic -/

section
variable {R : Type} [Scalar R] {series : List R} {values : List Rat}

/-- **The values of a series**, as the rationals that they are. -/
def Denotes (series : List R) (values : List Rat) : Prop :=
  List.Forall₂ (fun x q => Scalar.toRat? x = some q) series values

/-- Rationals denote themselves. -/
theorem denotes_self (values : List Rat) : Denotes values values := List.forall₂_same.mpr fun _ _ => rfl

theorem valueAt_exact (h : Denotes series values) {rank : Nat} (hrank : rank < values.length) :
    ∃ x, valueAt series rank = .ok x ∧ Scalar.toRat? x = some (values.getD rank 0) := by
  have hrank' : rank < series.length := h.length_eq ▸ hrank
  refine ⟨series[rank], by rw [valueAt, List.getElem?_eq_getElem hrank'], ?_⟩
  rw [List.getD_eq_getElem _ _ hrank]
  exact h.get hrank' hrank

/-- The rank of a share of a series lies in it. -/
theorem ceil_rank_lt {share : Rat} (hone : share ≤ 1) (hne : values ≠ []) :
    ⌈share * (values.length - 1 : Nat)⌉₊ < values.length := by
  have hle : share * (values.length - 1 : Nat) ≤ (values.length - 1 : Nat) :=
    mul_le_of_le_one_left (Nat.cast_nonneg _) hone
  have hpos := List.length_pos_iff.mpr hne
  exact (Nat.ceil_le.mpr hle).trans_lt (Nat.sub_lt hpos Nat.one_pos)

variable [ExactArithmetic R]

/-- **A value between its bounds** stays as it is. -/
theorem clamp_of_between {low high x : R} {a b c : Rat} (hlow : Scalar.toRat? low = some a)
    (hhigh : Scalar.toRat? high = some b) (hx : Scalar.toRat? x = some c) (hac : a ≤ c) (hcb : c ≤ b) :
    clamp low high x = .ok x := by
  have hbounds : Scalar.le low high = true := (ExactArithmetic.le_iff hlow hhigh).mpr (hac.trans hcb)
  have hbelow : Scalar.lt x low = false := by simpa using mt (Exact.lt_iff hx hlow).mp hac.not_gt
  have habove : Scalar.lt high x = false := by simpa using mt (Exact.lt_iff hhigh hx).mp hcb.not_gt
  simp [clamp, hbounds, hbelow, habove]

/-- **Every share of a series has its percentile**, the value at its rank. -/
theorem percentile_exact (h : Denotes series values) (hsorted : values.Pairwise (· ≤ ·)) (hne : values ≠ []) {p : R}
    {share : Rat} (hp : Scalar.toRat? p = some share) (hzero : 0 ≤ share) (hone : share ≤ 1) :
    ∃ x, percentile series p = .ok x ∧
      Scalar.toRat? x = some (interpolated values (share * (values.length - 1 : Nat))) := by
  have hlength : series.length = values.length := h.length_eq
  have hin := ceil_rank_lt hone hne
  unfold percentile
  split
  next => exact absurd (List.length_eq_zero_iff.mp hlength.symm) hne
  next only =>
    obtain _ | ⟨honly, ⟨⟩⟩ := h
    exact ⟨only, rfl, by simpa [interpolated] using honly⟩
  next =>
    have hshare : clamp Scalar.zero Scalar.one p = .ok p :=
      clamp_of_between (toRat_ofNat 0) (toRat_ofNat 1) hp (by simpa using hzero) (by simpa using hone)
    have hrank := ExactArithmetic.toRat_mul hp (toRat_ofNat (R := R) (series.length - 1))
    rw [hlength] at hrank ⊢
    have hnonneg : 0 ≤ share * ((values.length - 1 : Nat) : Rat) := mul_nonneg hzero (Nat.cast_nonneg _)
    generalize share * ((values.length - 1 : Nat) : Rat) = rank at hrank hin hnonneg
    obtain ⟨below, hbelow, hlow⟩ := valueAt_exact h ((Nat.floor_le_ceil rank).trans_lt hin)
    obtain ⟨above, habove, hhigh⟩ := valueAt_exact h hin
    simp only [hshare, floorNat_eq hrank, ceilNat_eq hrank, hbelow, habove, bind, Except.bind]
    have hweight := ExactArithmetic.toRat_sub hrank (toRat_ofNat (R := R) ⌊rank⌋₊)
    have hvalue := ExactArithmetic.toRat_add hlow
      (ExactArithmetic.toRat_mul (ExactArithmetic.toRat_sub hhigh hlow) hweight)
    obtain ⟨hleast, hmost⟩ := interpolated_between hsorted hnonneg hin
    split
    next hwhole =>
      rw [← interpolated_of_whole (beq_iff_eq.mp hwhole).symm] at hlow
      exact ⟨below, clamp_of_between hlow hhigh hlow le_rfl hmost, hlow⟩
    next => exact ⟨_, clamp_of_between hlow hhigh hvalue hleast hmost, hvalue⟩

/-- So has every number of hundredths. -/
theorem percentile_hundredths (h : Denotes series values) (hsorted : values.Pairwise (· ≤ ·)) (hne : values ≠ [])
    {k : Nat} (hk : k ≤ 100) :
    ∃ x, percentile series (Scalar.quotient k 100 : R) = .ok x ∧
      Scalar.toRat? x = some (interpolated values (k / 100 * (values.length - 1 : Nat))) := by
  have hk : (k : Rat) ≤ 100 := by exact_mod_cast hk
  have hshare : Scalar.toRat? (Scalar.quotient k 100 : R) = some ((k : Rat) / (100 : Nat)) :=
    Exact.toRat_div (toRat_ofNat k) (toRat_ofNat 100) (by norm_num)
  rw [Nat.cast_ofNat] at hshare
  exact percentile_exact h hsorted hne hshare (by positivity) ((div_le_one (by norm_num)).mpr hk)

end

/-! ## Percentiles of rationals -/

section
variable {series : List Rat} {p : Rat}

theorem percentile_eq (hsorted : series.Pairwise (· ≤ ·)) (hne : series ≠ []) (hzero : 0 ≤ p) (hone : p ≤ 1) :
    percentile series p = .ok (interpolated series (p * (series.length - 1 : Nat))) := by
  obtain ⟨x, hx, hvalue⟩ := percentile_exact (denotes_self series) hsorted hne (p := p) rfl hzero hone
  exact hx.trans (congrArg _ (Option.some.inj hvalue))

/-- **A percentile is one.** An ascending series that is not empty has a percentile for every share `p`. One
value more than the whole part of its rank `p · (n - 1)` is at most the percentile, and as many as there are
from the next whole rank on are at least the percentile. For a greater share it is no smaller. -/
theorem percentile_ranked (hne : series ≠ []) (hsorted : series.Pairwise (· ≤ ·)) (hzero : 0 ≤ p) (hone : p ≤ 1) :
    ∃ v, percentile series p = .ok v ∧
      ⌊p * (series.length - 1)⌋₊ + 1 ≤ series.countP (· ≤ v) ∧
      series.length - ⌈p * (series.length - 1)⌉₊ ≤ series.countP (v ≤ ·) ∧
      ∀ p', p ≤ p' → p' ≤ 1 → ∃ v', percentile series p' = .ok v' ∧ v ≤ v' := by
  have hpos := List.length_pos_iff.mpr hne
  have hin := ceil_rank_lt hone hne
  have hrank : 0 ≤ p * (series.length - 1 : Nat) := mul_nonneg hzero (Nat.cast_nonneg _)
  obtain ⟨hbelow, habove⟩ := interpolated_between hsorted hrank hin
  have hlower := (Nat.floor_le_ceil (p * (series.length - 1 : Nat))).trans_lt hin
  rw [List.getD_eq_getElem _ _ hlower] at hbelow
  rw [List.getD_eq_getElem _ _ hin] at habove
  rw [← Nat.cast_pred hpos]
  refine ⟨_, percentile_eq hsorted hne hzero hone, ?_, ?_, ?_⟩
  · exact (Ascending.getElem_le_iff hsorted hlower).mp hbelow
  · exact Ascending.length_sub_le_countP hsorted hin habove
  · intro p' hle hone'
    have hranks : p * (series.length - 1 : Nat) ≤ p' * (series.length - 1 : Nat) :=
      mul_le_mul_of_nonneg_right hle (Nat.cast_nonneg _)
    exact ⟨_, percentile_eq hsorted hne (hzero.trans hle) hone',
      interpolated_mono hsorted hrank hranks (ceil_rank_lt hone' hne)⟩

/-- Of four values, two of which are equal, the median is at its rank between them. -/
theorem percentile_ranked_of_four :
    ∃ v v', percentile [1, 2, 2, 4] (1 / 2 : Rat) = .ok v ∧ percentile [1, 2, 2, 4] (19 / 20 : Rat) = .ok v' ∧
      ⌊(1 / 2 : Rat) * 3⌋₊ + 1 ≤ [1, 2, 2, 4].countP (· ≤ v) ∧
      4 - ⌈(1 / 2 : Rat) * 3⌉₊ ≤ [1, 2, 2, 4].countP (v ≤ ·) ∧ v ≤ v' := by
  have hsorted : [1, 2, 2, (4 : Rat)].Pairwise (· ≤ ·) := by norm_num
  obtain ⟨v, hv, hbelow, habove, hgreater⟩ :=
    percentile_ranked (p := 1 / 2) (by simp) hsorted (by norm_num) (by norm_num)
  obtain ⟨v', hv', hle⟩ := hgreater (19 / 20) (by norm_num) (by norm_num)
  norm_num at hbelow habove
  refine ⟨v, v', hv, hv', ?_, ?_, hle⟩ <;> norm_num <;> assumption

end

end HttpBench
