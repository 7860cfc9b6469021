import HttpBench.Proofs.Statistics.Summaries

/-!
# The order of figures

Of one series the figures stand in order: the mean and the percentiles lie between the least value and the
greatest one, and a percentile of a greater share is no smaller. The variance is never below zero, and it is
zero exactly if all values are equal (`LatencySummary.ofMillis_ordered`).

Of two series of the same length, one of which is nowhere below the other, every figure but the deviation is
ordered as the series are (`LatencySummary.ofMillis_mono`). It does not matter in which order their values
come: sorting them keeps one below the other (`LatencySummary.ascending_le_ascending`).
-/

namespace HttpBench.LatencySummary

open Number

/-! ## One series -/

section
variable {values : List Rat} {hne : values ≠ []}

theorem varianceOf_eq_zero_iff (hsorted : values.Pairwise (· ≤ ·)) (hne : values ≠ []) :
    varianceOf values = 0 ↔ values.head hne = values.getLast hne := by
  have hlength : (values.length : Rat) ≠ 0 := by exact_mod_cast (List.length_pos_iff.mpr hne).ne'
  obtain ⟨hlow, hhigh⟩ := mean_between hsorted hne
  have hmean : ∀ q ∈ values, values.head hne = values.getLast hne → q = meanOf values := by
    intro q hq hends
    have hleast := hsorted.rel_head hq
    have hgreatest := hsorted.rel_getLast hq
    linarith
  constructor
  · intro hzero
    have hsum : (values.map fun q => (q - meanOf values) ^ 2).sum = 0 := by
      rw [varianceOf, meanOf, List.length_map] at hzero
      exact (div_eq_zero_iff.mp hzero).resolve_right hlength
    have hsquares : ∀ q ∈ values, (q - meanOf values) ^ 2 = 0 := by
      intro q hq
      refine List.all_zero_of_le_zero_le_of_sum_eq_zero (fun y hy => ?_) hsum (List.mem_map_of_mem hq)
      obtain ⟨q', _, rfl⟩ := List.mem_map.mp hy
      exact sq_nonneg _
    have hall : ∀ q ∈ values, q = meanOf values := fun q hq => sub_eq_zero.mp (sq_eq_zero_iff.mp (hsquares q hq))
    exact (hall _ (List.head_mem hne)).trans (hall _ (List.getLast_mem hne)).symm
  · intro hends
    have hsquares : (values.map fun q => (q - meanOf values) ^ 2).sum = 0 := by
      refine List.sum_eq_zero fun y hy => ?_
      obtain ⟨q, hq, rfl⟩ := List.mem_map.mp hy
      rw [← hmean q hq hends, sub_self, sq, zero_mul]
    rw [varianceOf, meanOf, hsquares, zero_div]

/-- The value of a series at a rank lies between its ends. -/
theorem interpolated_between_ends (hsorted : values.Pairwise (· ≤ ·)) {share : Rat} (hzero : 0 ≤ share)
    (hone : share ≤ 1) :
    values.head hne ≤ interpolated values (share * (values.length - 1 : Nat)) ∧
      interpolated values (share * (values.length - 1 : Nat)) ≤ values.getLast hne := by
  have hin := ceil_rank_lt hone hne
  have hrank : 0 ≤ share * ((values.length - 1 : Nat) : Rat) := mul_nonneg hzero (Nat.cast_nonneg _)
  generalize share * ((values.length - 1 : Nat) : Rat) = rank at hin hrank
  obtain ⟨hbelow, habove⟩ := interpolated_between hsorted hrank hin
  have hlower := (Nat.floor_le_ceil rank).trans_lt hin
  rw [List.getD_eq_getElem _ _ hlower] at hbelow
  rw [List.getD_eq_getElem _ _ hin] at habove
  exact ⟨(hsorted.rel_head (List.getElem_mem hlower)).trans hbelow,
    habove.trans (hsorted.rel_getLast (List.getElem_mem hin))⟩

/-- A greater share of a series has no smaller value. -/
theorem interpolated_share_mono (hsorted : values.Pairwise (· ≤ ·)) (hne : values ≠ []) {share share' : Rat}
    (hzero : 0 ≤ share) (hle : share ≤ share') (hone : share' ≤ 1) :
    interpolated values (share * (values.length - 1 : Nat)) ≤
      interpolated values (share' * (values.length - 1 : Nat)) :=
  interpolated_mono hsorted (mul_nonneg hzero (Nat.cast_nonneg _))
    (mul_le_mul_of_nonneg_right hle (Nat.cast_nonneg _)) (ceil_rank_lt hone hne)

/-- **Figures in order.** -/
structure Figures.Ordered (figures : Figures) : Prop where
  min_le_mean : figures.min ≤ figures.mean
  mean_le_max : figures.mean ≤ figures.max
  min_le_p50 : figures.min ≤ figures.p50
  p50_le_p95 : figures.p50 ≤ figures.p95
  p95_le_p99 : figures.p95 ≤ figures.p99
  p99_le_max : figures.p99 ≤ figures.max
  variance_nonneg : 0 ≤ figures.variance
  variance_eq_zero_iff : figures.variance = 0 ↔ figures.min = figures.max

theorem Figures.of_ordered (hsorted : values.Pairwise (· ≤ ·)) : (Figures.of values hne).Ordered where
  min_le_mean := (mean_between hsorted hne).1
  mean_le_max := (mean_between hsorted hne).2
  min_le_p50 := (interpolated_between_ends hsorted (by norm_num) (by norm_num)).1
  p50_le_p95 := interpolated_share_mono hsorted hne (by norm_num) (by norm_num) (by norm_num)
  p95_le_p99 := interpolated_share_mono hsorted hne (by norm_num) (by norm_num) (by norm_num)
  p99_le_max := (interpolated_between_ends hsorted (by norm_num) (by norm_num)).2
  variance_nonneg := varianceOf_nonneg values
  variance_eq_zero_iff := varianceOf_eq_zero_iff hsorted hne

end

section
variable {R : Type} [Scalar R] [ExactArithmetic R]

/-- **The summary of any series** in exact arithmetic. There is none exactly if no value is finite. Otherwise
it counts the finite values and shows figures in order, among them the mean and the variance of the finite
values. It never ends in a fault: no rank is missing, and no value is held between reversed bounds. -/
theorem ofMillis_ordered (values : List R) :
    (ofMillis values = .ok none ↔ ∀ x ∈ values, Scalar.isFinite x = false) ∧
      ((∃ x ∈ values, Scalar.isFinite x = true) →
        ∃ l figures, ofMillis values = .ok (some l) ∧ l.count = values.countP Scalar.isFinite ∧ l.Shows figures ∧
          figures.Ordered ∧ figures.mean = meanOf (values.filterMap Scalar.toRat?) ∧
          figures.variance = varianceOf (values.filterMap Scalar.toRat?)) := by
  refine ⟨ofMillis_eq_none values, ?_⟩
  rintro ⟨x, hx, hfinite⟩
  have hcount : (values.filterMap Scalar.toRat?).length = values.countP Scalar.isFinite := by
    rw [← map_numberOf, List.length_map, List.countP_eq_length_filter]
  have hsome : values.filterMap Scalar.toRat? ≠ [] :=
    List.ne_nil_of_mem (List.mem_filterMap.mpr ⟨x, hx, toRat_of_isFinite hfinite⟩)
  obtain ⟨l, hl, hlength, hshows⟩ := ofMillis_exact values hsome
  refine ⟨l, _, hl, hlength.trans hcount, hshows, Figures.of_ordered (ascending_pairwise _), ?_, ?_⟩
  · exact meanOf_perm (ascending_perm _)
  · exact varianceOf_perm (ascending_perm _)

/-- One of three values is no number, and the other two have a summary. -/
theorem ofMillis_ordered_of_three :
    ∃ l figures, ofMillis [PartialRat.number 3, .undefined, .number 1] = .ok (some l) ∧ l.count = 2 ∧
      l.Shows figures ∧ figures.Ordered ∧ figures.mean = 2 ∧ figures.variance = 1 := by
  obtain ⟨_, hsome⟩ := ofMillis_ordered [PartialRat.number 3, .undefined, .number 1]
  obtain ⟨l, figures, hl, hcount, hshows, hordered, hmean, hvariance⟩ := hsome ⟨.number 3, by simp, rfl⟩
  have hnumbers : [PartialRat.number 3, .undefined, .number 1].filterMap Scalar.toRat? = [3, 1] := rfl
  rw [hnumbers] at hmean hvariance
  exact ⟨l, figures, hl, hcount, hshows, hordered, by norm_num [hmean, meanOf],
    by norm_num [hvariance, varianceOf, meanOf]⟩

end

/-! ## Two series -/

section
variable {xs ys : List Rat}

/-- **Sorting keeps one series below another.** -/
theorem ascending_le_ascending (h : List.Forall₂ (· ≤ ·) xs ys) :
    List.Forall₂ (· ≤ ·) (ascending xs) (ascending ys) := by
  have hperm := ascending_perm xs
  have hperm' := ascending_perm ys
  refine List.forall₂_iff_get.mpr ⟨hperm.length_eq.trans (h.length_eq.trans hperm'.length_eq.symm), ?_⟩
  intro i hi hi'
  exact Ascending.getElem_le_getElem h hperm hperm' (ascending_pairwise xs) (ascending_pairwise ys) hi hi'

theorem getD_le_getD_of_forall₂ (h : List.Forall₂ (· ≤ ·) xs ys) (i : Nat) : xs.getD i 0 ≤ ys.getD i 0 := by
  induction h generalizing i with
  | nil => exact le_rfl
  | cons hle _ ih =>
    cases i with
    | zero => exact hle
    | succ i => exact ih i

theorem meanOf_le_meanOf (h : List.Forall₂ (· ≤ ·) xs ys) : meanOf xs ≤ meanOf ys := by
  rw [meanOf, meanOf, h.length_eq]
  exact div_le_div_of_nonneg_right h.sum_le_sum (Nat.cast_nonneg _)

/-- Shares of two series of the same length. -/
theorem interpolated_share_le (h : List.Forall₂ (· ≤ ·) xs ys) {share : Rat} (hzero : 0 ≤ share) :
    interpolated xs (share * (xs.length - 1 : Nat)) ≤ interpolated ys (share * (ys.length - 1 : Nat)) := by
  rw [h.length_eq]
  exact interpolated_le_interpolated (mul_nonneg hzero (Nat.cast_nonneg _)) (getD_le_getD_of_forall₂ h _)
    (getD_le_getD_of_forall₂ h _)

/-- **Figures of two series** in the order of the series. -/
structure Figures.Below (figures figures' : Figures) : Prop where
  min : figures.min ≤ figures'.min
  max : figures.max ≤ figures'.max
  mean : figures.mean ≤ figures'.mean
  p50 : figures.p50 ≤ figures'.p50
  p95 : figures.p95 ≤ figures'.p95
  p99 : figures.p99 ≤ figures'.p99

theorem Figures.of_below (h : List.Forall₂ (· ≤ ·) xs ys) (hne : xs ≠ []) (hne' : ys ≠ []) :
    (Figures.of xs hne).Below (Figures.of ys hne') where
  min := by
    rw [Figures.of, Figures.of]
    simp only [List.head_eq_getElem]
    exact h.get _ _
  max := by
    rw [Figures.of, Figures.of]
    simp only [List.getLast_eq_getElem, h.length_eq]
    exact h.get _ _
  mean := meanOf_le_meanOf h
  p50 := interpolated_share_le h (by norm_num)
  p95 := interpolated_share_le h (by norm_num)
  p99 := interpolated_share_le h (by norm_num)

/-- **Slower requests never lower a figure.** Where one series is nowhere below another of the same length, both
have a summary unless they are empty, and the least value, the mean, the percentiles and the greatest value of
the one are at most those of the other. -/
theorem ofMillis_mono (hne : xs ≠ []) (h : List.Forall₂ (· ≤ ·) xs ys) :
    ∃ l l', ofMillis xs = .ok (some l) ∧ ofMillis ys = .ok (some l') ∧ l.min ≤ l'.min ∧ l.mean ≤ l'.mean ∧
      l.p50 ≤ l'.p50 ∧ l.p95 ≤ l'.p95 ∧ l.p99 ≤ l'.p99 ∧ l.max ≤ l'.max := by
  have hne' : ys ≠ [] := by
    rintro rfl
    exact hne (List.forall₂_nil_right_iff.mp h)
  obtain ⟨l, hl, hshows⟩ := exists_shows hne
  obtain ⟨l', hl', hshows'⟩ := exists_shows hne'
  have hbelow := Figures.of_below (ascending_le_ascending h) (ascending_ne_nil hne) (ascending_ne_nil hne')
  -- a shown rational is the figure itself
  have hle : ∀ {x y p q : Rat}, Scalar.toRat? x = some p → Scalar.toRat? y = some q → p ≤ q → x ≤ y := by
    rintro x y p q ⟨rfl⟩ ⟨rfl⟩ hpq
    exact hpq
  exact ⟨l, l', hl, hl', hle hshows.min hshows'.min hbelow.min, hle hshows.mean hshows'.mean hbelow.mean,
    hle hshows.p50 hshows'.p50 hbelow.p50, hle hshows.p95 hshows'.p95 hbelow.p95,
    hle hshows.p99 hshows'.p99 hbelow.p99, hle hshows.max hshows'.max hbelow.max⟩

/-- Sorting changes the places of these values, and one of them in its own way. -/
theorem ofMillis_mono_of_three :
    [3, 1, 2].Forall₂ (· ≤ ·) [3, 7, (2 : Rat)] ∧
      ∃ l l' : LatencySummary Rat, ofMillis [3, 1, 2] = .ok (some l) ∧ ofMillis [3, 7, 2] = .ok (some l') ∧
        l.min ≤ l'.min ∧ l.mean ≤ l'.mean ∧ l.p50 ≤ l'.p50 ∧ l.p95 ≤ l'.p95 ∧ l.p99 ≤ l'.p99 ∧ l.max ≤ l'.max := by
  have hbelow : [3, 1, 2].Forall₂ (· ≤ ·) [3, 7, (2 : Rat)] := by norm_num
  exact ⟨hbelow, ofMillis_mono (by simp) hbelow⟩

end

end HttpBench.LatencySummary
