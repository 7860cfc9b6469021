import Mathlib
import HttpBench.Proofs.Number.Doubles
import HttpBench.Proofs.Statistics.Reordering
import HttpBench.Proofs.Statistics.Summaries

/-!
# Series that are summed up

A series of durations has a summary unless one of three things goes wrong on the way to it: a value that is not finite
is left out, the rank of a percentile lies behind the series, or the bounds of a value are reversed. None of them
does where a number system sums up series (`SumsUp`). Exact arithmetic does so with all of them.

Doubles do so with any durations that there are and more of them than there can be. A duration in milliseconds is
rounded twice and stays finite. Sorted by their bits, the values ascend (`Number.le_of_ordered`), so that no
bounds are reversed. And the rank of a percentile is rounded three times, which is little against the hundredth of the
series that is left behind the greatest rank (`ceilNat_rank_le`).
-/

namespace HttpBench

open Number

/-! ## Shares -/

namespace Number

variable {R : Type} [Scalar R]

/-- **A share of a whole**: from nothing up to all of it. -/
def IsShare (x : R) : Prop := ∃ q : Rat, Scalar.toRat? x = some q ∧ 0 ≤ q ∧ q ≤ 1

theorem floorNat_le_ceilNat (x : R) : Scalar.floorNat x ≤ Scalar.ceilNat x := by
  cases hx : Scalar.toRat? x with
  | none => simp [Scalar.floorNat, Scalar.ceilNat, hx]
  | some q =>
    rw [floorNat_eq hx, ceilNat_eq hx]
    exact Nat.floor_le_ceil q

end Number

/-! ## Summaries -/

section
variable {R : Type} [Scalar R] {series : List R}

theorem exists_clamp {low high : R} (h : Scalar.le low high = true) (x : R) : ∃ y, clamp low high x = .ok y := by
  rw [clamp, if_pos h]
  exact ⟨_, rfl⟩

omit [Scalar R] in
theorem valueAt_eq {rank : Nat} (h : rank < series.length) : valueAt series rank = .ok series[rank] := by
  rw [valueAt, List.getElem?_eq_getElem h]

/-- **The values ascend.** -/
def Ascends (series : List R) : Prop :=
  ∀ i j (hi : i < series.length) (hj : j < series.length), i ≤ j → Scalar.le series[i] series[j] = true

/-- **The ranks of percentiles** lie in a series of this length. -/
def RanksWithin (R : Type) [Scalar R] (length : Nat) : Prop :=
  ∀ k ∈ [50, 95, 99], clamp Scalar.zero Scalar.one (Scalar.quotient k 100 : R) = .ok (Scalar.quotient k 100) ∧
    (1 < length → Scalar.ceilNat (Scalar.quotient k 100 * ofInt (length - 1 : Nat) : R) < length)

/-- **A percentile is there** if its rank is not behind the series. -/
theorem exists_percentile (hascends : Ascends series) {p share : R}
    (hshare : clamp Scalar.zero Scalar.one p = .ok share)
    (hrank : 1 < series.length → Scalar.ceilNat (share * ofInt (series.length - 1 : Nat)) < series.length) :
    ∃ x, percentile series p = .ok x := by
  unfold percentile
  split
  next => exact ⟨_, rfl⟩
  next only => exact ⟨only, rfl⟩
  next hnone hone =>
    have hmany : 1 < series.length := by
      rcases series with _ | ⟨x, _ | ⟨y, rest⟩⟩
      · exact absurd rfl hnone
      · exact absurd rfl (hone x)
      · simp
    have hupper := hrank hmany
    have hlower := floorNat_le_ceilNat (share * ofInt (series.length - 1 : Nat))
    simp only [hshare, valueAt_eq hupper, valueAt_eq (hlower.trans_lt hupper), bind, Except.bind]
    exact exists_clamp (hascends _ _ (hlower.trans_lt hupper) hupper hlower) _

end

namespace LatencySummary

variable {R : Type} [Scalar R]

/-- How many values are summed up; none without a summary. -/
def countOf (summary : Option (LatencySummary R)) : Nat := summary.elim 0 (·.count)

/-- **A series that ascends** is summed up with all its values, if no percentile has its rank behind it. -/
theorem ofMillis_of_ascends {values : List R} (hne : ascending values ≠ []) (hascends : Ascends (ascending values))
    (hranks : RanksWithin R (ascending values).length) :
    ∃ l, ofMillis values = .ok (some l) ∧ l.count = (ascending values).length := by
  have hpercentile : ∀ k ∈ [50, 95, 99], ∃ x, percentile (ascending values) (Scalar.quotient k 100 : R) = .ok x :=
    fun k hk => exists_percentile hascends (hranks k hk).1 (hranks k hk).2
  unfold ofMillis
  dsimp only
  generalize ascending values = series at hne hascends hpercentile
  have hpos := List.length_pos_iff.mpr hne
  have hbounds : Scalar.le (series.head hne) (series.getLast hne) = true := by
    rw [List.head_eq_getElem, List.getLast_eq_getElem]
    exact hascends 0 (series.length - 1) hpos (by omega) (Nat.zero_le _)
  obtain ⟨mean, hmean⟩ := exists_clamp hbounds (total series / ofInt series.length)
  obtain ⟨p50, hp50⟩ := hpercentile 50 (by simp)
  obtain ⟨p95, hp95⟩ := hpercentile 95 (by simp)
  obtain ⟨p99, hp99⟩ := hpercentile 99 (by simp)
  rw [List.head?_eq_some_head hne, List.getLast?_eq_some_getLast hne]
  simp only [hmean, hp50, hp95, hp99, bind, Except.bind]
  exact ⟨_, rfl, rfl⟩

end LatencySummary

/-! ## Number systems that sum up series -/

open LatencySummary (countOf)

/-- **A number system that sums up series**: up to so many durations, none of them longer than it tells, have a
summary that counts them all. Of a whole no greater than it counts, every part is a share. -/
class SumsUp (R : Type) [Scalar R] where
  /-- the most values that it counts -/
  most : ℕ∞
  /-- the longest duration that it tells, in nanoseconds -/
  longest : ℕ∞
  isShare_zero : IsShare (Scalar.zero : R)
  isShare_quotient : ∀ {part whole : Nat}, part ≤ whole → 0 < whole → whole ≤ most →
    IsShare (Scalar.quotient part whole : R)
  exists_ofDurations : ∀ {durations : List Duration}, durations.length ≤ most →
    (∀ d ∈ durations, d.nanos ≤ longest) →
    ∃ summary : Option (LatencySummary R), LatencySummary.ofDurations durations = .ok summary ∧
      countOf summary = durations.length ∧ (summary = none ↔ durations = [])

/-- **Exact arithmetic** sums up all series. -/
instance {R : Type} [Scalar R] [ExactArithmetic R] : SumsUp R where
  most := ⊤
  longest := ⊤
  isShare_zero := ⟨0, toRat_ofNat 0, le_rfl, zero_le_one⟩
  isShare_quotient := by
    intro part whole hle hpos _
    refine ⟨_, toRat_quotient part hpos, div_nonneg (Nat.cast_nonneg _) (Nat.cast_nonneg _), ?_⟩
    exact div_le_one_of_le₀ (by exact_mod_cast hle) (Nat.cast_nonneg _)
  exists_ofDurations := by
    intro durations _ _
    have hnumbers : (durations.map Duration.toMillis : List R).filterMap Scalar.toRat? =
        durations.map fun d => (d.nanos / 1000000 : Rat) := by
      rw [List.filterMap_map, ← List.filterMap_eq_map]
      exact List.filterMap_congr fun d _ => Duration.toRat_toMillis d
    rcases eq_or_ne durations [] with rfl | hne
    · exact ⟨none, (LatencySummary.ofMillis_eq_none _).mpr (by simp), rfl, iff_of_true rfl rfl⟩
    · obtain ⟨l, hl, hcount, _⟩ := LatencySummary.ofMillis_exact (durations.map Duration.toMillis : List R)
        (by simpa [hnumbers] using hne)
      rw [hnumbers, List.length_map] at hcount
      exact ⟨some l, hl, hcount, iff_of_false (Option.some_ne_none l) hne⟩

/-! ## Series of doubles -/

/-- **A duration in milliseconds** is a double that is finite. -/
theorem isFinite_toMillis {d : Duration} (h : d.nanos < 2 ^ 96) : Scalar.isFinite (d.toMillis : Float) = true := by
  obtain ⟨v, w, hnonneg, hmost, hone, _, hrounded⟩ :=
    @isRounded_quotient d.nanos 1000000 (by norm_num) h (by norm_num)
  obtain ⟨_, _, _, hvalue⟩ := hrounded.toRat (i := 96) (by norm_num) ((div_le_self hnonneg hone).trans hmost)
  exact Option.isSome_iff_exists.mpr ⟨_, hvalue⟩

/-- **Finite doubles in order** ascend. -/
theorem ascends_ascending (values : List Float) : Ascends (LatencySummary.ascending values) := by
  intro i j hi hj hij
  have hmem : ∀ x ∈ LatencySummary.ascending values, ∃ q, Scalar.toRat? x = some q := fun x hx =>
    Option.isSome_iff_exists.mp (List.mem_filter.mp ((List.mergeSort_perm _ _).mem_iff.mp hx)).2
  obtain ⟨_, hx⟩ := hmem _ (List.getElem_mem hi)
  obtain ⟨_, hy⟩ := hmem _ (List.getElem_mem hj)
  refine (le_iff_place (place_of_toRat hx) (place_of_toRat hy)).mpr
    (le_of_ordered (place_of_toRat hx) (place_of_toRat hy) ?_)
  rcases hij.eq_or_lt with rfl | hless
  · simpa using TotallyOrdered.total (LatencySummary.ascending values)[i] (LatencySummary.ascending values)[i]
  · exact List.pairwise_iff_getElem.mp (LatencySummary.pairwise_ascending values) i j hi hj hless

/-- Some hundredths are rounded to no more than the greatest of them. -/
theorem toRat_hundredths {k : Nat} (hk : 0 < k) (hk' : k ≤ 99) :
    ∃ v, Scalar.toRat? (Scalar.quotient k 100 : Float) = some v ∧ 2 ^ (-7 : Int) ≤ v ∧ v ≤ 1 ∧
      v ≤ 99 / 100 * (1 + 1 / 2 ^ 53) := by
  have hone : (1 : Rat) ≤ k := by exact_mod_cast hk
  have hmost : (k : Rat) ≤ 99 := by exact_mod_cast hk'
  have hlow : (2 : Rat) ^ (-7 : Int) ≤ (k : Rat) / (100 : Nat) := by
    rw [le_div_iff₀ (by norm_num)]
    norm_num
    linarith
  have hshare : (k : Rat) / (100 : Nat) ≤ 99 / 100 := by
    push_cast
    linarith
  have hhigh : (k : Rat) / (100 : Nat) ≤ 2 ^ (0 : Int) := hshare.trans (by norm_num)
  obtain ⟨m, e, hrounds, hvalue⟩ :=
    (isRounded_quotient_of_lt (by norm_num) (by omega) (by norm_num)).toRat (by norm_num) hhigh
  have hnormal : (2 : Rat) ^ (-1022 : Int) ≤ (k : Rat) / (100 : Nat) :=
    (zpow_le_zpow_right₀ one_le_two (by norm_num)).trans hlow
  exact ⟨_, hvalue, hrounds.power_le_value (by norm_num) hlow,
    (hrounds.value_le_power (by norm_num) hhigh).trans_eq (zpow_zero 2),
    (hrounds.value_le_mul hnormal).trans (mul_le_mul_of_nonneg_right hshare (by norm_num))⟩

/-- The length of a series is rounded to little more. -/
theorem toRat_length {n : Nat} (hn : 0 < n) (hroom : n < 2 ^ 96) :
    ∃ v, Scalar.toRat? (ofInt n : Float) = some v ∧ 1 ≤ v ∧ v ≤ 2 ^ (96 : Int) ∧ v ≤ n * (1 + 1 / 2 ^ 53) := by
  have hone : (2 : Rat) ^ (0 : Int) ≤ n := (zpow_zero (2 : Rat)).trans_le (by exact_mod_cast hn)
  have hnormal : (2 : Rat) ^ (-1022 : Int) ≤ n := (zpow_le_zpow_right₀ one_le_two (by norm_num)).trans hone
  obtain ⟨m, e, hrounds, hvalue⟩ := toRat_ofNat_of_lt hroom
  exact ⟨_, hvalue, (zpow_zero (2 : Rat)).symm.trans_le (hrounds.power_le_value (by norm_num) hone),
    hrounds.value_le_power (by norm_num) (natCast_le_power hroom), hrounds.value_le_mul hnormal⟩

/-- **The rank of a percentile** stays in the series, though each of its two factors and then their product is
rounded. -/
theorem ceilNat_rank_le {k n : Nat} (hk : 0 < k) (hk' : k ≤ 99) (hn : 0 < n) (hroom : n < 2 ^ 96) :
    Scalar.ceilNat (Scalar.quotient k 100 * ofInt n : Float) ≤ n := by
  obtain ⟨v, hvalue, hlow, hone, hshare⟩ := toRat_hundredths hk hk'
  obtain ⟨w, hvalue', hone', hhigh, hlength⟩ := toRat_length hn hroom
  have hpos : 0 < v := (zpow_pos two_pos _).trans_le hlow
  have hpos' : 0 < w := one_pos.trans_le hone'
  have hnormal : (2 : Rat) ^ (-1022 : Int) ≤ v * w :=
    calc (2 : Rat) ^ (-1022 : Int) ≤ 2 ^ (-7 : Int) := zpow_le_zpow_right₀ one_le_two (by norm_num)
      _ ≤ v := hlow
      _ ≤ v * w := le_mul_of_one_le_right hpos.le hone'
  have hmost : v * w ≤ 2 ^ (96 : Int) := (mul_le_of_le_one_left hpos'.le hone).trans hhigh
  obtain ⟨m, e, hrounds, hrank⟩ := (isRounded_mul hvalue hvalue' hpos hpos').toRat (by norm_num) hmost
  rw [ceilNat_eq hrank, Nat.ceil_le]
  -- three roundings up are still less than the hundredth that is left
  calc (m : Rat) * 2 ^ e ≤ v * w * (1 + 1 / 2 ^ 53) := hrounds.value_le_mul hnormal
    _ ≤ 99 / 100 * (1 + 1 / 2 ^ 53) * (n * (1 + 1 / 2 ^ 53)) * (1 + 1 / 2 ^ 53) :=
      mul_le_mul_of_nonneg_right (mul_le_mul hshare hlength hpos'.le (by norm_num)) (by norm_num)
    _ = 99 / 100 * (1 + 1 / 2 ^ 53) ^ 3 * n := by ring
    _ ≤ 1 * n := mul_le_mul_of_nonneg_right (by norm_num) (Nat.cast_nonneg n)
    _ = n := one_mul _

theorem clamp_hundredths {k : Nat} (hk : k ∈ [50, 95, 99]) :
    clamp Scalar.zero Scalar.one (Scalar.quotient k 100 : Float) = .ok (Scalar.quotient k 100) := by
  have hbounds : Scalar.le (Scalar.zero : Float) Scalar.one = true := by decide +kernel
  have hwithin : ∀ k ∈ [50, 95, 99], Scalar.lt (Scalar.quotient k 100 : Float) Scalar.zero = false ∧
      Scalar.lt Scalar.one (Scalar.quotient k 100 : Float) = false := by decide +kernel
  obtain ⟨hlow, hhigh⟩ := hwithin k hk
  simp [clamp, hbounds, hlow, hhigh]

theorem ranksWithin_double {length : Nat} (hroom : length < 2 ^ 96) : RanksWithin Float length := by
  refine fun k hk => ⟨clamp_hundredths hk, fun hmany => ?_⟩
  have hk' : 0 < k ∧ k ≤ 99 := by
    revert k
    decide
  exact Nat.lt_of_le_of_lt (ceilNat_rank_le hk'.1 hk'.2 (by omega) (by omega)) (Nat.sub_lt (by omega) Nat.one_pos)

/-- A part of a whole is a share, however great they are. -/
theorem isShare_double {part whole : Nat} (hle : part ≤ whole) (hpos : 0 < whole) (hroom : whole < 2 ^ 96) :
    IsShare (Scalar.quotient part whole : Float) := by
  obtain ⟨v, w, hnonneg, _, hone, horder, hrounded⟩ := isRounded_quotient hpos (hle.trans_lt hroom) hroom
  have hshare : v / w ≤ 2 ^ (0 : Int) := by
    rw [zpow_zero]
    exact div_le_one_of_le₀ (horder hle) (zero_le_one.trans hone)
  obtain ⟨m, e, hrounds, hvalue⟩ := hrounded.toRat (by norm_num) hshare
  have hmost := hrounds.value_le_power (by norm_num) hshare
  rw [zpow_zero] at hmost
  exact ⟨_, hvalue, value_nonneg m e, hmost⟩

/-- **A series of doubles** is summed up with all its durations. -/
theorem ofDurations_double {durations : List Duration} (hne : durations ≠ []) (hroom : durations.length < 2 ^ 96)
    (hlongest : ∀ d ∈ durations, d.nanos < 2 ^ 96) :
    ∃ l : LatencySummary Float, LatencySummary.ofDurations durations = .ok (some l) ∧ l.count = durations.length := by
  have hall : (durations.map Duration.toMillis : List Float).filter Scalar.isFinite =
      durations.map Duration.toMillis := by
    refine List.filter_eq_self.mpr fun x hx => ?_
    obtain ⟨d, hd, rfl⟩ := List.mem_map.mp hx
    exact isFinite_toMillis (hlongest d hd)
  have hlength : (LatencySummary.ascending (durations.map Duration.toMillis : List Float)).length =
      durations.length := by
    rw [LatencySummary.ascending, List.length_mergeSort, hall, List.length_map]
  have hne' := List.length_pos_iff.mp (hlength ▸ List.length_pos_iff.mpr hne)
  obtain ⟨l, hl, hcount⟩ := LatencySummary.ofMillis_of_ascends hne' (ascends_ascending _)
    (hlength ▸ ranksWithin_double hroom)
  exact ⟨l, hl, hcount.trans hlength⟩

/-- **Doubles** sum up the series of any durations that there are. -/
instance : SumsUp Float where
  most := (range64 - 1 : Nat)
  longest := Duration.longest.nanos
  isShare_zero := ⟨0, toRat_ofNat_zero, le_rfl, zero_le_one⟩
  isShare_quotient := by
    intro part whole hle hpos hmost
    have hroom : whole ≤ range64 - 1 := Nat.cast_le.mp hmost
    exact isShare_double hle hpos (hroom.trans_lt (by norm_num [range64]))
  exists_ofDurations := by
    intro durations hmost hlongest
    have hroom : durations.length < 2 ^ 96 :=
      Nat.lt_of_le_of_lt (Nat.cast_le.mp hmost) (by norm_num [range64])
    have hreach : Duration.longest.nanos < 2 ^ 96 := by decide
    rcases eq_or_ne durations [] with rfl | hne
    · exact ⟨none, (LatencySummary.ofMillis_eq_none _).mpr (by simp), rfl, iff_of_true rfl rfl⟩
    · have hshort : ∀ d ∈ durations, d.nanos < 2 ^ 96 := fun d hd =>
        Nat.lt_of_le_of_lt (Nat.cast_le.mp (hlongest d hd)) hreach
      obtain ⟨l, hl, hcount⟩ := ofDurations_double hne hroom hshort
      exact ⟨some l, hl, hcount, iff_of_false (Option.some_ne_none l) hne⟩

end HttpBench
