import Mathlib.Algebra.Order.BigOperators.Group.List
import Mathlib.Data.List.Pairwise
import Mathlib.Tactic.FieldSimp
import Mathlib.Tactic.Linarith
import Mathlib.Tactic.Ring
import HttpBench.Proofs.Statistics.Percentiles
import HttpBench.Proofs.Statistics.Samples

/-!
# Summaries in exact arithmetic

In exact arithmetic a series has a summary exactly if one of its values is finite, and the summary says what
the finite values are: how many, the least and the greatest of them, their mean, the root of their variance and
three of their percentiles (`LatencySummary.ofMillis_exact`). No rank is missing and no bounds are reversed on
the way, and the mean is the sum over the length: it lies between the least value and the greatest one anyway,
so holding it there changes nothing.

Among the rationals every value is finite. The figures of samples fail there only where their bytes overflow
(`RunStatistics.exists_ofSamples`).
-/

namespace HttpBench

open Number

namespace Number

/-- **The rationals can be sorted.** -/
instance : TotallyOrdered Rat where
  total x y := by simpa [Scalar.ordered] using le_total x y
  trans x y z hxy hyz := decide_eq_true ((of_decide_eq_true hxy).trans (of_decide_eq_true hyz))
  antisymm x y hxy hyx := le_antisymm (of_decide_eq_true hxy) (of_decide_eq_true hyx)

end Number

/-- What never ends with a value does not come to it after a step before. -/
theorem Fault.bind_ne_ok {A B : Type} {x : Except Fault A} {f : A → Except Fault B} {b : B} (hf : ∀ a, f a ≠ .ok b) :
    (x >>= f) ≠ .ok b := by
  cases x with
  | error e => exact fun h => by cases h
  | ok a => exact hf a

/-! ## Sums -/

section
variable {R : Type} [Scalar R] [ExactArithmetic R] {series : List R} {values : List Rat}

/-- What is added to a sum. -/
theorem foldl_exact (h : Denotes series values) {x : R} {q : Rat} (hx : Scalar.toRat? x = some q) :
    Scalar.toRat? (series.foldl (· + ·) x) = some (values.foldl (· + ·) q) := by
  induction h generalizing x q with
  | nil => exact hx
  | cons hy _ ih => exact ih (ExactArithmetic.toRat_add hx hy)

/-- **A sum is exact.** -/
theorem total_exact (h : Denotes series values) : Scalar.toRat? (total series) = some values.sum := by
  cases h with
  | nil => exact toRat_ofNat 0
  | cons hx hrest =>
    rw [List.sum_eq_foldl, List.foldl_cons, zero_add]
    exact foldl_exact hrest hx

/-- The sum over the length. -/
theorem total_div_exact (h : Denotes series values) (hne : values ≠ []) :
    Scalar.toRat? (total series / ofInt series.length) = some (values.sum / values.length) := by
  rw [h.length_eq]
  exact Exact.toRat_div (total_exact h) (toRat_ofNat _) (by simpa using hne)

end

namespace Duration

theorem toMillis_rat (d : Duration) : (d.toMillis : Rat) = d.nanos / 1000000 := rfl

theorem toSeconds_rat (d : Duration) : (d.toSeconds : Rat) = d.nanos / 1000000000 := by
  have hnanos : ((1000000000 * (d.nanos / 1000000000) + d.nanos % 1000000000 : Nat) : Rat) = d.nanos :=
    congrArg Nat.cast (Nat.div_add_mod d.nanos 1000000000)
  push_cast at hnanos
  show ((d.nanos / 1000000000 : Nat) : Rat) + ((d.nanos % 1000000000 : Nat) : Rat) / 1000000000 = _
  linarith

/-- A sum of milliseconds is that of the nanoseconds. -/
theorem sum_toMillis (durations : List Duration) :
    (durations.map toMillis).sum = ((durations.map nanos).sum : Rat) / 1000000 := by
  induction durations with
  | nil => simp
  | cons d durations ih =>
    rw [List.map_cons, List.sum_cons, ih, toMillis_rat, List.map_cons, List.sum_cons]
    push_cast
    ring

end Duration

/-! ## Summaries -/

namespace LatencySummary

/-- **The mean** of a series. -/
def meanOf (values : List Rat) : Rat := values.sum / values.length

/-- **The variance** of a series: the mean of the squared distances from its mean. -/
def varianceOf (values : List Rat) : Rat := meanOf (values.map fun q => (q - meanOf values) ^ 2)

/-- **Figures of a series** as rationals, the variance in the place of the deviation. -/
structure Figures where
  min : Rat
  max : Rat
  mean : Rat
  variance : Rat
  p50 : Rat
  p95 : Rat
  p99 : Rat

/-- **The figures of an ascending series.** -/
def Figures.of (values : List Rat) (hne : values ≠ []) : Figures where
  min := values.head hne
  max := values.getLast hne
  mean := meanOf values
  variance := varianceOf values
  p50 := interpolated values (50 / 100 * (values.length - 1 : Nat))
  p95 := interpolated values (95 / 100 * (values.length - 1 : Nat))
  p99 := interpolated values (99 / 100 * (values.length - 1 : Nat))

/-- **What a summary shows**: the figures, and the root of the variance. -/
structure Shows {R : Type} [Scalar R] (l : LatencySummary R) (figures : Figures) : Prop where
  min : Scalar.toRat? l.min = some figures.min
  max : Scalar.toRat? l.max = some figures.max
  mean : Scalar.toRat? l.mean = some figures.mean
  deviation : ∃ variance, l.deviation = Scalar.sqrt variance ∧ Scalar.toRat? variance = some figures.variance
  p50 : Scalar.toRat? l.p50 = some figures.p50
  p95 : Scalar.toRat? l.p95 = some figures.p95
  p99 : Scalar.toRat? l.p99 = some figures.p99

theorem filter_isFinite (values : List Rat) : values.filter Scalar.isFinite = values :=
  List.filter_eq_self.mpr fun _ _ => rfl

theorem ascending_perm (values : List Rat) : (ascending values).Perm values := by
  rw [ascending, filter_isFinite]
  exact List.mergeSort_perm _ _

theorem ascending_pairwise (values : List Rat) : (ascending values).Pairwise (· ≤ ·) :=
  (List.pairwise_mergeSort TotallyOrdered.trans TotallyOrdered.total _).imp of_decide_eq_true

theorem ascending_ne_nil {values : List Rat} (h : values ≠ []) : ascending values ≠ [] :=
  fun hnil => h (hnil ▸ ascending_perm values).symm.eq_nil

/-- **The mean of an ascending series** lies between its ends. -/
theorem mean_between {values : List Rat} (hsorted : values.Pairwise (· ≤ ·)) (hne : values ≠ []) :
    values.head hne ≤ meanOf values ∧ meanOf values ≤ values.getLast hne := by
  have hpos : (0 : Rat) < values.length := by exact_mod_cast List.length_pos_iff.mpr hne
  have hlow := List.card_nsmul_le_sum values (values.head hne) fun y hy => hsorted.rel_head hy
  have hhigh := List.sum_le_card_nsmul values (values.getLast hne) fun y hy => hsorted.rel_getLast hy
  rw [nsmul_eq_mul] at hlow hhigh
  exact ⟨(le_div_iff₀' hpos).mpr hlow, (div_le_iff₀' hpos).mpr hhigh⟩

theorem meanOf_perm {values values' : List Rat} (h : values.Perm values') : meanOf values = meanOf values' := by
  rw [meanOf, meanOf, h.sum_eq, h.length_eq]

theorem varianceOf_perm {values values' : List Rat} (h : values.Perm values') :
    varianceOf values = varianceOf values' := by
  rw [varianceOf, varianceOf, meanOf_perm h]
  exact meanOf_perm (h.map _)

theorem varianceOf_nonneg (values : List Rat) : 0 ≤ varianceOf values := by
  refine div_nonneg (List.sum_nonneg fun y hy => ?_) (Nat.cast_nonneg _)
  obtain ⟨q, _, rfl⟩ := List.mem_map.mp hy
  exact sq_nonneg _

section
variable {R : Type} [Scalar R]

theorem ascending_eq_nil {values : List R} : ascending values = [] ↔ ∀ x ∈ values, Scalar.isFinite x = false := by
  have hperm : (ascending values).Perm (values.filter Scalar.isFinite) := List.mergeSort_perm _ _
  rw [← List.length_eq_zero_iff, hperm.length_eq, List.length_eq_zero_iff, List.filter_eq_nil_iff]
  simp only [Bool.not_eq_true]

/-- **There is no summary** exactly where no value is finite. -/
theorem ofMillis_eq_none (values : List R) :
    ofMillis values = .ok none ↔ ∀ x ∈ values, Scalar.isFinite x = false := by
  rw [← ascending_eq_nil]
  unfold ofMillis
  dsimp only
  cases ascending values with
  | nil => exact iff_of_true rfl rfl
  | cons x rest =>
    rw [List.head?_cons, List.getLast?_eq_getLast_of_ne_nil (List.cons_ne_nil x rest)]
    refine iff_of_false ?_ (List.cons_ne_nil x rest)
    refine Fault.bind_ne_ok fun _ => ?_
    refine Fault.bind_ne_ok fun _ => ?_
    refine Fault.bind_ne_ok fun _ => ?_
    exact Fault.bind_ne_ok fun _ => by simp [pure, Except.pure]

/-- The rational that a finite value is. -/
def numberOf (x : R) : Rat := (Scalar.toRat? x).getD 0

theorem toRat_of_isFinite {x : R} (h : Scalar.isFinite x = true) : Scalar.toRat? x = some (numberOf x) := by
  obtain ⟨q, hq⟩ := Option.isSome_iff_exists.mp h
  simp [numberOf, hq]

theorem map_numberOf (values : List R) :
    (values.filter Scalar.isFinite).map numberOf = values.filterMap Scalar.toRat? := by
  induction values with
  | nil => rfl
  | cons x values ih => cases hx : Scalar.toRat? x <;> simp [Scalar.isFinite, hx, numberOf, ← ih]

variable {series : List R} {numbers : List Rat}

theorem head_exact (h : Denotes series numbers) (hne : series ≠ []) (hne' : numbers ≠ []) :
    Scalar.toRat? (series.head hne) = some (numbers.head hne') := by
  rw [List.head_eq_getElem, List.head_eq_getElem]
  exact h.get _ _

theorem getLast_exact (h : Denotes series numbers) (hne : series ≠ []) (hne' : numbers ≠ []) :
    Scalar.toRat? (series.getLast hne) = some (numbers.getLast hne') := by
  simp only [List.getLast_eq_getElem, h.length_eq]
  exact h.get _ _

variable [ExactArithmetic R]

/-- **The finite values in order** are the rationals in order that they are. -/
theorem denotes_ascending (values : List R) :
    Denotes (ascending values) (ascending (values.filterMap Scalar.toRat?)) := by
  have hfinite : ∀ x ∈ values.filter Scalar.isFinite, Scalar.toRat? x = some (numberOf x) :=
    fun x hx => toRat_of_isFinite (List.mem_filter.mp hx).2
  -- the rationals are put in order as the values are
  have hsorted : (ascending values).map numberOf = ascending (values.filterMap Scalar.toRat?) := by
    rw [ascending, ascending, filter_isFinite, ← map_numberOf]
    refine List.map_mergeSort fun x hx y hy => ?_
    have horder := ExactArithmetic.ordered_iff (hfinite x hx) (hfinite y hy)
    exact Bool.eq_iff_iff.mpr (horder.trans decide_eq_true_iff.symm)
  rw [← hsorted]
  refine List.forall₂_map_right_iff.mpr (List.forall₂_same.mpr fun x hx => ?_)
  exact hfinite x ((List.mergeSort_perm _ _).mem_iff.mp hx)

theorem varianceAround_exact (h : Denotes series numbers) (hne : numbers ≠ []) {mean : R}
    (hmean : Scalar.toRat? mean = some (meanOf numbers)) :
    Scalar.toRat? (varianceAround mean series) = some (varianceOf numbers) := by
  have hsquares : Denotes (series.map fun x => (x - mean) * (x - mean))
      (numbers.map fun q => (q - meanOf numbers) ^ 2) := by
    refine List.forall₂_map_left_iff.mpr (List.forall₂_map_right_iff.mpr (h.imp fun x q hx => ?_))
    have hdistance := ExactArithmetic.toRat_sub hx hmean
    rw [sq]
    exact ExactArithmetic.toRat_mul hdistance hdistance
  have hmean := total_div_exact hsquares (by simpa using hne)
  rwa [List.length_map] at hmean

/-- **A series with a finite value has a summary**, which counts its finite values and shows their figures. -/
theorem ofMillis_exact (values : List R) (hfinite : values.filterMap Scalar.toRat? ≠ []) :
    ∃ l, ofMillis values = .ok (some l) ∧ l.count = (values.filterMap Scalar.toRat?).length ∧
      l.Shows (Figures.of (ascending (values.filterMap Scalar.toRat?)) (ascending_ne_nil hfinite)) := by
  have hdenotes := denotes_ascending values
  have hsorted := ascending_pairwise (values.filterMap Scalar.toRat?)
  have hlength := (ascending_perm (values.filterMap Scalar.toRat?)).length_eq
  generalize ascending_ne_nil hfinite = hne
  unfold ofMillis
  dsimp only
  generalize ascending values = series at hdenotes
  generalize ascending (values.filterMap Scalar.toRat?) = numbers at hdenotes hsorted hlength hne
  have hne' : series ≠ [] := List.length_pos_iff.mp (hdenotes.length_eq ▸ List.length_pos_iff.mpr hne)
  obtain ⟨hlow, hhigh⟩ := mean_between hsorted hne
  have hleast := head_exact hdenotes hne' hne
  have hgreatest := getLast_exact hdenotes hne' hne
  have hmean := total_div_exact hdenotes hne
  have hvariance := varianceAround_exact hdenotes hne hmean
  have hpositive : Scalar.le Scalar.zero (varianceAround (total series / ofInt series.length) series) = true :=
    (ExactArithmetic.le_iff (toRat_ofNat 0) hvariance).mpr (by exact_mod_cast varianceOf_nonneg numbers)
  obtain ⟨p50, h50, hp50⟩ := percentile_hundredths hdenotes hsorted hne (k := 50) (by norm_num)
  obtain ⟨p95, h95, hp95⟩ := percentile_hundredths hdenotes hsorted hne (k := 95) (by norm_num)
  obtain ⟨p99, h99, hp99⟩ := percentile_hundredths hdenotes hsorted hne (k := 99) (by norm_num)
  rw [List.head?_eq_some_head hne', List.getLast?_eq_some_getLast hne']
  simp only [clamp_of_between hleast hgreatest hmean hlow hhigh, h50, h95, h99, hpositive, bind, Except.bind]
  refine ⟨_, rfl, hdenotes.length_eq.trans hlength, ?_⟩
  exact
    { min := hleast
      max := hgreatest
      mean := hmean
      deviation := ⟨_, rfl, hvariance⟩
      p50 := hp50
      p95 := hp95
      p99 := hp99 }

end

/-- Rationals are finite: all of a series is in its summary. -/
theorem exists_shows {values : List Rat} (hne : values ≠ []) :
    ∃ l, ofMillis values = .ok (some l) ∧ l.Shows (Figures.of (ascending values) (ascending_ne_nil hne)) := by
  have hself : values.filterMap Scalar.toRat? = values := List.filterMap_some
  obtain ⟨l, hl, _, hshows⟩ := ofMillis_exact values (hself.symm ▸ hne)
  refine ⟨l, hl, ?_⟩
  simpa only [hself] using hshows

/-- Among the rationals a series has a summary unless it is empty, and its mean is that of the series. -/
theorem exists_ofMillis (values : List Rat) :
    ∃ summary, ofMillis values = .ok summary ∧ (summary = none ↔ values = []) ∧
      ∀ l, summary = some l → l.mean = values.sum / values.length := by
  rcases eq_or_ne values [] with hnil | hne
  · exact ⟨none, (ofMillis_eq_none values).mpr (by simp [hnil]), by simp [hnil], by simp⟩
  · obtain ⟨l, hl, hshows⟩ := exists_shows hne
    refine ⟨some l, hl, by simp [hne], ?_⟩
    rintro _ ⟨rfl⟩
    exact (Option.some.inj hshows.mean).trans (meanOf_perm (ascending_perm values))

end LatencySummary

namespace RunStatistics

variable {samples : List Sample} {elapsed : Duration}

/-- The responses are the successes and the application errors. -/
theorem length_answered (samples : List Sample) :
    (samples.filter fun x => x.outcome.hasResponse).length =
      samples.countP (fun x => x.outcome.isSuccess) +
        samples.countP fun x => x.outcome.hasResponse && !x.outcome.isSuccess := by
  have hall := List.length_eq_countP_add_countP (fun x : Sample => x.outcome.hasResponse) (l := samples)
  have houtcomes := countP_outcomes samples
  simp only [Bool.not_eq_true, Bool.decide_eq_false] at hall
  rw [← List.countP_eq_length_filter]
  omega

/-- **Samples have figures** among the rationals unless their bytes overflow: the latency is that of the
responses, if there are any, and so is the rate. -/
theorem exists_ofSamples (samples : List Sample) (elapsed : Duration)
    (hroom : (samples.map Sample.bytes).sum < range64) :
    ∃ statistics : RunStatistics Rat, ofSamples samples elapsed = .ok statistics ∧
      (statistics.latency = none ↔ ∀ x ∈ samples, x.outcome.hasResponse = false) ∧
      LatencySummary.ofDurations ((samples.filter fun x => x.outcome.hasResponse).map Sample.total) =
        .ok statistics.latency ∧
      statistics.responseThroughput = perSecond (samples.filter fun x => x.outcome.hasResponse).length elapsed := by
  have hphases : ∀ phase, ∃ summary : Option (LatencySummary Rat), phaseSummary samples phase = .ok summary := by
    intro phase
    obtain ⟨summary, hsummary, _⟩ := LatencySummary.exists_ofMillis
      ((samples.filterMap fun x => x.phases.get phase).map Duration.toMillis)
    exact ⟨summary, hsummary⟩
  obtain ⟨latency, hlatency, hnone, _⟩ := LatencySummary.exists_ofMillis ((latencies samples).map Duration.toMillis)
  obtain ⟨s, hs⟩ := exists_of_summaries elapsed hroom hphases ⟨latency, hlatency⟩
  obtain ⟨_, hof⟩ := of_ofSamples hs
  obtain rfl : latency = s.latency := Except.ok.inj (hlatency.symm.trans hof.latency)
  refine ⟨s, hs, ?_, hlatency, ?_⟩
  · simpa only [latencies, List.map_eq_nil_iff, List.filter_eq_nil_iff, Bool.not_eq_true] using hnone
  · rw [hof.responseThroughput, hof.elapsed, hof.successes, hof.applicationErrors, length_answered]

/-- **Samples that lie one behind the other in so many lanes**: the rate of the responses times their mean
latency is at most the number of lanes. -/
theorem rate_mul_mean_le {statistics : RunStatistics Rat} {lanes : Nat} {latency : LatencySummary Rat}
    (hlatency : LatencySummary.ofDurations ((samples.filter fun x => x.outcome.hasResponse).map Sample.total) =
      .ok statistics.latency)
    (hrate : statistics.responseThroughput =
      perSecond (samples.filter fun x => x.outcome.hasResponse).length elapsed)
    (hlanes : (samples.map (·.total.nanos)).sum ≤ lanes * elapsed.nanos) (hsome : statistics.latency = some latency) :
    statistics.responseThroughput * (latency.mean / 1000) ≤ lanes := by
  generalize hanswered : samples.filter (fun x => x.outcome.hasResponse) = answered at hlatency hrate
  obtain ⟨summary, hsummary, hempty, hmean⟩ :=
    LatencySummary.exists_ofMillis ((answered.map Sample.total).map Duration.toMillis)
  obtain rfl : summary = statistics.latency := Except.ok.inj (hsummary.symm.trans hlatency)
  have hmean := hmean latency hsome
  rw [Duration.sum_toMillis, List.length_map, List.length_map, List.map_map] at hmean
  have hspent : (answered.map (Duration.nanos ∘ Sample.total)).sum ≤ lanes * elapsed.nanos := by
    refine Nat.le_trans (List.Sublist.sum_le_sum ?_ fun _ _ => Nat.zero_le _) hlanes
    exact hanswered ▸ List.filter_sublist.map _
  generalize (answered.map (Duration.nanos ∘ Sample.total)).sum = spent at hmean hspent
  rw [hrate, perSecond, Duration.toSeconds_rat]
  split
  next hpositive =>
    have helapsed : (0 : Rat) < elapsed.nanos :=
      (div_pos_iff_of_pos_right (by norm_num)).mp (of_decide_eq_true hpositive)
    have hlength : (0 : Rat) < answered.length := by
      rw [Nat.cast_pos, List.length_pos_iff]
      rintro rfl
      rw [hempty.mpr rfl] at hsome
      cases hsome
    have hspent : (spent : Rat) ≤ lanes * elapsed.nanos := by exact_mod_cast hspent
    calc ofInt answered.length / (elapsed.nanos / 1000000000 : Rat) * (latency.mean / 1000)
        = answered.length / (elapsed.nanos / 1000000000) * (spent / 1000000 / answered.length / 1000) := by
          rw [hmean]
          rfl
      _ = spent / elapsed.nanos := by
          field_simp
          ring
      _ ≤ lanes := (div_le_iff₀ helapsed).mpr hspent
  next =>
    have hzero : (Scalar.zero : Rat) = 0 := rfl
    rw [hzero, zero_mul]
    exact Nat.cast_nonneg _

end RunStatistics

end HttpBench
