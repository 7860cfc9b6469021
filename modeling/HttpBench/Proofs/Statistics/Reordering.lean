import Mathlib.Algebra.BigOperators.Group.List.Basic
import Mathlib.Algebra.Ring.Nat
import Mathlib.Data.String.Basic
import HttpBench.Statistics.Run

/-!
# The order of the samples

The figures of a run do not depend on the order in which its samples come, to the last bit
(`RunStatistics.ofSamples_of_perm`). Nothing is asked of sums, products or roots for that: to add
doubles in another order may give another sum. It is enough that every series is sorted before
anything is summed (`LatencySummary.ascending_of_perm`), by an order that tells any two values apart
(`Number.TotallyOrdered`), and that what is counted is counted by key (`Tally.ofList_of_perm`).

The one fault that depends on the samples as a whole is the overflow of their bytes
(`RunStatistics.ofSamples_eq_overflow`).
-/

namespace HttpBench

open Number

/-! ## Sorted values -/

/-- **A number system whose values can be sorted** in one way only. -/
class Number.TotallyOrdered (R : Type) [Scalar R] : Prop where
  total : ∀ x y : R, (Scalar.ordered x y || Scalar.ordered y x) = true
  trans : ∀ x y z : R, Scalar.ordered x y = true → Scalar.ordered y z = true → Scalar.ordered x z = true
  antisymm : ∀ x y : R, Scalar.ordered x y = true → Scalar.ordered y x = true → x = y

/-- The place of a double in the order says which double it is. -/
theorem Number.doubleOrderKey_injective : Function.Injective doubleOrderKey := by
  intro x y h
  have hbits : x.toBits.toNat = y.toBits.toNat := by
    unfold doubleOrderKey at h
    dsimp only at h
    split at h <;> split at h <;> omega
  obtain ⟨⟨bits, _⟩⟩ := x
  obtain ⟨⟨bits', _⟩⟩ := y
  obtain rfl : bits = bits' := UInt64.toNat_inj.mp hbits
  rfl

/-- **Doubles can be sorted**, both zeros and what is no number among them. -/
instance : TotallyOrdered Float where
  total x y := by
    simp only [Scalar.ordered, Bool.or_eq_true, decide_eq_true_eq]
    omega
  trans x y z hxy hyz := by
    simp only [Scalar.ordered, decide_eq_true_eq] at *
    omega
  antisymm x y hxy hyx := by
    simp only [Scalar.ordered, decide_eq_true_eq] at hxy hyx
    exact doubleOrderKey_injective (Int.le_antisymm hxy hyx)

namespace LatencySummary

variable {R : Type} [Scalar R] [TotallyOrdered R]

theorem pairwise_ascending (values : List R) :
    (ascending values).Pairwise fun x y => Scalar.ordered x y = true :=
  List.pairwise_mergeSort TotallyOrdered.trans TotallyOrdered.total _

/-- **A series is sorted** into the same one however its values come. -/
theorem ascending_of_perm {values values' : List R} (h : values.Perm values') :
    ascending values = ascending values' := by
  have hperm : (ascending values).Perm (ascending values') :=
    (List.mergeSort_perm _ _).trans ((h.filter _).trans (List.mergeSort_perm _ _).symm)
  exact hperm.eq_of_pairwise (fun x y _ _ => TotallyOrdered.antisymm x y) (pairwise_ascending _) (pairwise_ascending _)

/-- Everything in a summary is read off the sorted series. -/
theorem ofMillis_of_perm {values values' : List R} (h : values.Perm values') : ofMillis values = ofMillis values' := by
  unfold ofMillis
  rw [ascending_of_perm h]

theorem ofDurations_of_perm {durations durations' : List Duration} (h : durations.Perm durations') :
    (ofDurations durations : Except Fault (Option (LatencySummary R))) = ofDurations durations' :=
  ofMillis_of_perm (h.map _)

end LatencySummary

/-! ## Counted keys -/

namespace Tally

variable {K : Type} [LT K] [DecidableLT K] [DecidableEq K] [IsStrictTotalOrder K (· < ·)]

theorem add_add_of_lt {a b : K} (hab : a < b) (tally : Tally K) : (tally.add a).add b = (tally.add b).add a := by
  have hba : ¬b < a := asymm_of (· < ·) hab
  have hne : a ≠ b := ne_of_irrefl hab
  induction tally with
  | nil => simp [add, hba, hne, hne.symm, hab]
  | cons entry rest ih =>
    obtain ⟨k, n⟩ := entry
    rcases trichotomous_of (· < ·) a k with hak | rfl | hka
    -- the smaller of the two stands in front, wherever the other one belongs
    · have ha : a ≠ k := ne_of_irrefl hak
      by_cases hb : b = k
      · simp [add, hab, hba, hne, hne.symm, ← hb]
      · by_cases hbk : b < k <;> simp [add, ha, hak, hb, hbk, hab, hba, hne, hne.symm]
    · simp [add, hba, hne.symm]
    · have hkb : k < b := trans_of (· < ·) hka hab
      have hak : ¬a < k := asymm_of (· < ·) hka
      have hbk : ¬b < k := asymm_of (· < ·) hkb
      simp [add, (ne_of_irrefl hka).symm, (ne_of_irrefl hkb).symm, hak, hbk, ih]

/-- Of two keys it does not matter which one is counted first. -/
theorem add_add (a b : K) (tally : Tally K) : (tally.add a).add b = (tally.add b).add a := by
  rcases trichotomous_of (· < ·) a b with hab | rfl | hba
  · exact add_add_of_lt hab tally
  · rfl
  · exact (add_add_of_lt hba tally).symm

/-- **Keys are counted** to the same tally however they come. -/
theorem ofList_of_perm {keys keys' : List K} (h : keys.Perm keys') : ofList keys = ofList keys' :=
  h.foldl_eq' (fun a _ b _ tally => add_add a b tally) []

end Tally

/-! ## Overflow -/

/-- What overflows in two steps overflows in one of them. -/
theorem Fault.bind_ne_overflow {A B : Type} {x : Except Fault A} {f : A → Except Fault B} (hx : x ≠ .error .overflow)
    (hf : ∀ a, f a ≠ .error .overflow) : (x >>= f) ≠ .error .overflow := by
  cases x with
  | error e => exact fun h => hx (congrArg _ (Except.error.inj h))
  | ok a => exact hf a

section
variable {R : Type} [Scalar R]

theorem clamp_ne_overflow (low high x : R) : clamp low high x ≠ .error .overflow := by
  unfold clamp
  split <;> simp

theorem percentile_ne_overflow (series : List R) (p : R) : percentile series p ≠ .error .overflow := by
  have hvalue : ∀ rank, valueAt series rank ≠ .error .overflow := by
    intro rank
    unfold valueAt
    split <;> simp
  unfold percentile
  split
  · simp
  · simp
  · refine Fault.bind_ne_overflow (clamp_ne_overflow _ _ _) fun _ => ?_
    refine Fault.bind_ne_overflow (hvalue _) fun _ => ?_
    exact Fault.bind_ne_overflow (hvalue _) fun _ => clamp_ne_overflow _ _ _

theorem LatencySummary.ofMillis_ne_overflow (values : List R) : ofMillis values ≠ .error .overflow := by
  unfold ofMillis
  dsimp only
  split
  · refine Fault.bind_ne_overflow (clamp_ne_overflow _ _ _) fun _ => ?_
    refine Fault.bind_ne_overflow (percentile_ne_overflow _ _) fun _ => ?_
    refine Fault.bind_ne_overflow (percentile_ne_overflow _ _) fun _ => ?_
    exact Fault.bind_ne_overflow (percentile_ne_overflow _ _) fun _ => by simp [pure, Except.pure]
  · simp [pure, Except.pure]

end

namespace RunStatistics

variable {R : Type} [Scalar R] {samples samples' : List Sample}

/-- The bytes of all samples. -/
theorem foldr_bytes (samples : List Sample) :
    samples.foldr (fun s total => s.bytes + total) 0 = (samples.map Sample.bytes).sum := by
  rw [List.sum_eq_foldr, List.foldr_map]

/-- **Samples overflow** exactly if their bytes together do not fit 64 bits. -/
theorem ofSamples_eq_overflow (samples : List Sample) (elapsed : Duration) :
    (ofSamples samples elapsed : Except Fault (RunStatistics R)) = .error .overflow ↔
      range64 ≤ (samples.map Sample.bytes).sum := by
  have hphase : ∀ phase, (phaseSummary samples phase : Except Fault (Option (LatencySummary R))) ≠ .error .overflow :=
    fun phase => LatencySummary.ofMillis_ne_overflow _
  unfold ofSamples
  dsimp only
  rw [foldr_bytes]
  constructor
  · intro h
    by_contra hroom
    rw [if_neg hroom] at h
    refine absurd h ?_
    refine Fault.bind_ne_overflow (hphase _) fun _ => ?_
    refine Fault.bind_ne_overflow (hphase _) fun _ => ?_
    refine Fault.bind_ne_overflow (hphase _) fun _ => ?_
    refine Fault.bind_ne_overflow (hphase _) fun _ => ?_
    refine Fault.bind_ne_overflow (hphase _) fun _ => ?_
    refine Fault.bind_ne_overflow (LatencySummary.ofMillis_ne_overflow _) fun _ => ?_
    simp [pure, Except.pure]
  · exact fun h => if_pos h

section
variable [TotallyOrdered R]

theorem phaseSummary_of_perm (h : samples.Perm samples') (phase : Phase) :
    (phaseSummary samples phase : Except Fault (Option (LatencySummary R))) = phaseSummary samples' phase :=
  LatencySummary.ofDurations_of_perm (h.filterMap _)

/-- **The order of the samples does not matter.** Samples that come in another order give the same
figures, every one of them to the last bit, or the same fault. They overflow in every order if their
bytes do not fit 64 bits, and in none otherwise. -/
theorem ofSamples_of_perm (h : samples.Perm samples') (elapsed : Duration) :
    (ofSamples samples elapsed : Except Fault (RunStatistics R)) = ofSamples samples' elapsed ∧
      ((ofSamples samples elapsed : Except Fault (RunStatistics R)) = .error .overflow ↔
        range64 ≤ (samples.map Sample.bytes).sum) := by
  refine ⟨?_, ofSamples_eq_overflow samples elapsed⟩
  simp only [ofSamples, h.length_eq, h.countP_eq, phaseSummary_of_perm h, foldr_bytes, (h.map Sample.bytes).sum_eq,
    LatencySummary.ofDurations_of_perm ((h.filter _).map _), ((h.filter _).filterMap _).length_eq,
    ((h.filter _).filterMap _).countP_eq, Tally.ofList_of_perm (h.filterMap _)]

end

/-- A sample that took so many milliseconds. -/
def sampleOf (sequence millis : Nat) (outcome : Outcome) (phases : PhaseTimes) (fromCache : Bool) : Sample where
  sequence
  outcome
  total := .millis millis
  phases
  fromCache
  bytes := millis
  protocol := none

theorem ofSamples_of_perm_of_three :
    let fetched := sampleOf 0 100 (.success 200) { ttfb := some (.millis 70), reused := some false } false
    let served := sampleOf 1 200 (.success 200) {} true
    let failed := sampleOf 2 300 (.transportError (.dns "no such host")) { dns := some (.millis 10) } false
    (ofSamples [fetched, served, failed] (.seconds 1) : Except Fault (RunStatistics Float)) =
        ofSamples [failed, fetched, served] (.seconds 1) ∧
      (ofSamples [fetched, served, failed] (.seconds 1) : Except Fault (RunStatistics Float)) ≠ .error .overflow := by
  intro fetched served failed
  have hperm : ([fetched, served] ++ [failed]).Perm ([failed] ++ [fetched, served]) := List.perm_append_comm
  obtain ⟨hsame, hoverflow⟩ := ofSamples_of_perm (R := Float) hperm (.seconds 1)
  exact ⟨hsame, fun h => absurd (hoverflow.mp h) (by decide)⟩

end RunStatistics

end HttpBench
