import Mathlib.Data.ENat.Basic
import HttpBench.Diagnosis.Basic
import HttpBench.Proofs.Number.Doubles
import HttpBench.Proofs.Statistics.Samples

/-!
# Failures among the samples

A transport failure that got through no phase and read nothing has no place among the latencies. Put such failures
among samples, anywhere, and every series of theirs stays what it was (`RunStatistics.latencies_interleaved`,
`RunStatistics.phaseSummary_interleaved`), value by value and so to the last bit. So no rule that looks at latencies
comes to another finding, and a server that fails does not look fast. The failures do count: they are samples, they
are transport errors, and the error rate does not fall (`RunStatistics.ofSamples_interleaved`).

Nothing is asked of sums or roots for that. Only the last law needs shares to be in order, as they are in exact
arithmetic and, for fewer than `2 ^ 53` samples, in doubles.
-/

namespace HttpBench

open Number

/-! ## Two lists in one -/

/-- **Two lists in one**: each keeps its order, and they alternate in any way. -/
inductive Interleaving {A : Type} : List A → List A → List A → Prop where
  | nil : Interleaving [] [] []
  | left {x : A} {xs ys zs : List A} : Interleaving xs ys zs → Interleaving (x :: xs) ys (x :: zs)
  | right {y : A} {xs ys zs : List A} : Interleaving xs ys zs → Interleaving xs (y :: ys) (y :: zs)

namespace Interleaving

variable {A B : Type} {xs ys zs : List A}

theorem perm (h : Interleaving xs ys zs) : zs.Perm (xs ++ ys) := by
  induction h with
  | nil => exact .nil
  | left _ ih => exact ih.cons _
  | right _ ih => exact (ih.cons _).trans List.perm_middle.symm

theorem countP_eq (h : Interleaving xs ys zs) (p : A → Bool) : zs.countP p = xs.countP p + ys.countP p := by
  rw [h.perm.countP_eq, List.countP_append]

theorem length_eq (h : Interleaving xs ys zs) : zs.length = xs.length + ys.length := by
  rw [h.perm.length_eq, List.length_append]

/-- What picks nothing of the one list picks the same of both together as of the other. -/
theorem filterMap_eq (h : Interleaving xs ys zs) {f : A → Option B} (hnone : ∀ y ∈ ys, f y = none) :
    zs.filterMap f = xs.filterMap f := by
  induction h with
  | nil => rfl
  | left _ ih => simp only [List.filterMap_cons, ih hnone]
  | right _ ih =>
    rw [List.filterMap_cons_none (hnone _ (List.mem_cons_self ..))]
    exact ih fun y hy => hnone y (List.mem_cons_of_mem _ hy)

theorem filter_eq (h : Interleaving xs ys zs) {p : A → Bool} (hnone : ∀ y ∈ ys, p y = false) :
    zs.filter p = xs.filter p := by
  rw [← List.filterMap_eq_filter, h.filterMap_eq fun y hy => Option.guard_eq_none_iff.mpr (hnone y hy)]

end Interleaving

/-! ## Failures that left nothing behind -/

/-- **A transport failure that left nothing behind**: no phase was seen and nothing was read. -/
structure Sample.LeavesNothing (x : Sample) : Prop where
  failed : ∃ failure, x.outcome = .transportError failure
  phases : x.phases.isEmpty = true
  bytes : x.bytes = 0

namespace Sample.LeavesNothing

variable {x : Sample}

theorem hasResponse (h : x.LeavesNothing) : x.outcome.hasResponse = false := by
  obtain ⟨failure, hfailure⟩ := h.failed
  rw [hfailure]
  rfl

theorem isSuccess (h : x.LeavesNothing) : x.outcome.isSuccess = false := by
  obtain ⟨failure, hfailure⟩ := h.failed
  rw [hfailure]
  rfl

theorem status (h : x.LeavesNothing) : x.outcome.status? = none := by
  obtain ⟨failure, hfailure⟩ := h.failed
  rw [hfailure]
  rfl

theorem phase (h : x.LeavesNothing) (phase : Phase) : x.phases.get phase = none := by
  have hall := List.all_eq_true.mp h.phases phase (by cases phase <;> decide)
  exact Option.isNone_iff_eq_none.mp hall

end Sample.LeavesNothing

/-! ## Rules on latencies -/

/-- **A rule on latencies**: that a phase is slow, or that the latency varies. -/
inductive Rule.OnLatencies {R : Type} [Scalar R] : Rule R → Prop where
  | phase (name : String) (phase : Phase) (dimension : Dimension) (label : String) (limit : Thresholds R → R) :
    OnLatencies (.phaseLatency name phase dimension label limit)
  | jitter : OnLatencies .latencyJitter

theorem PhaseSummaries.ext_get {R : Type} {a b : PhaseSummaries R} (h : ∀ phase, a.get phase = b.get phase) :
    a = b := by
  obtain ⟨dns, connect, tls, ttfb, transfer⟩ := a
  obtain ⟨dns', connect', tls', ttfb', transfer'⟩ := b
  obtain rfl : dns = dns' := h .dns
  obtain rfl : connect = connect' := h .connect
  obtain rfl : tls = tls' := h .tls
  obtain rfl : ttfb = ttfb' := h .ttfb
  obtain rfl : transfer = transfer' := h .transfer
  rfl

namespace RunStatistics

/-- **As fast**: the same successes, statuses and latencies, of all requests and of each phase. -/
structure AsFast {R : Type} (s s' : RunStatistics R) : Prop where
  latency : s'.latency = s.latency
  variation : s'.variation = s.variation
  phases : s'.phases = s.phases
  statuses : s'.statuses = s.statuses
  successes : s'.successes = s.successes

variable {R : Type} [Scalar R] {samples failures samples' : List Sample} {elapsed : Duration}
  {s s' : RunStatistics R}

/-- Rules on latencies look at nothing else. -/
theorem AsFast.evaluate_eq (h : s.AsFast s') {rule : Rule R} (hrule : rule.OnLatencies) (context : RunContext R)
    (thresholds : Thresholds R) : rule.evaluate s' context thresholds = rule.evaluate s context thresholds := by
  cases hrule with
  | phase => simp only [Rule.phaseLatency, h.phases]
  | jitter => simp only [Rule.latencyJitter, h.latency, h.variation]

theorem AsFast.diagnosis_eq (h : s.AsFast s') {rules : List (Rule R)} (hrules : ∀ rule ∈ rules, rule.OnLatencies)
    (context : RunContext R) (thresholds : Thresholds R) :
    Diagnosis.ofRules rules s' context thresholds = Diagnosis.ofRules rules s context thresholds := by
  have hverdicts : (rules.map fun rule => (rule.name, rule.evaluate s' context thresholds)) =
      rules.map fun rule => (rule.name, rule.evaluate s context thresholds) :=
    List.map_congr_left fun rule hrule => by rw [h.evaluate_eq (hrules rule hrule)]
  simp only [Diagnosis.ofRules, hverdicts]

section
variable (h : Interleaving samples failures samples') (hfailures : ∀ x ∈ failures, x.LeavesNothing)
include h hfailures

theorem latencies_interleaved : latencies samples' = latencies samples := by
  rw [latencies, latencies, h.filter_eq fun x hx => (hfailures x hx).hasResponse]

theorem phaseSummary_interleaved (phase : Phase) :
    (phaseSummary samples' phase : Except Fault (Option (LatencySummary R))) = phaseSummary samples phase := by
  rw [phaseSummary, phaseSummary, h.filterMap_eq fun x hx => (hfailures x hx).phase phase]

theorem sum_bytes_interleaved : (samples'.map Sample.bytes).sum = (samples.map Sample.bytes).sum := by
  have hnone : (failures.map Sample.bytes).sum = 0 := by
    refine List.sum_eq_zero fun n hn => ?_
    obtain ⟨x, hx, rfl⟩ := List.mem_map.mp hn
    exact (hfailures x hx).bytes
  rw [(h.perm.map Sample.bytes).sum_eq, List.map_append, List.sum_append, hnone, Nat.add_zero]

theorem IsOf.asFast (hs : s.IsOf samples elapsed) (hs' : s'.IsOf samples' elapsed) : s.AsFast s' := by
  have hlatency : s'.latency = s.latency := by
    refine Except.ok.inj (hs'.latency.symm.trans ?_)
    rw [latencies_interleaved h hfailures, hs.latency]
  exact
    { latency := hlatency
      variation := by rw [hs'.variation, hlatency, hs.variation]
      phases := by
        refine PhaseSummaries.ext_get fun phase => Except.ok.inj ((hs'.phases phase).symm.trans ?_)
        rw [phaseSummary_interleaved h hfailures, hs.phases]
      statuses := by rw [hs'.statuses, hs.statuses, h.filterMap_eq fun x hx => (hfailures x hx).status]
      successes := by
        have hnone : failures.countP (fun x => x.outcome.isSuccess) = 0 :=
          List.countP_eq_zero.mpr fun x hx => by simp [(hfailures x hx).isSuccess]
        rw [hs'.successes, h.countP_eq, hnone, hs.successes, Nat.add_zero] }

theorem samples_interleaved (hs : s.IsOf samples elapsed) (hs' : s'.IsOf samples' elapsed) :
    s'.samples = s.samples + failures.length ∧ s'.transportErrors = s.transportErrors + failures.length ∧
      s'.failures = s.failures + failures.length := by
  have hall : failures.countP (fun x => !x.outcome.hasResponse) = failures.length :=
    List.countP_eq_length.mpr fun x hx => by simp [(hfailures x hx).hasResponse]
  have hnone : failures.countP (fun x => x.outcome.hasResponse && !x.outcome.isSuccess) = 0 :=
    List.countP_eq_zero.mpr fun x hx => by simp [(hfailures x hx).hasResponse]
  have htransport : s'.transportErrors = s.transportErrors + failures.length := by
    rw [hs'.transportErrors, hs.transportErrors, h.countP_eq, hall]
  have happlication : s'.applicationErrors = s.applicationErrors := by
    rw [hs'.applicationErrors, hs.applicationErrors, h.countP_eq, hnone, Nat.add_zero]
  refine ⟨by rw [hs'.samples, hs.samples, h.length_eq], htransport, ?_⟩
  rw [hs'.failures, hs.failures, htransport, happlication, Nat.add_assoc]

end

/-- **The error rate does not fall** where failures are added to failures and to samples. -/
theorem errorRate_le [OrdersShares R] {added : Nat} (hs : s.IsOf samples elapsed) (hs' : s'.IsOf samples' elapsed)
    (hle : s.failures ≤ s.samples) (hsamples : s'.samples = s.samples + added)
    (hfailures : s'.failures = s.failures + added) (hlimit : s'.samples ≤ OrdersShares.limit R) :
    Scalar.le s.errorRate s'.errorRate = true := by
  have hlimit' : (s.samples : ℕ∞) ≤ OrdersShares.limit R := by
    refine le_trans ?_ hlimit
    exact_mod_cast hsamples ▸ Nat.le_add_right ..
  rw [hs.errorRate, hs'.errorRate, ratio?, ratio?]
  by_cases hnone' : s'.samples = 0
  · have hnone : s.samples = 0 := by omega
    rw [if_pos hnone, if_pos hnone']
    exact OrdersShares.zero_le_zero
  rw [if_neg hnone', Option.getD_some]
  by_cases hnone : s.samples = 0
  · rw [if_pos hnone]
    exact OrdersShares.zero_le_share (by omega) (by omega) hlimit
  · rw [if_neg hnone]
    refine OrdersShares.share_le_share hle (by omega) (by omega) (by omega) hlimit' hlimit ?_
    rw [hsamples, hfailures, Nat.mul_add, Nat.add_mul]
    exact Nat.add_le_add_left ((Nat.mul_comm ..).trans_le (Nat.mul_le_mul_left _ hle)) _

/-- **Failures among the samples** change no latency. Put transport failures that left nothing behind among samples,
at any places. The figures are at fault only as they were before, and otherwise, to the last bit, the latency and
its variation are the same, those of every phase, the statuses and the successes. So every rule on latencies makes
the same finding as before or none as before, and a classifier of such rules makes the same diagnosis. There are
as many samples and as many transport errors more as there are failures, and the error rate does not fall. -/
theorem ofSamples_interleaved [OrdersShares R] (h : Interleaving samples failures samples')
    (hfailures : ∀ x ∈ failures, x.LeavesNothing) (elapsed : Duration) :
    (∀ fault, (ofSamples samples' elapsed : Except Fault (RunStatistics R)) = .error fault ↔
      (ofSamples samples elapsed : Except Fault (RunStatistics R)) = .error fault) ∧
    ∀ s : RunStatistics R, ofSamples samples elapsed = .ok s →
      ∃ s', ofSamples samples' elapsed = .ok s' ∧ s.AsFast s' ∧
        (∀ rule : Rule R, rule.OnLatencies → ∀ context thresholds,
          rule.evaluate s' context thresholds = rule.evaluate s context thresholds) ∧
        (∀ rules : List (Rule R), (∀ rule ∈ rules, rule.OnLatencies) → ∀ context thresholds,
          Diagnosis.ofRules rules s' context thresholds = Diagnosis.ofRules rules s context thresholds) ∧
        s'.samples = s.samples + failures.length ∧ s'.transportErrors = s.transportErrors + failures.length ∧
        (s'.samples ≤ OrdersShares.limit R → Scalar.le s.errorRate s'.errorRate = true) := by
  have hfault : ∀ fault, (ofSamples samples' elapsed : Except Fault (RunStatistics R)) = .error fault ↔
      (ofSamples samples elapsed : Except Fault (RunStatistics R)) = .error fault := fun fault =>
    ofSamples_eq_error_congr (sum_bytes_interleaved h hfailures) (phaseSummary_interleaved h hfailures)
      (latencies_interleaved h hfailures)
  refine ⟨hfault, fun s hs => ?_⟩
  cases hs' : (ofSamples samples' elapsed : Except Fault (RunStatistics R)) with
  | error fault =>
    rw [(hfault fault).mp hs'] at hs
    cases hs
  | ok s' =>
    obtain ⟨_, hof⟩ := of_ofSamples hs
    obtain ⟨_, hof'⟩ := of_ofSamples hs'
    have hfast := IsOf.asFast h hfailures hof hof'
    obtain ⟨hsamples, htransport, hfailed⟩ := samples_interleaved h hfailures hof hof'
    refine ⟨s', rfl, hfast, fun _ => hfast.evaluate_eq, fun _ => hfast.diagnosis_eq, hsamples, htransport, ?_⟩
    exact errorRate_le hof hof' hof.failures_le hsamples hfailed

/-- Two lookups that fail, one before a response and one behind it. -/
theorem ofSamples_interleaved_of_three :
    let fetched := sampleOf 0 100 (.success 200) { ttfb := some (.millis 70), reused := some false } false
    let failed := sampleOf 1 0 (.transportError (.dns "no such host")) {} false
    Interleaving [fetched] [failed, failed] [failed, fetched, failed] ∧ failed.LeavesNothing ∧
      ∃ s s' : RunStatistics Float, ofSamples [fetched] (.seconds 1) = .ok s ∧
        ofSamples [failed, fetched, failed] (.seconds 1) = .ok s' ∧ s.AsFast s' ∧
        Rule.ttfbLatency.evaluate s' {} .standard = Rule.ttfbLatency.evaluate s {} .standard ∧
        s.samples = 1 ∧ s'.samples = 3 ∧ Scalar.le s.errorRate s'.errorRate = true := by
  intro fetched failed
  have hinterleaving : Interleaving [fetched] [failed, failed] [failed, fetched, failed] := .right (.left (.right .nil))
  have hnothing : failed.LeavesNothing := ⟨⟨_, rfl⟩, rfl, rfl⟩
  obtain ⟨s, hs⟩ := Fault.exists_of_isOk
    (x := (ofSamples [fetched] (.seconds 1) : Except Fault (RunStatistics Float))) (by decide +kernel)
  have hone : s.samples = 1 := (of_ofSamples hs).2.samples
  obtain ⟨s', hs', hfast, hrule, _, hsamples, _, hrate⟩ :=
    (ofSamples_interleaved hinterleaving (by simpa using hnothing) (.seconds 1)).2 s hs
  have hthree : s'.samples = 3 := by rw [hsamples, hone]; rfl
  refine ⟨hinterleaving, hnothing, s, s', hs, hs', hfast, hrule _ (.phase ..) {} .standard, hone, hthree, hrate ?_⟩
  rw [hthree]
  exact Nat.cast_le.mpr (by decide : 3 ≤ 2 ^ 53 - 1)

end RunStatistics

end HttpBench
