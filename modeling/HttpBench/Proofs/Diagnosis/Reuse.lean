import HttpBench.Proofs.Diagnosis.Findings
import HttpBench.Proofs.Statistics.Counts

/-!
# First connections

The first request of each worker needs a new connection. A run whose other requests all reuse one reuses as much as can
be (`RunStatistics.ReusesAllBut`). The rule on reuse makes no finding as long as there are no more requests than
workers. From then on it counts the first connections like any other: of `n` requests over `c` workers `n - c` reuse a
connection, and the share of them is held against one half. So a run that reuses as much as can be is flagged exactly
if `n < 2 * c`, though never as critical (`RunStatistics.connectionReuse_of_first`).
-/

namespace HttpBench

open Number

namespace RunStatistics

/-- **Nothing but first connections is new**: samples from the network that say of their connection whether it was
reused, and so many of them that it was not. -/
structure ReusesAllBut (first : Nat) (samples : List Sample) : Prop where
  network : ∀ x ∈ samples, x.fromCache = false
  known : ∀ x ∈ samples, x.phases.reused = some false ∨ x.phases.reused = some true
  first : samples.countP (fun x => x.phases.reused == some false) = first

namespace ReusesAllBut

variable {first : Nat} {samples : List Sample}

theorem reuses_eq (h : ReusesAllBut first samples) :
    reuses samples = samples.map fun x => x.phases.reused == some true := by
  have hnetwork : (samples.filter fun x => !x.fromCache) = samples :=
    List.filter_eq_self.mpr fun x hx => by simp [h.network x hx]
  rw [reuses, hnetwork, ← List.filterMap_eq_map]
  refine List.filterMap_congr fun x hx => ?_
  rcases h.known x hx with hx | hx <;> simp [hx]

theorem length_reuses (h : ReusesAllBut first samples) : (reuses samples).length = samples.length := by
  rw [h.reuses_eq, List.length_map]

/-- All but the first connections are reused. -/
theorem countP_reuses (h : ReusesAllBut first samples) :
    ((reuses samples).countP fun reused => reused) + first = samples.length := by
  have hfirst : samples.countP (fun x => !(x.phases.reused == some true)) = first := by
    rw [← h.first]
    refine List.countP_congr fun x hx => ?_
    rcases h.known x hx with hx | hx <;> simp [hx]
  have hall := List.length_eq_countP_add_countP (fun x : Sample => x.phases.reused == some true) (l := samples)
  simp only [Bool.not_eq_true, Bool.decide_eq_false] at hall
  rw [h.reuses_eq, List.countP_map, hall, hfirst]
  rfl

end ReusesAllBut

variable {R : Type} [Scalar R] [ExactArithmetic R] {first : Nat} {samples : List Sample} {elapsed : Duration}
  {s : RunStatistics R}

/-- **The share of reused connections** where only first ones are new. -/
theorem IsOf.reuseRatio_of_first (hs : s.IsOf samples elapsed) (h : ReusesAllBut first samples)
    (hsome : 0 < samples.length) : ∃ ratio, s.reuseRatio = some ratio ∧
      Scalar.toRat? ratio = some (1 - (first : Rat) / samples.length) := by
  have hcount := h.countP_reuses
  have hratio : s.reuseRatio = some (Scalar.quotient (samples.length - first) samples.length) := by
    rw [hs.reuseRatio, hs.reuseKnown, h.length_reuses, ratio?, if_neg hsome.ne', ← hcount, Nat.add_sub_cancel]
  refine ⟨_, hratio, (toRat_quotient _ hsome).trans (congrArg some ?_)⟩
  have hne : (samples.length : Rat) ≠ 0 := by exact_mod_cast hsome.ne'
  rw [Nat.cast_sub (by omega), sub_div, div_self hne]

/-- **Who reuses all he can** is held against one half like anyone else. Let the samples of a run be known to have
reused their connections, but for one each worker had to open, and let there be more of them than workers. The rule on
reuse then makes a finding, whose figure is the share of the requests that were not first ones. It is never critical,
and flagged exactly if there are fewer requests than twice as many as workers. -/
theorem connectionReuse_of_first (h : ReusesAllBut first samples) (hmore : first < samples.length)
    (hroom : (samples.map Sample.bytes).sum < range64) (elapsed : Duration) :
    ∃ s : RunStatistics R, ofSamples samples elapsed = .ok s ∧
      ∀ context : RunContext R, context.keepAlive = true → context.concurrency = first →
        ∃ f, Rule.connectionReuse.evaluate s context .standard = some f ∧
          Scalar.toRat? f.observed = some (1 - (first : Rat) / samples.length) ∧ f.severity ≠ .critical ∧
          (f ∈ (Diagnosis.ofRules Rule.standard s context .standard).flagged ↔ samples.length < 2 * first) := by
  obtain ⟨s, hs, hof⟩ := exists_isOf (R := R) elapsed hroom (.exact samples)
  refine ⟨s, hs, fun context halive hworkers => ?_⟩
  have hpos : (0 : Rat) < samples.length := by exact_mod_cast Nat.zero_lt_of_lt hmore
  obtain ⟨ratio, hratio, hobserved⟩ := hof.reuseRatio_of_first h (Nat.zero_lt_of_lt hmore)
  have hlimit : Scalar.toRat? (Thresholds.standard : Thresholds R).minReuse = some (1 / 2) :=
    (toRat_quotient 1 (by decide)).trans (by norm_num)
  have hevaluate : Rule.connectionReuse.evaluate s context .standard =
      some (.evaluate "connection_reuse" .network "Connection reuse poor" ratio (Thresholds.standard).minReuse
        .min "%") := by
    have hguard : ¬s.reuseKnown ≤ context.concurrency := by
      rw [hof.reuseKnown, h.length_reuses, hworkers]
      exact Nat.not_le.mpr hmore
    simp [Rule.connectionReuse, halive, hguard, hratio]
  refine ⟨_, hevaluate, hobserved, ?_, ?_⟩
  · rw [ne_eq, Finding.critical_exact hobserved hlimit]
    rintro ⟨_, hfar⟩
    have hshare : (first : Rat) / samples.length < 1 := (div_lt_one hpos).mpr (by exact_mod_cast hmore)
    simp only [Bound.excess] at hfar
    linarith
  · have hhalf : (1 / 2 : Rat) < first / samples.length ↔ samples.length < 2 * first := by
      rw [div_lt_div_iff₀ two_pos hpos, one_mul, mul_comm]
      exact_mod_cast Iff.rfl
    rw [Diagnosis.mem_flagged_of_evaluate (by simp [Rule.standard]) hevaluate,
      Finding.flagged_exact hobserved hlimit]
    rw [← hhalf]
    simp only [Bound.excess]
    constructor <;> intro hbeyond <;> linarith

/-- One worker whose two further requests reuse its connection is not flagged. -/
theorem connectionReuse_of_first_of_three :
    let opened := sampleOf 0 100 (.success 200) { reused := some false } false
    let kept := sampleOf 1 100 (.success 200) { reused := some true } false
    ReusesAllBut 1 [opened, kept, kept] ∧
      ∃ s : RunStatistics Rat, ofSamples [opened, kept, kept] (.seconds 1) = .ok s ∧
        ∃ f, Rule.connectionReuse.evaluate s {} .standard = some f ∧ f.observed = 2 / 3 ∧
          f ∉ (Diagnosis.ofRules Rule.standard s {} .standard).flagged := by
  intro opened kept
  have hfirst : ReusesAllBut 1 [opened, kept, kept] :=
    { network := by decide
      known := by decide
      first := by decide }
  obtain ⟨s, hs, hrule⟩ := connectionReuse_of_first (R := Rat) hfirst (by decide) (by decide) (.seconds 1)
  obtain ⟨f, hf, hobserved, _, hflagged⟩ := hrule {} rfl rfl
  refine ⟨hfirst, s, hs, f, hf, (Option.some.inj hobserved).trans (by norm_num), hflagged.not.mpr (by decide)⟩

/-- **Two workers with three requests** are flagged, though nothing but their first requests opens a connection. -/
theorem flagged_of_first :
    let opened := sampleOf 0 100 (.success 200) { reused := some false } false
    let kept := sampleOf 1 100 (.success 200) { reused := some true } false
    ReusesAllBut 2 [opened, opened, kept] ∧ 2 < [opened, opened, kept].length ∧
      ∃ s : RunStatistics Float, ofSamples [opened, opened, kept] (.seconds 1) = .ok s ∧
        ∃ f ∈ (Diagnosis.ofRules Rule.standard s { concurrency := 2 } .standard).flagged,
          f.rule = "connection_reuse" ∧ f.severity = .warning := by
  intro opened kept
  refine ⟨⟨by decide, by decide, by decide⟩, by decide, ?_⟩
  have hphases : ∀ phase, ∃ summary : Option (LatencySummary Float),
      phaseSummary [opened, opened, kept] phase = .ok summary := fun phase => by
    refine ⟨none, (LatencySummary.ofMillis_eq_none _).mpr ?_⟩
    cases phase <;> simp [opened, kept, sampleOf, PhaseTimes.get]
  have hlatency : ∃ summary : Option (LatencySummary Float),
      LatencySummary.ofDurations (latencies [opened, opened, kept]) = .ok summary := by
    -- the latencies come in order: nothing is left to sort
    have hsorted : LatencySummary.ascending ([.millis 100, .millis 100, .millis 100].map Duration.toMillis : List Float) =
        [.millis 100, .millis 100, .millis 100].map Duration.toMillis :=
      List.mergeSort_of_pairwise (by decide +kernel)
    show ∃ summary, LatencySummary.ofMillis ([.millis 100, .millis 100, .millis 100].map Duration.toMillis) = .ok summary
    unfold LatencySummary.ofMillis
    rw [hsorted]
    exact Fault.exists_of_isOk (by decide +kernel)
  obtain ⟨s, hs⟩ := exists_of_summaries (.seconds 1) (by decide) hphases hlatency
  obtain ⟨_, hof⟩ := of_ofSamples hs
  have hknown : s.reuseKnown = 3 := hof.reuseKnown
  have hratio : s.reuseRatio = some (Scalar.quotient 1 3) := by
    rw [hof.reuseRatio, hknown]
    rfl
  let f : Finding Float := .evaluate "connection_reuse" .network "Connection reuse poor" (Scalar.quotient 1 3)
    (Scalar.quotient 1 2) .min "%"
  have hf : Rule.connectionReuse.evaluate s { concurrency := 2 } .standard = some f := by
    simp only [Rule.connectionReuse, hknown, hratio]
    rfl
  refine ⟨s, hs, f, (Diagnosis.mem_flagged_of_evaluate (by simp [Rule.standard]) hf).mpr ?_, rfl, ?_⟩
  · decide +kernel
  · decide +kernel

end RunStatistics

end HttpBench
