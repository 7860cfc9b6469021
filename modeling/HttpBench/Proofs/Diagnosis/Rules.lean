import HttpBench.Diagnosis.Basic
import HttpBench.Proofs.Statistics.Counts

/-!
# Figures and limits

Every built-in rule holds one figure against one limit (`Rule.compares_of_standard`). Whether there is a figure does not
depend on the limits, and which limit it is does not depend on the figures. This is the one place where the rules are
gone through one by one: what holds of every figure that is held against a limit holds of what each of them finds.

In exact arithmetic, where roots are finite, the figures of any samples are finite
(`RunStatistics.IsOf.isFinite_figure`).
-/

namespace HttpBench

open Number

section
variable {R : Type} [Scalar R]

/-- **The limits of a table**, each with the side on which a figure must stay. -/
def Thresholds.limits : List (Bound × (Thresholds R → Option R)) :=
  [(.max, fun t => some t.dnsMs), (.max, fun t => some t.connectMs), (.max, fun t => some t.tlsMs),
    (.max, fun t => some t.ttfbMs), (.min, fun t => some t.minReuse), (.min, fun t => some t.minCacheHits),
    (.max, fun t => some t.maxErrorRate), (.max, fun t => some t.maxVariation), (.max, fun t => some t.maxMemoryMb),
    (.min, fun t => t.minHttp2)]

/-- **The figures that limits are for.** -/
inductive RunStatistics.IsFigure (s : RunStatistics R) (context : RunContext R) : R → Prop where
  | phase {phase : Phase} {l : LatencySummary R} (h : s.phases.get phase = some l) : IsFigure s context l.mean
  | reuseRatio {x : R} (h : s.reuseRatio = some x) : IsFigure s context x
  | cacheHitRatio : IsFigure s context s.cacheHitRatio
  | errorRate : IsFigure s context s.errorRate
  | variation {x : R} (h : s.variation = some x) : IsFigure s context x
  | peakMegabytes {usage : ResourceUsage R} (h : context.resources = some usage) :
    IsFigure s context usage.peakMegabytes
  | http2Ratio {x : R} (h : s.http2Ratio = some x) : IsFigure s context x

namespace Rule

variable {rule : Rule R} {s : RunStatistics R} {context : RunContext R} {t : Thresholds R} {f : Finding R}

/-- **A rule compares a figure with a limit**, where there are both. -/
def Compares (rule : Rule R) (bound : Bound) (limit : Thresholds R → Option R) (s : RunStatistics R)
    (context : RunContext R) : Prop :=
  ∃ (dimension : Dimension) (label unit : String) (figure : Option R), (∀ x, figure = some x → s.IsFigure context x) ∧
    ∀ t, rule.evaluate s context t =
      figure.bind fun x => (limit t).map fun l => .evaluate rule.name dimension label x l bound unit

theorem phaseLatency_compares (name : String) (phase : Phase) (dimension : Dimension) (label : String)
    (limit : Thresholds R → R) :
    (phaseLatency name phase dimension label limit).Compares .max (fun t => some (limit t)) s context := by
  refine ⟨dimension, label, "ms", (s.phases.get phase).map LatencySummary.mean, fun x hx => ?_, fun t => ?_⟩
  · obtain ⟨l, hl, rfl⟩ := Option.map_eq_some_iff.mp hx
    exact .phase hl
  · cases hl : s.phases.get phase <;> simp [phaseLatency, hl]

theorem connectionReuse_compares :
    connectionReuse.Compares .min (fun t : Thresholds R => some t.minReuse) s context := by
  refine ⟨.network, "Connection reuse poor", "%",
    if !context.keepAlive || s.reuseKnown ≤ context.concurrency then none else s.reuseRatio, fun x hx => ?_,
    fun t => ?_⟩
  · split at hx
    · cases hx
    · exact .reuseRatio hx
  · simp only [connectionReuse]
    split
    · rfl
    · cases s.reuseRatio <;> rfl

theorem cacheEffectiveness_compares :
    cacheEffectiveness.Compares .min (fun t : Thresholds R => some t.minCacheHits) s context := by
  refine ⟨.cache, "Cache ineffective", "%",
    if !context.cacheEnabled || !s.hasSamples then none else some s.cacheHitRatio, fun x hx => ?_, fun t => ?_⟩
  · split at hx
    · cases hx
    · obtain rfl := Option.some.inj hx
      exact .cacheHitRatio
  · simp only [cacheEffectiveness]
    split <;> rfl

theorem errorRate_compares : errorRate.Compares .max (fun t : Thresholds R => some t.maxErrorRate) s context := by
  refine ⟨.application, "Error rate high", "%", if !s.hasSamples then none else some s.errorRate, fun x hx => ?_,
    fun t => ?_⟩
  · split at hx
    · cases hx
    · obtain rfl := Option.some.inj hx
      exact .errorRate
  · simp only [errorRate]
    split <;> rfl

theorem latencyJitter_compares :
    latencyJitter.Compares .max (fun t : Thresholds R => some t.maxVariation) s context := by
  refine ⟨.network, "Latency jitter high", "",
    s.latency.bind fun latency => if latency.count < 2 then none else s.variation, fun x hx => ?_, fun t => ?_⟩
  · obtain ⟨latency, _, hx⟩ := Option.bind_eq_some_iff.mp hx
    split at hx
    · cases hx
    · exact .variation hx
  · cases hlatency : s.latency with
    | none => simp [latencyJitter, hlatency]
    | some latency =>
      simp only [latencyJitter, hlatency, Option.bind_eq_bind, Option.bind_some]
      split
      · rfl
      · cases s.variation <;> rfl

theorem memoryPressure_compares :
    memoryPressure.Compares .max (fun t : Thresholds R => some t.maxMemoryMb) s context := by
  refine ⟨.resource, "Memory pressure", "MB", context.resources.map ResourceUsage.peakMegabytes, fun x hx => ?_,
    fun t => ?_⟩
  · obtain ⟨usage, husage, rfl⟩ := Option.map_eq_some_iff.mp hx
    exact .peakMegabytes husage
  · cases hresources : context.resources <;> simp [memoryPressure, hresources]

theorem http2Usage_compares : http2Usage.Compares .min (fun t : Thresholds R => t.minHttp2) s context := by
  refine ⟨.protocol, "HTTP/2 not negotiated", "%", s.http2Ratio, fun x hx => .http2Ratio hx, fun t => ?_⟩
  cases hlimit : t.minHttp2 <;> cases hratio : s.http2Ratio <;> simp [http2Usage, hlimit, hratio]

/-- **Every built-in rule** compares a figure with one of the limits. -/
theorem compares_of_standard (hrule : rule ∈ standard) (s : RunStatistics R) (context : RunContext R) :
    ∃ bound limit, (bound, limit) ∈ Thresholds.limits ∧ rule.Compares bound limit s context := by
  simp only [standard, List.mem_cons, List.not_mem_nil, or_false] at hrule
  rcases hrule with rfl | rfl | rfl | rfl | rfl | rfl | rfl | rfl | rfl | rfl
  · exact ⟨_, _, by simp [Thresholds.limits], phaseLatency_compares _ _ _ _ (·.dnsMs)⟩
  · exact ⟨_, _, by simp [Thresholds.limits], phaseLatency_compares _ _ _ _ (·.connectMs)⟩
  · exact ⟨_, _, by simp [Thresholds.limits], phaseLatency_compares _ _ _ _ (·.tlsMs)⟩
  · exact ⟨_, _, by simp [Thresholds.limits], phaseLatency_compares _ _ _ _ (·.ttfbMs)⟩
  · exact ⟨_, _, by simp [Thresholds.limits], connectionReuse_compares⟩
  · exact ⟨_, _, by simp [Thresholds.limits], cacheEffectiveness_compares⟩
  · exact ⟨_, _, by simp [Thresholds.limits], errorRate_compares⟩
  · exact ⟨_, _, by simp [Thresholds.limits], latencyJitter_compares⟩
  · exact ⟨_, _, by simp [Thresholds.limits], memoryPressure_compares⟩
  · exact ⟨_, _, by simp [Thresholds.limits], http2Usage_compares⟩

/-- **What a rule finds** with one table it finds with every other one that sets the limit: the same figure against the
limit of that table. -/
theorem Compares.exists_finding {bound : Bound} {limit : Thresholds R → Option R}
    (h : rule.Compares bound limit s context) (hf : rule.evaluate s context t = some f) :
    ∃ dimension label unit x l, s.IsFigure context x ∧ limit t = some l ∧
      f = .evaluate rule.name dimension label x l bound unit ∧
      ∀ t' l', limit t' = some l' →
        rule.evaluate s context t' = some (.evaluate rule.name dimension label x l' bound unit) := by
  obtain ⟨dimension, label, unit, figure, hfigure, hevaluate⟩ := h
  rw [hevaluate] at hf
  obtain ⟨x, hx, hf⟩ := Option.bind_eq_some_iff.mp hf
  obtain ⟨l, hl, rfl⟩ := Option.map_eq_some_iff.mp hf
  refine ⟨dimension, label, unit, x, l, hfigure x hx, hl, rfl, fun t' l' hl' => ?_⟩
  rw [hevaluate, hx, hl']
  rfl

end Rule

end

/-! ## The figures are finite -/

namespace Number

variable {R : Type} [Scalar R]

/-- **A number system with roots**: that of a finite value is finite unless the value is negative. -/
class FiniteRoots (R : Type) [Scalar R] : Prop where
  isFinite_sqrt : ∀ {x : R} {q : Rat}, Scalar.toRat? x = some q → 0 ≤ q → Scalar.isFinite (Scalar.sqrt x) = true

instance : FiniteRoots Rat where
  isFinite_sqrt _ _ := rfl

instance : FiniteRoots PartialRat where
  isFinite_sqrt hx _ := by
    rw [PartialRat.eq_number hx]
    rfl

theorem isFinite_of_toRat {x : R} {q : Rat} (h : Scalar.toRat? x = some q) : Scalar.isFinite x = true := by
  rw [Scalar.isFinite, h]
  rfl

theorem IsShare.isFinite {x : R} (h : IsShare x) : Scalar.isFinite x = true := by
  obtain ⟨_, hx, _⟩ := h
  exact isFinite_of_toRat hx

end Number

namespace LatencySummary

variable {R : Type} [Scalar R] [ExactArithmetic R] {l : LatencySummary R}

theorem shows_of_ofDurations {durations : List Duration} (h : ofDurations durations = .ok (some l)) :
    ∃ numbers hne, l.Shows (Figures.of numbers hne) := by
  by_cases hnone : (durations.map Duration.toMillis : List R).filterMap Scalar.toRat? = []
  · have hfinite : ∀ x ∈ (durations.map Duration.toMillis : List R), Scalar.isFinite x = false := fun x hx => by
      rw [Scalar.isFinite, List.filterMap_eq_nil_iff.mp hnone x hx]
      rfl
    cases Except.ok.inj (h.symm.trans ((ofMillis_eq_none _).mpr hfinite))
  · obtain ⟨l', hl', _, hshows⟩ := ofMillis_exact (durations.map Duration.toMillis : List R) hnone
    obtain rfl := Option.some.inj (Except.ok.inj (h.symm.trans hl'))
    exact ⟨_, _, hshows⟩

/-- A variation is a root of a variance by a positive mean. -/
theorem isFinite_variation [FiniteRoots R] {durations : List Duration} (h : ofDurations durations = .ok (some l))
    {x : R} (hx : l.variation? = some x) : Scalar.isFinite x = true := by
  obtain ⟨numbers, hne, hshows⟩ := shows_of_ofDurations h
  obtain ⟨variance, hdeviation, hvariance⟩ := hshows.deviation
  have hroot := FiniteRoots.isFinite_sqrt hvariance (varianceOf_nonneg numbers)
  rw [← hdeviation] at hroot
  unfold variation? at hx
  split at hx
  next hpositive =>
    have hmean := (Exact.lt_iff (toRat_ofNat 0) hshows.mean).mp hpositive
    rw [Nat.cast_zero] at hmean
    obtain rfl := Option.some.inj hx
    exact isFinite_of_toRat (Exact.toRat_div (toRat_of_isFinite hroot) hshows.mean hmean.ne')
  next => cases hx

end LatencySummary

namespace RunStatistics

variable {R : Type} [Scalar R] [ExactArithmetic R] [FiniteRoots R] {samples : List Sample} {elapsed : Duration}
  {s : RunStatistics R} {context : RunContext R} {x : R}

/-- **The figures of samples** are finite. -/
theorem IsOf.isFinite_figure (h : s.IsOf samples elapsed) (hx : s.IsFigure context x) : Scalar.isFinite x = true := by
  have haccounts := h.accounts (.exact samples)
  cases hx with
  | @phase phase l hl =>
    have hsummary := h.phases phase
    rw [hl] at hsummary
    obtain ⟨_, _, hshows⟩ := LatencySummary.shows_of_ofDurations hsummary
    exact isFinite_of_toRat hshows.mean
  | reuseRatio hx => exact (haccounts.reuseRatio x hx).isFinite
  | cacheHitRatio => exact haccounts.cacheHitRatio.isFinite
  | errorRate => exact haccounts.errorRate.isFinite
  | variation hx =>
    rw [h.variation] at hx
    obtain ⟨l, hl, hx⟩ := Option.bind_eq_some_iff.mp hx
    exact LatencySummary.isFinite_variation (hl ▸ h.latency) hx
  | @peakMegabytes usage _ =>
    exact isFinite_of_toRat (Exact.toRat_div (toRat_ofNat usage.peakMemory) (toRat_ofNat (1024 * 1024)) (by norm_num))
  | http2Ratio hx => exact (haccounts.http2Ratio x hx).isFinite

end RunStatistics

end HttpBench
