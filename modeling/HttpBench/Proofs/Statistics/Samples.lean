import HttpBench.Proofs.Statistics.Reordering

/-!
# What the figures of a run say of its samples

`RunStatistics.ofSamples` sums up six series, one for each phase and one for the latency, and any of them can be
at fault. Where none is, the figures are those of the samples: each count is that of the samples it speaks of, and
each summary that of the series it speaks of (`RunStatistics.IsOf`). Everything else about the figures follows from
that, so nothing behind this module opens `ofSamples` itself.
-/

namespace HttpBench

open Number

theorem Fault.bind_eq_ok {A B : Type} {x : Except Fault A} {f : A → Except Fault B} {b : B} :
    x >>= f = .ok b ↔ ∃ a, x = .ok a ∧ f a = .ok b := by
  cases x with
  | error fault =>
    refine iff_of_false (fun h => by cases h) ?_
    rintro ⟨_, h, _⟩
    cases h
  | ok a =>
    refine ⟨fun h => ⟨a, rfl, h⟩, ?_⟩
    rintro ⟨_, ⟨rfl⟩, h⟩
    exact h

theorem Fault.exists_bind_eq_ok {A B : Type} {x : Except Fault A} {f : A → Except Fault B} {a : A} (h : x = .ok a)
    (hf : ∃ b, f a = .ok b) : ∃ b, x >>= f = .ok b :=
  hf.imp fun _ hf => Fault.bind_eq_ok.mpr ⟨a, h, hf⟩

theorem Fault.exists_of_isOk {A : Type} {x : Except Fault A} (h : x.isOk = true) : ∃ a, x = .ok a := by
  cases x with
  | error => cases h
  | ok a => exact ⟨a, rfl⟩

theorem Fault.bind_eq_error_congr {A B C : Type} {x : Except Fault A} {f : A → Except Fault B} {g : A → Except Fault C}
    {fault : Fault} (h : ∀ a, f a = .error fault ↔ g a = .error fault) :
    x >>= f = .error fault ↔ x >>= g = .error fault := by
  cases x with
  | error fault' => exact ⟨fun h => congrArg _ (Except.error.inj h), fun h => congrArg _ (Except.error.inj h)⟩
  | ok a => exact h a

namespace RunStatistics

variable {R : Type} [Scalar R] {samples : List Sample} {elapsed : Duration} {s : RunStatistics R}

/-- The times of the samples with a complete response. -/
def latencies (samples : List Sample) : List Duration :=
  (samples.filter fun x => x.outcome.hasResponse).map fun x => x.total

/-- What the samples from the network say of their connections, where they say so. -/
def reuses (samples : List Sample) : List Bool :=
  (samples.filter fun x => !x.fromCache).filterMap fun x => x.phases.reused

/-- The protocols of the samples from the network, where they are known. -/
def protocols (samples : List Sample) : List String :=
  (samples.filter fun x => !x.fromCache).filterMap fun x => x.protocol

/-- **The figures of these samples.** -/
structure IsOf (s : RunStatistics R) (xs : List Sample) (elapsed : Duration) : Prop where
  samples : s.samples = xs.length
  successes : s.successes = xs.countP fun x => x.outcome.isSuccess
  applicationErrors : s.applicationErrors = xs.countP fun x => x.outcome.hasResponse && !x.outcome.isSuccess
  transportErrors : s.transportErrors = xs.countP fun x => !x.outcome.hasResponse
  failures : s.failures = s.applicationErrors + s.transportErrors
  cacheHits : s.cacheHits = xs.countP fun x => x.fromCache
  incomplete : s.incomplete = 0
  errorRate : s.errorRate = (ratio? s.failures s.samples).getD Scalar.zero
  elapsed : s.elapsed = elapsed
  throughput : s.throughput = perSecond s.successes s.elapsed
  responseThroughput : s.responseThroughput = perSecond (s.successes + s.applicationErrors) s.elapsed
  cacheHitRatio : s.cacheHitRatio = (ratio? s.cacheHits s.samples).getD Scalar.zero
  reuseKnown : s.reuseKnown = (reuses xs).length
  reuseRatio : s.reuseRatio = ratio? ((reuses xs).countP fun reused => reused) s.reuseKnown
  http2Ratio : s.http2Ratio =
    ratio? ((protocols xs).countP fun p => p.startsWith "HTTP/2") (protocols xs).length
  bytes : s.bytes = (xs.map Sample.bytes).sum
  bytesPerSecond : s.bytesPerSecond = perSecond s.bytes s.elapsed
  phases : ∀ phase, phaseSummary xs phase = .ok (s.phases.get phase)
  latency : LatencySummary.ofDurations (latencies xs) = .ok s.latency
  variation : s.variation = s.latency.bind LatencySummary.variation?
  statuses : s.statuses = Tally.ofList (xs.filterMap fun x => x.outcome.status?)
  errors : s.errors = Tally.ofList (xs.filterMap fun x => x.outcome.failure?.map Failure.kind)

/-- **Figures that there are** are those of the samples, whose bytes fit 64 bits. -/
theorem of_ofSamples (h : ofSamples samples elapsed = .ok s) :
    (samples.map Sample.bytes).sum < range64 ∧ s.IsOf samples elapsed := by
  unfold ofSamples at h
  dsimp only at h
  split at h
  next => cases h
  next hroom =>
    obtain ⟨dns, hdns, h⟩ := Fault.bind_eq_ok.mp h
    obtain ⟨connect, hconnect, h⟩ := Fault.bind_eq_ok.mp h
    obtain ⟨tls, htls, h⟩ := Fault.bind_eq_ok.mp h
    obtain ⟨ttfb, httfb, h⟩ := Fault.bind_eq_ok.mp h
    obtain ⟨transfer, htransfer, h⟩ := Fault.bind_eq_ok.mp h
    obtain ⟨latency, hlatency, h⟩ := Fault.bind_eq_ok.mp h
    obtain rfl := Except.ok.inj h
    rw [foldr_bytes] at hroom
    refine ⟨Nat.not_le.mp hroom, ?_⟩
    exact
      { samples := rfl
        successes := rfl
        applicationErrors := rfl
        transportErrors := rfl
        failures := rfl
        cacheHits := rfl
        incomplete := rfl
        errorRate := rfl
        elapsed := rfl
        throughput := rfl
        responseThroughput := rfl
        cacheHitRatio := rfl
        reuseKnown := rfl
        reuseRatio := rfl
        http2Ratio := rfl
        bytes := foldr_bytes samples
        bytesPerSecond := rfl
        phases
          | .dns => hdns
          | .connect => hconnect
          | .tls => htls
          | .ttfb => httfb
          | .transfer => htransfer
        latency := hlatency
        variation := rfl
        statuses := rfl
        errors := rfl }

/-- A sample is a success, an application error or a transport failure. -/
theorem countP_outcomes (samples : List Sample) :
    (samples.countP fun x => x.outcome.isSuccess) +
      (samples.countP fun x => x.outcome.hasResponse && !x.outcome.isSuccess) +
      (samples.countP fun x => !x.outcome.hasResponse) = samples.length := by
  induction samples with
  | nil => rfl
  | cons x samples ih =>
    have hone : (if x.outcome.isSuccess = true then 1 else 0) +
        (if (x.outcome.hasResponse && !x.outcome.isSuccess) = true then 1 else 0) +
        (if (!x.outcome.hasResponse) = true then 1 else 0) = 1 := by
      cases x.outcome <;> rfl
    simp only [List.countP_cons, List.length_cons]
    omega

theorem IsOf.outcomes (h : s.IsOf samples elapsed) :
    s.successes + s.applicationErrors + s.transportErrors = s.samples := by
  rw [h.successes, h.applicationErrors, h.transportErrors, h.samples]
  exact countP_outcomes samples

theorem IsOf.failures_le (h : s.IsOf samples elapsed) : s.failures ≤ s.samples := by
  have houtcomes := h.outcomes
  rw [h.failures]
  omega

/-- **Samples have figures** where their bytes fit and no series of theirs is at fault. -/
theorem exists_of_summaries (elapsed : Duration) (hroom : (samples.map Sample.bytes).sum < range64)
    (hphases : ∀ phase, ∃ summary : Option (LatencySummary R), phaseSummary samples phase = .ok summary)
    (hlatency : ∃ summary : Option (LatencySummary R), LatencySummary.ofDurations (latencies samples) = .ok summary) :
    ∃ s : RunStatistics R, ofSamples samples elapsed = .ok s := by
  obtain ⟨dns, hdns⟩ := hphases .dns
  obtain ⟨connect, hconnect⟩ := hphases .connect
  obtain ⟨tls, htls⟩ := hphases .tls
  obtain ⟨ttfb, httfb⟩ := hphases .ttfb
  obtain ⟨transfer, htransfer⟩ := hphases .transfer
  obtain ⟨latency, hlatency⟩ := hlatency
  unfold ofSamples
  dsimp only
  rw [foldr_bytes, if_neg (Nat.not_le.mpr hroom)]
  refine Fault.exists_bind_eq_ok hdns ?_
  refine Fault.exists_bind_eq_ok hconnect ?_
  refine Fault.exists_bind_eq_ok htls ?_
  refine Fault.exists_bind_eq_ok httfb ?_
  refine Fault.exists_bind_eq_ok htransfer ?_
  exact Fault.exists_bind_eq_ok hlatency ⟨_, rfl⟩

/-- **Samples are at fault** as others are whose bytes and whose series are the same. -/
theorem ofSamples_eq_error_congr {samples' : List Sample} {elapsed' : Duration} {fault : Fault}
    (hbytes : (samples'.map Sample.bytes).sum = (samples.map Sample.bytes).sum)
    (hphases : ∀ phase, (phaseSummary samples' phase : Except Fault (Option (LatencySummary R))) =
      phaseSummary samples phase)
    (hlatencies : latencies samples' = latencies samples) :
    (ofSamples samples' elapsed' : Except Fault (RunStatistics R)) = .error fault ↔
      (ofSamples samples elapsed : Except Fault (RunStatistics R)) = .error fault := by
  have hlatencies : (samples'.filter fun x => x.outcome.hasResponse).map (fun x => x.total) =
      (samples.filter fun x => x.outcome.hasResponse).map fun x => x.total := hlatencies
  unfold ofSamples
  dsimp only
  rw [foldr_bytes, foldr_bytes, hbytes]
  split
  · exact Iff.rfl
  · simp only [hphases, hlatencies]
    refine Fault.bind_eq_error_congr fun _ => ?_
    refine Fault.bind_eq_error_congr fun _ => ?_
    refine Fault.bind_eq_error_congr fun _ => ?_
    refine Fault.bind_eq_error_congr fun _ => ?_
    refine Fault.bind_eq_error_congr fun _ => ?_
    refine Fault.bind_eq_error_congr fun _ => ?_
    simp [pure, Except.pure]

end RunStatistics

end HttpBench
