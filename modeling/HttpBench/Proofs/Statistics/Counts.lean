import HttpBench.Proofs.Statistics.Samples
import HttpBench.Proofs.Statistics.Series
import HttpBench.Proofs.Statistics.Tallies

/-!
# Every sample is counted once

The figures of samples account for each sample (`RunStatistics.ofSamples_accounted`). It is a success, an application
error or a transport failure, and no two of them. If it has a response, its status is counted and its time is in the
latency; if not, the kind of its failure is counted. Each of its phases is in the summary of that phase. So the
figures of samples that were taken in two parts count what those of the parts count together, and every ratio is one
of a part to the whole.

All this holds in any number system that sums up series, for the samples that it reaches (`RunStatistics.WithinReach`).
Exact arithmetic reaches all of them, and doubles reach as many as a word counts, of any durations that there are.
-/

namespace HttpBench

open Number

/-! ## Counts of samples -/

namespace RunStatistics

open LatencySummary (countOf)

section
variable (samples left right : List Sample)

theorem length_latencies : (latencies samples).length = samples.countP fun x => x.outcome.hasResponse := by
  rw [latencies, List.length_map, List.countP_eq_length_filter]

theorem length_statuses :
    (samples.filterMap fun x => x.outcome.status?).length = samples.countP fun x => x.outcome.hasResponse := by
  rw [List.length_filterMap_eq_countP]
  refine List.countP_congr fun x _ => ?_
  cases x.outcome <;> simp [Outcome.status?, Outcome.hasResponse]

theorem length_failures :
    (samples.filterMap fun x => x.outcome.failure?.map Failure.kind).length =
      samples.countP fun x => !x.outcome.hasResponse := by
  rw [List.length_filterMap_eq_countP]
  refine List.countP_congr fun x _ => ?_
  cases x.outcome <;> simp [Outcome.failure?, Outcome.hasResponse]

/-- What is known of connections is known of samples from the network. -/
theorem length_reuses_le : (reuses samples).length + (samples.countP fun x => x.fromCache) ≤ samples.length := by
  have hknown : (reuses samples).length ≤ samples.countP fun x => !x.fromCache := by
    rw [List.countP_eq_length_filter]
    exact List.length_filterMap_le _ _
  have hall := List.length_eq_countP_add_countP (fun x : Sample => x.fromCache) (l := samples)
  simp only [Bool.not_eq_true, Bool.decide_eq_false] at hall
  omega

end

variable {R : Type} [Scalar R] {samples left right : List Sample} {elapsed : Duration} {s l r : RunStatistics R}

/-- **The figures account for the samples**, for each of them once. -/
structure Accounts (s : RunStatistics R) (xs : List Sample) : Prop where
  samples : s.samples = xs.length
  outcomes : s.successes + s.applicationErrors + s.transportErrors = s.samples
  failures : s.failures = s.applicationErrors + s.transportErrors
  statuses : (s.statuses.map Prod.snd).sum = xs.countP fun x => x.outcome.hasResponse
  latency : countOf s.latency = xs.countP fun x => x.outcome.hasResponse
  unanswered : s.latency = none ↔ xs.countP (fun x => x.outcome.hasResponse) = 0
  errors : (s.errors.map Prod.snd).sum = s.transportErrors
  phases : ∀ phase, countOf (s.phases.get phase) = xs.countP fun x => (x.phases.get phase).isSome
  network : s.reuseKnown + s.cacheHits ≤ s.samples
  errorRate : IsShare s.errorRate
  cacheHitRatio : IsShare s.cacheHitRatio
  reuseRatio : ∀ ratio, s.reuseRatio = some ratio → IsShare ratio
  http2Ratio : ∀ ratio, s.http2Ratio = some ratio → IsShare ratio

/-- **The figures of two parts** together: every count, both tables and the bytes. -/
structure IsSum (s l r : RunStatistics R) : Prop where
  samples : s.samples = l.samples + r.samples
  successes : s.successes = l.successes + r.successes
  applicationErrors : s.applicationErrors = l.applicationErrors + r.applicationErrors
  transportErrors : s.transportErrors = l.transportErrors + r.transportErrors
  failures : s.failures = l.failures + r.failures
  cacheHits : s.cacheHits = l.cacheHits + r.cacheHits
  incomplete : s.incomplete = l.incomplete + r.incomplete
  reuseKnown : s.reuseKnown = l.reuseKnown + r.reuseKnown
  bytes : s.bytes = l.bytes + r.bytes
  latency : countOf s.latency = countOf l.latency + countOf r.latency
  phases : ∀ phase, countOf (s.phases.get phase) = countOf (l.phases.get phase) + countOf (r.phases.get phase)
  statuses : ∀ status, s.statuses.lookup status =
    Option.merge (· + ·) (l.statuses.lookup status) (r.statuses.lookup status)
  errors : ∀ kind, s.errors.lookup kind = Option.merge (· + ·) (l.errors.lookup kind) (r.errors.lookup kind)

variable [SumsUp R]

/-- **Samples within reach** of a number system: no more of them than it counts, and no time longer than it tells. -/
structure WithinReach (R : Type) [Scalar R] [SumsUp R] (xs : List Sample) : Prop where
  count : xs.length ≤ SumsUp.most R
  totals : ∀ x ∈ xs, x.total.nanos ≤ SumsUp.longest R
  phases : ∀ x ∈ xs, ∀ phase d, x.phases.get phase = some d → d.nanos ≤ SumsUp.longest R

/-- **Exact arithmetic** reaches all samples. -/
theorem WithinReach.exact {R : Type} [Scalar R] [ExactArithmetic R] (samples : List Sample) :
    WithinReach R samples where
  count := le_top
  totals _ _ := le_top
  phases _ _ _ _ _ := le_top

/-- **Doubles** reach as many samples as a word counts, whatever time they took. -/
theorem WithinReach.double (hcount : samples.length < range64)
    (htotals : ∀ x ∈ samples, x.total.nanos ≤ Duration.longest.nanos)
    (hphases : ∀ x ∈ samples, ∀ phase d, x.phases.get phase = some d → d.nanos ≤ Duration.longest.nanos) :
    WithinReach Float samples where
  count := Nat.cast_le.mpr (Nat.le_pred_of_lt hcount)
  totals x hx := Nat.cast_le.mpr (htotals x hx)
  phases x hx phase d hd := Nat.cast_le.mpr (hphases x hx phase d hd)

namespace WithinReach

theorem subperm (h : WithinReach R samples) {part : List Sample} (hpart : part.Subperm samples) :
    WithinReach R part where
  count := le_trans (Nat.cast_le.mpr hpart.length_le) h.count
  totals x hx := h.totals x (hpart.subset hx)
  phases x hx := h.phases x (hpart.subset hx)

theorem of_append_left (h : WithinReach R (left ++ right)) : WithinReach R left :=
  h.subperm (List.sublist_append_left left right).subperm

theorem of_append_right (h : WithinReach R (left ++ right)) : WithinReach R right :=
  h.subperm (List.sublist_append_right left right).subperm

variable (h : WithinReach R samples)
include h

theorem whole_le {whole : Nat} (hle : whole ≤ samples.length) : whole ≤ SumsUp.most R :=
  le_trans (Nat.cast_le.mpr hle) h.count

theorem latency : ∃ summary : Option (LatencySummary R), LatencySummary.ofDurations (latencies samples) = .ok summary ∧
    countOf summary = (latencies samples).length ∧ (summary = none ↔ latencies samples = []) := by
  refine SumsUp.exists_ofDurations (h.whole_le ?_) fun d hd => ?_
  · rw [length_latencies]
    exact List.countP_le_length
  · obtain ⟨x, hx, rfl⟩ := List.mem_map.mp hd
    exact h.totals x (List.mem_filter.mp hx).1

theorem phase (phase : Phase) : ∃ summary : Option (LatencySummary R), phaseSummary samples phase = .ok summary ∧
    countOf summary = samples.countP fun x => (x.phases.get phase).isSome := by
  have hcount : (samples.filterMap fun x => x.phases.get phase).length ≤ SumsUp.most R :=
    h.whole_le (List.length_filterMap_le _ _)
  obtain ⟨summary, hsummary, hlength, _⟩ := SumsUp.exists_ofDurations hcount fun d hd => by
    obtain ⟨x, hx, hd⟩ := List.mem_filterMap.mp hd
    exact h.phases x hx phase d hd
  rw [← List.length_filterMap_eq_countP]
  exact ⟨summary, hsummary, hlength⟩

end WithinReach

theorem isShare_ratio {part whole : Nat} {x : R} (hle : part ≤ whole) (hmost : whole ≤ SumsUp.most R)
    (h : (ratio? part whole : Option R) = some x) : IsShare x := by
  unfold ratio? at h
  split at h
  next => cases h
  next hne =>
    obtain rfl := Option.some.inj h
    exact SumsUp.isShare_quotient hle (Nat.pos_of_ne_zero hne) hmost

theorem isShare_ratio_getD {part whole : Nat} (hle : part ≤ whole) (hmost : whole ≤ SumsUp.most R) :
    IsShare ((ratio? part whole : Option R).getD Scalar.zero) := by
  cases h : (ratio? part whole : Option R) with
  | none => exact SumsUp.isShare_zero
  | some x => exact isShare_ratio hle hmost h

theorem IsOf.accounts (h : s.IsOf samples elapsed) (hreach : WithinReach R samples) : s.Accounts samples := by
  obtain ⟨latency, hlatency, hcount, hnone⟩ := hreach.latency
  obtain rfl := Except.ok.inj (hlatency.symm.trans h.latency)
  rw [← List.length_eq_zero_iff, length_latencies] at hnone
  exact
    { samples := h.samples
      outcomes := h.outcomes
      failures := h.failures
      statuses := by rw [h.statuses, Tally.sum_ofList, length_statuses]
      latency := hcount.trans (length_latencies samples)
      unanswered := hnone
      errors := by rw [h.errors, Tally.sum_ofList, length_failures, h.transportErrors]
      phases := fun phase => by
        obtain ⟨summary, hsummary, hcount⟩ := hreach.phase phase
        exact Except.ok.inj (hsummary.symm.trans (h.phases phase)) ▸ hcount
      network := by
        rw [h.reuseKnown, h.cacheHits, h.samples]
        exact length_reuses_le samples
      errorRate := by
        rw [h.errorRate]
        exact isShare_ratio_getD h.failures_le (hreach.whole_le h.samples.le)
      cacheHitRatio := by
        rw [h.cacheHitRatio, h.cacheHits, h.samples]
        exact isShare_ratio_getD List.countP_le_length hreach.count
      reuseRatio := fun ratio hratio => by
        rw [h.reuseRatio, h.reuseKnown] at hratio
        have hknown := length_reuses_le samples
        exact isShare_ratio List.countP_le_length (hreach.whole_le (by omega)) hratio
      http2Ratio := fun ratio hratio => by
        rw [h.http2Ratio] at hratio
        refine isShare_ratio List.countP_le_length (hreach.whole_le ?_) hratio
        exact (List.length_filterMap_le _ _).trans (List.length_filter_le _ _) }

theorem IsOf.isSum {elapsedLeft elapsedRight : Duration} (h : s.IsOf (left ++ right) elapsed)
    (hl : l.IsOf left elapsedLeft) (hr : r.IsOf right elapsedRight) (hreach : WithinReach R (left ++ right)) :
    s.IsSum l r where
  samples := by rw [h.samples, hl.samples, hr.samples, List.length_append]
  successes := by rw [h.successes, hl.successes, hr.successes, List.countP_append]
  applicationErrors := by
    rw [h.applicationErrors, hl.applicationErrors, hr.applicationErrors, List.countP_append]
  transportErrors := by rw [h.transportErrors, hl.transportErrors, hr.transportErrors, List.countP_append]
  failures := by
    rw [h.failures, hl.failures, hr.failures, h.applicationErrors, h.transportErrors, List.countP_append,
      List.countP_append, ← hl.applicationErrors, ← hr.applicationErrors, ← hl.transportErrors, ← hr.transportErrors]
    omega
  cacheHits := by rw [h.cacheHits, hl.cacheHits, hr.cacheHits, List.countP_append]
  incomplete := by rw [h.incomplete, hl.incomplete, hr.incomplete]
  reuseKnown := by
    rw [h.reuseKnown, hl.reuseKnown, hr.reuseKnown, reuses, List.filter_append, List.filterMap_append,
      List.length_append]
    rfl
  bytes := by rw [h.bytes, hl.bytes, hr.bytes, List.map_append, List.sum_append]
  latency := by
    rw [(h.accounts hreach).latency, (hl.accounts hreach.of_append_left).latency,
      (hr.accounts hreach.of_append_right).latency, List.countP_append]
  phases phase := by
    rw [(h.accounts hreach).phases, (hl.accounts hreach.of_append_left).phases,
      (hr.accounts hreach.of_append_right).phases, List.countP_append]
  statuses status := by
    rw [h.statuses, hl.statuses, hr.statuses, List.filterMap_append, Tally.lookup_ofList_append]
  errors kind := by
    rw [h.errors, hl.errors, hr.errors, List.filterMap_append, Tally.lookup_ofList_append]

/-- Samples within reach have figures wherever their bytes fit 64 bits. -/
theorem exists_isOf (elapsed : Duration) (hroom : (samples.map Sample.bytes).sum < range64)
    (hreach : WithinReach R samples) :
    ∃ s : RunStatistics R, ofSamples samples elapsed = .ok s ∧ s.IsOf samples elapsed := by
  obtain ⟨latency, hlatency, _⟩ := hreach.latency
  obtain ⟨s, hs⟩ := exists_of_summaries (R := R) elapsed hroom
    (fun phase => (hreach.phase phase).imp fun _ h => h.1) ⟨latency, hlatency⟩
  exact ⟨s, hs, (of_ofSamples hs).2⟩

/-- **Every sample is accounted for**, once. Samples within reach whose bytes fit 64 bits have figures. Each sample is
a success, an application error or a transport failure; those with a response make up the statuses and the latency,
those without one the kinds of failures, those in which a phase was seen its summary; and all ratios are shares. Cut
anywhere into two parts, whatever the parts took, the samples have figures that are the sums of those of the
parts: all counts, both tables and the bytes. -/
theorem ofSamples_accounted (samples : List Sample) (elapsed : Duration)
    (hroom : (samples.map Sample.bytes).sum < range64) (hreach : WithinReach R samples) :
    ∃ s : RunStatistics R, ofSamples samples elapsed = .ok s ∧ s.Accounts samples ∧
      ∀ left right elapsedLeft elapsedRight, left ++ right = samples →
        ∃ l r : RunStatistics R, ofSamples left elapsedLeft = .ok l ∧ ofSamples right elapsedRight = .ok r ∧
          s.IsSum l r := by
  obtain ⟨s, hs, hof⟩ := exists_isOf elapsed hroom hreach
  refine ⟨s, hs, hof.accounts hreach, ?_⟩
  rintro left right elapsedLeft elapsedRight rfl
  rw [List.map_append, List.sum_append] at hroom
  obtain ⟨l, hl, hleft⟩ := exists_isOf elapsedLeft (by omega) hreach.of_append_left
  obtain ⟨r, hr, hright⟩ := exists_isOf elapsedRight (by omega) hreach.of_append_right
  exact ⟨l, r, hl, hr, hof.isSum hleft hright hreach⟩

/-- Of three samples one has no response, one comes from the cache, and the last two are a part of their own. -/
theorem ofSamples_accounted_of_three :
    let fetched := sampleOf 0 100 (.success 200) { ttfb := some (.millis 70), reused := some false } false
    let served := sampleOf 1 200 (.success 200) {} true
    let failed := sampleOf 2 300 (.transportError (.dns "no such host")) { dns := some (.millis 10) } false
    ∃ s l r : RunStatistics Float, ofSamples [fetched, served, failed] (.seconds 1) = .ok s ∧
      ofSamples [fetched] (.seconds 1) = .ok l ∧ ofSamples [served, failed] (.seconds 1) = .ok r ∧
      s.successes + s.applicationErrors + s.transportErrors = 3 ∧ countOf s.latency = 2 ∧
      countOf (s.phases.get .dns) = 1 ∧ IsShare s.errorRate ∧ s.statuses.lookup 200 =
        Option.merge (· + ·) (l.statuses.lookup 200) (r.statuses.lookup 200) := by
  intro fetched served failed
  have hreach : WithinReach Float [fetched, served, failed] :=
    .double (by decide) (by decide) fun x hx phase d hd => by
      fin_cases hx <;> cases phase <;> cases hd <;> decide
  obtain ⟨s, hs, haccounts, hparts⟩ :=
    ofSamples_accounted [fetched, served, failed] (.seconds 1) (by decide) hreach
  obtain ⟨l, r, hl, hr, hsum⟩ := hparts [fetched] [served, failed] (.seconds 1) (.seconds 1) rfl
  exact ⟨s, l, r, hs, hl, hr, haccounts.outcomes.trans haccounts.samples, haccounts.latency, haccounts.phases .dns,
    haccounts.errorRate, hsum.statuses 200⟩

end RunStatistics

end HttpBench
