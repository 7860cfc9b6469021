import HttpBench.Proofs.Statistics.Counts
import HttpBench.Proofs.Suite.Checks

/-!
# What is reported of a suite

A suite reports on each of its runs, in their order, and compares the first report with each later one
(`Suite.of_outcome`). It can fail to do so only where the figures of one of the runs are at fault
(`Suite.outcome_eq_error`), and they are not where every run is within reach (`Suite.exists_outcome`).
-/

namespace HttpBench

/-- **A report is on a run**, with what it says about how the run was made. -/
structure RunReport.IsOn (r : RunReport Float) (plan : RunPlan) (iteration : Nat) : Prop where
  name : r.name = plan.name
  iteration : r.iteration = iteration
  url : r.url = plan.target.url.text
  method : r.method = plan.target.method
  requests : r.requests = plan.requests
  concurrency : r.concurrency = plan.concurrency
  timeout : r.timeout = plan.timeout
  cacheEnabled : r.cacheEnabled = plan.cacheEnabled
  keepAlive : r.keepAlive = plan.target.keepAlive

/-- **A run is within reach**: the bytes that it has received fit a word, and doubles tell the times of its samples. -/
structure SuiteRun.WithinReach (r : SuiteRun) : Prop where
  bytes : (r.result.samples.map Sample.bytes).sum < Number.range64
  samples : RunStatistics.WithinReach Float r.result.samples

namespace Suite

variable {name : String} {rules : List (Rule Float)} {thresholds : Thresholds Float} {made : List SuiteRun}
  {r : SuiteRun} {o : SuiteOutcome} {cancelled : Bool} {fault : Fault}

theorem of_report {made : RunReport Float} (h : report name rules thresholds r = .ok made) :
    made.IsOn r.result.plan r.iteration ∧ made.cancelled = r.result.cancelled ∧
      statisticsOf r.result = .ok made.statistics := by
  unfold report at h
  cases hstatistics : statisticsOf r.result with
  | error fault =>
    rw [hstatistics] at h
    cases h
  | ok statistics =>
    rw [hstatistics] at h
    obtain rfl := Except.ok.inj h
    exact ⟨⟨rfl, rfl, rfl, rfl, rfl, rfl, rfl, rfl, rfl⟩, rfl, rfl⟩

/-- Only a run whose figures are at fault cannot be reported on. -/
theorem report_eq_error (h : report name rules thresholds r = .error fault) :
    statisticsOf r.result = .error fault := by
  unfold report at h
  cases hstatistics : statisticsOf r.result with
  | error fault' =>
    rw [hstatistics] at h
    exact congrArg Except.error (Except.error.inj h)
  | ok statistics =>
    rw [hstatistics] at h
    cases h

theorem of_outcome (h : outcome name rules thresholds (made, cancelled) = .ok o) :
    List.Forall₂ (fun r made => report name rules thresholds r = .ok made) made o.reports ∧
      (∀ i, o.comparisons[i]? = o.reports[0]?.bind fun first => o.reports[i + 1]?.map (.between first)) ∧
      o.cancelled = cancelled := by
  unfold outcome at h
  cases hreports : made.mapM (report name rules thresholds) with
  | error fault =>
    rw [hreports] at h
    cases h
  | ok reports =>
    rw [hreports] at h
    obtain rfl := Except.ok.inj h
    refine ⟨Except.mapM_eq_ok.mp hreports, fun i => ?_, rfl⟩
    cases reports with
    | nil => rfl
    | cons baseline rest => exact List.getElem?_map

theorem outcome_eq_error (h : outcome name rules thresholds (made, cancelled) = .error fault) :
    ∃ r ∈ made, statisticsOf r.result = .error fault := by
  unfold outcome at h
  cases hreports : made.mapM (report name rules thresholds) with
  | error fault' =>
    rw [hreports] at h
    obtain rfl := Except.error.inj h
    obtain ⟨_, r, _, rfl, _, hr⟩ := Except.mapM_eq_error.mp hreports
    exact ⟨r, by simp, report_eq_error hr⟩
  | ok reports =>
    rw [hreports] at h
    cases h

/-- **There is something to report** where every run is within reach. -/
theorem exists_outcome (h : ∀ r ∈ made, r.WithinReach) :
    ∃ o, outcome name rules thresholds (made, cancelled) = .ok o := by
  cases houtcome : outcome name rules thresholds (made, cancelled) with
  | ok o => exact ⟨o, rfl⟩
  | error fault =>
    obtain ⟨r, hr, hfault⟩ := outcome_eq_error houtcome
    obtain ⟨s, hs, _⟩ := RunStatistics.exists_isOf r.result.elapsed (h r hr).bytes (h r hr).samples
    unfold statisticsOf at hfault
    rw [hs] at hfault
    cases hfault

end Suite

end HttpBench
