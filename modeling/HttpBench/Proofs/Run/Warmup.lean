import HttpBench.Proofs.Run.Balance
import HttpBench.Proofs.Run.InFlight
import HttpBench.Proofs.Run.Results

/-!
# The warmup leaves nothing behind

A dispatched run has two runs in it, and the first of them is made to be forgotten. It shares the
transport and the cancellation with the measured one and nothing else (`Dispatch.warmup_forgotten`):

* it makes no more calls than it has requests, and as many if it is neither cancelled nor hit by a
  crash;
* it has no cache, so the shared one, with its entries, their order, its counters and its slots, is in
  every state of the warmup what it was at first, and the measured run begins with it as it is;
* the measured run counts its numbers and its peak from zero, and has the samples of its own calls only.

What the shared cache is at a moment is `Dispatch.cacheNow`: while a run is measured with it, its
executor has it. A run that uses no cache never changes it.
-/

namespace HttpBench

namespace Executor

variable {e e' : Executor} {c : Caller} {label : CallLabel}

/-- An executor without a cache never gets one. -/
theorem step_uncached (h : e.step c label = some e') (hcache : e.cache = none) : e'.cache = none := by
  cases hcache' : e'.cache with
  | none => rfl
  | some cache' =>
    obtain ⟨cache, hsome, _⟩ := storeChange_of_step h hcache'
    rw [hcache] at hsome
    cases hsome

end Executor

namespace RunState

variable {first s s' : RunState} {label : RunLabel} {steps : List RunTransition}

theorem step_uncached (hstep : s.step label = some s') (hcache : s.executor.cache = none) :
    s'.executor.cache = none := by
  cases happens_of_step hstep with
  | quitCalling _ _ _ _ hcall | start _ _ _ hcall | call _ _ _ hcall | unlist hcall | leave _ _ hcall =>
    exact Executor.step_uncached hcall hcache
  | purge =>
    show s.executor.cache.map _ = none
    rw [hcache, Option.map_none]
  | _ => exact hcache

/-- **A run without a cache** has none in any state. -/
theorem uncached_of_history (past : first.History steps s) (hcache : first.executor.cache = none) :
    s.executor.cache = none :=
  past.invariant (P := fun s => s.executor.cache = none) hcache fun _ _ _ h hstep => step_uncached hstep h

end RunState

namespace Dispatch

variable {settings : RunSettings} {d d' : Dispatch} {label : DispatchLabel} {plan : RunPlan}
  {shared : Option ResponseCache} {cancelled : Bool} {now : Instant} {result : RunResult}
  {steps : List DispatchTransition}

/-- **The shared cache at this moment.** A run that is measured with it has it in its executor. -/
def cacheNow (d : Dispatch) : Option ResponseCache :=
  match d.stage with
  | .measuring _ run => if d.plan.cacheEnabled then d.shared.bind fun _ => run.executor.cache else d.shared
  | .warming _ | .done _ => d.shared

/-- **When a run begins to measure**, it has the shared cache as it is. -/
theorem cacheNow_measure (plan : RunPlan) (shared : Option ResponseCache) (cancelled : Bool) (now : Instant) :
    (measure plan shared cancelled now).cacheNow = shared := by
  simp only [cacheNow, measure, RunPlan.measuredRun, RunState.begin]
  split_ifs
  · cases shared <;> rfl
  · rfl

/-- **Up to its measured run** a dispatched run leaves the shared cache as it was. -/
theorem cacheNow_of_warming (past : (begin plan shared cancelled now).History steps d) {run : RunState}
    (hstage : d.stage = .warming run) :
    d.cacheNow = shared ∧ ∀ label d', d.step label = some d' → d'.cacheNow = shared := by
  obtain ⟨hplan, hshared⟩ := plan_eq past
  have hshared : d.shared = shared := hshared.resolve_left fun ⟨_, hdone⟩ => by rw [hstage] at hdone; cases hdone
  constructor
  · rw [cacheNow, hstage, hshared]
  · intro label d' hstep
    cases happens_of_step hstep with
    | warm | cancelWarmup => exact hshared
    | warmedUp =>
      rw [hplan, hshared]
      exact cacheNow_measure ..
    | measured h | finish h | cancelMeasured h | cancelDone h | expire h =>
      rw [hstage] at h
      cases h

/-- **In the warmup**, and in a run that uses no cache, there is none. -/
theorem uncached_of_run (past : (begin plan shared cancelled now).History steps d) {run : RunState}
    (hrun : d.run? = some run) (huncached : d.IsWarming ∨ plan.cacheEnabled = false) : run.executor.cache = none := by
  have hcourse := course past
  cases hstage : d.stage with
  | warming =>
    rw [hstage] at hcourse
    obtain ⟨hwarmup, _⟩ := hcourse
    simp only [run?, hstage, Option.some.injEq] at hrun
    exact RunState.uncached_of_history (hrun ▸ hwarmup) rfl
  | measuring =>
    have hnot : ¬d.IsWarming := by simp [IsWarming, hstage]
    have hcache : plan.cacheEnabled = false := huncached.resolve_left hnot
    rw [hstage] at hcourse
    obtain _ | ⟨_, hmeasured⟩ := hcourse
    simp only [run?, hstage, Option.some.injEq] at hrun
    refine RunState.uncached_of_history (hrun ▸ hmeasured) ?_
    simp [RunPlan.measuredRun, RunState.begin, hcache]
  | done => simp only [run?, hstage] at hrun; cases hrun

/-- **A run that uses no cache** leaves the shared one as it was. -/
theorem cacheNow_of_uncached (past : (begin plan shared cancelled now).History steps d)
    (hcache : plan.cacheEnabled = false) : d.cacheNow = shared := by
  obtain ⟨hplan, hshared⟩ := plan_eq past
  cases hstage : d.stage with
  | done result =>
    obtain ⟨_, _, _, _, _, _, hleft⟩ := left_of_done past hstage
    rw [cacheNow, hstage, hleft, hcache]
    rfl
  | warming => exact (cacheNow_of_warming past hstage).1
  | measuring =>
    have hshared : d.shared = shared := hshared.resolve_left fun ⟨_, hdone⟩ => by rw [hstage] at hdone; cases hdone
    rw [cacheNow, hstage, hplan, hcache]
    exact hshared

/-- **The warmup leaves nothing behind.** In whatever order the workers get on, whenever the run is
cancelled and whatever crashes: the warmup makes no more calls than it has requests, and as many if it
is over and was neither cancelled nor hit by a crash. It has no cache, and in each of its states and
when the measured run begins the shared cache is what it was at first. The measured run hands out the
first numbers, its peak is the highest count of its own steps, and its samples are returned by its own
calls. A run that uses no cache leaves the shared one as it was to its end. -/
theorem warmup_forgotten (hplan : settings.validate = .ok plan)
    (past : (begin plan shared cancelled now).History steps d) :
    (steps.filterMap DispatchTransition.warmed?).countP RunTransition.fetches ≤ plan.warmup ∧
    (cancelled = false → ¬d.IsWarming →
      (∀ t ∈ steps.filterMap DispatchTransition.warmed?, t.label.isCancel = false ∧ t.crashes = false) →
      (steps.filterMap DispatchTransition.warmed?).countP RunTransition.fetches = plan.warmup) ∧
    (∀ run, d.run? = some run → d.IsWarming ∨ plan.cacheEnabled = false → run.executor.cache = none) ∧
    (∀ t ∈ steps, t.before.IsWarming → t.before.cacheNow = shared ∧ t.after.cacheNow = shared) ∧
    (∀ result, d.stage = .done result →
      (∃ k, (steps.filterMap DispatchTransition.measured?).filterMap RunTransition.taken? = List.range k) ∧
      IsGreatest {n | n ∈ RunTransition.levels (steps.filterMap DispatchTransition.measured?)} result.peak ∧
      result.samples.Subperm ((steps.filterMap DispatchTransition.measured?).filterMap RunTransition.returned?)) ∧
    (plan.cacheEnabled = false → d.cacheNow = shared) := by
  have hconcurrency := (RunSettings.sound_of_validate hplan).2.concurrency
  refine ⟨?_, ?_, ?_, ?_, ?_, cacheNow_of_uncached past⟩
  · obtain ⟨run, hrun⟩ := warmup_history past
    have haccounted := (accounted_warmupRun hconcurrency).history (.begin rfl) hrun
    exact (RunState.Balanced.history rfl hrun).fetches_le.trans haccounted.next_le
  · rintro rfl hover hsound
    obtain ⟨run, hrun, hdone⟩ := warmup_done past hover
    have hrunning := RunState.running_of_history hrun rfl fun t ht => (hsound t ht).1
    exact RunState.Direct.fetches_eq rfl (accounted_warmupRun hconcurrency) hrun hdone hrunning fun t ht =>
      (hsound t ht).2
  · intro run hrun huncached
    exact uncached_of_run past hrun huncached
  · rintro t ht ⟨run, hstage⟩
    obtain ⟨_, _, hbefore, hnow, _⟩ := past.split ht
    obtain ⟨hsame, hstep⟩ := cacheNow_of_warming hbefore hstage
    exact ⟨hsame, hstep _ _ hnow⟩
  · intro result hdone
    have hsamples := samples_subperm past hdone
    obtain ⟨early, started, run, hrun, hall, rfl⟩ := run_of_done past hdone
    obtain ⟨hgauged, _⟩ := RunState.gauged_of_history rfl hrun
    exact ⟨⟨_, RunState.taken_eq hrun rfl⟩, hgauged.highest, hsamples⟩

/-- A worker warms up with one request and makes two measured ones: the first is fetched although the
warmup has fetched the same before it, the second is served from the cache. -/
def playWarmup : List DispatchLabel :=
  let enter : List DispatchLabel := [.run (.look 0), .run (.take 0), .run (.look 0), .run (.start 0)]
  let answer : Exchange :=
    { phases := {}, total := ⟨0⟩, result := .ok { status := 200, headers := [], body := [], protocol := "HTTP/1.1" } }
  let leave : List DispatchLabel := [.run (.unlist 0), .run (.leave 0)]
  let warm : List DispatchLabel := [.run (.call 0 (.reply answer)), .run (.leave 0), .run (.finish 0), .proceed]
  let fetch : List DispatchLabel := [.run (.call 0 .lookUp), .run (.call 0 (.reply answer))]
  let serve : List DispatchLabel := [.run (.call 0 .lookUp)]
  let finish : List DispatchLabel := [.run (.finish 0), .proceed]
  enter ++ warm ++ enter ++ fetch ++ leave ++ enter ++ serve ++ leave ++ finish

/-- One miss and one hit, and nobody cuts the warmup off or crashes in it. -/
def showsWarmup (steps : List DispatchTransition) (result : RunResult) : Bool :=
  result.cacheCounts.any (fun k => k.hits == 1 && k.misses == 1) &&
    (steps.filterMap DispatchTransition.warmed?).all fun t => !t.label.isCancel && !t.crashes

theorem warmup_forgotten_of_one :
    ∃ plan steps d result,
      ({ url := "http://a/", requests := 2, concurrency := 1, warmup := 1, cacheEnabled := true } :
        RunSettings).validate = .ok plan ∧
      (begin plan (some {}) false ⟨0⟩).History steps d ∧ d.stage = .done result ∧
      (steps.filterMap DispatchTransition.warmed?).countP RunTransition.fetches = 1 ∧
      (∀ t ∈ steps, t.before.IsWarming → t.after.cacheNow = some {}) ∧
      (result.cacheCounts.any fun k => k.hits == 1 && k.misses == 1) = true := by
  have hplay : ((({ url := "http://a/", requests := 2, concurrency := 1, warmup := 1, cacheEnabled := true } :
      RunSettings).validate.toOption.bind fun plan => (playFrom step (begin plan (some {}) false ⟨0⟩) playWarmup).bind
        fun r => r.2.result?.map (showsWarmup r.1)) = some true) := by
    decide +kernel
  obtain ⟨plan, steps, d, result, hplan, past, hdone, hshown⟩ := exists_of_play hplay
  simp only [showsWarmup, Bool.and_eq_true, Bool.not_eq_true', List.all_eq_true] at hshown
  obtain ⟨hcounts, hsound⟩ := hshown
  obtain ⟨_, hwhole, _, hframe, _⟩ := warmup_forgotten hplan past
  have hone : plan.warmup = 1 := congrArg RunOptions.warmup (RunSettings.sound_of_validate hplan).1
  have hover : ¬d.IsWarming := by
    rintro ⟨_, hwarming⟩
    rw [hdone] at hwarming
    cases hwarming
  exact ⟨plan, steps, d, result, hplan, past, hdone, hone ▸ hwhole rfl hover hsound,
    fun t ht hwarming => (hframe t ht hwarming).2, hcounts⟩

end Dispatch

end HttpBench
