import HttpBench.Proofs.Run.Plans
import HttpBench.Proofs.Run.Progress

/-!
# What a dispatched run leaves behind

The result of a dispatched run, for every order in which its workers get on, every moment at which
it is cancelled and every call that crashes. No number is with two samples, and every request is
either a sample or incomplete (`Dispatch.samples_accounted`). A cancellation costs at most one
request a worker (`Dispatch.samples_of_cancelled`).
-/

namespace HttpBench

namespace Dispatch

variable {settings : RunSettings} {d : Dispatch} {plan : RunPlan} {shared : Option ResponseCache}
  {cancelled : Bool} {now : Instant} {result : RunResult} {steps : List DispatchTransition}
  {run : RunState} {early : Bool} {started : Instant}

/-- The accounts of a measured run. -/
theorem accounted_measured (hplan : settings.validate = .ok plan) {measured : List RunTransition}
    (past : (plan.measuredRun shared early started).History measured run) : run.Accounted plan.requests :=
  .history (.begin (RunSettings.sound_of_validate hplan).2.concurrency) (.begin rfl) past

/-- In a measured run that begins nobody has crashed. -/
theorem uncrashed_measuredRun : (plan.measuredRun shared early started).Uncrashed := .begin rfl

/-- When a measured run begins, nobody has a sample. -/
theorem samples_measuredRun : (plan.measuredRun shared early started).workers.flatMap Worker.samples = [] := by
  simp [RunPlan.measuredRun, RunState.begin, List.flatMap_map]

/-- **The samples of a result** are among those that calls have returned, ... -/
theorem samples_subperm (past : (begin plan shared cancelled now).History steps d) (hdone : d.stage = .done result) :
    result.samples.Subperm ((steps.filterMap DispatchTransition.measured?).filterMap RunTransition.returned?) := by
  obtain ⟨early, started, run, hrun, _, rfl⟩ := run_of_done past hdone
  exact run.samples_subperm_workers.trans (RunState.returned_perm hrun samples_measuredRun).subperm

/-- ... and without crashes they are all of those. -/
theorem samples_returned (past : (begin plan shared cancelled now).History steps d) (hdone : d.stage = .done result)
    (hcrash : ∀ t ∈ steps.filterMap DispatchTransition.measured?, t.crashes = false) :
    result.samples.Perm ((steps.filterMap DispatchTransition.measured?).filterMap RunTransition.returned?) := by
  obtain ⟨early, started, run, hrun, hall, rfl⟩ := run_of_done past hdone
  have huncrashed := uncrashed_measuredRun.history hrun hcrash
  exact (RunState.samples_perm_of_uncrashed huncrashed hall).trans (RunState.returned_perm hrun samples_measuredRun)

/-- A measured run that is neither cancelled nor hit by a crash leaves nothing out. -/
theorem whole_of_running (haccounted : run.Accounted plan.requests) (huncrashed : run.Uncrashed)
    (hall : run.isDone = true) (hrunning : run.cancelled = false) :
    run.samples.map (·.sequence) = List.range plan.requests ∧ plan.requests - run.samples.length = 0 := by
  have hrange := haccounted.sequences_eq huncrashed hall hrunning
  have hcount : run.samples.length = plan.requests := by
    rw [← List.length_range (n := plan.requests), ← hrange, RunState.sequences, List.length_map]
  exact ⟨hrange, by omega⟩

/-- **Every request is accounted for.** In whatever order the workers get on, whenever the run is
cancelled and whatever crashes, the samples have ascending numbers below the number of requests, and
what is not a sample is incomplete. Without a cancellation or a crash nothing is. And the result
comes: from wherever it has got to, the run can be brought to its end, unless others are at work on
its cache. -/
theorem samples_accounted (hplan : settings.validate = .ok plan)
    (past : (begin plan shared cancelled now).History steps d) :
    (∀ result, d.stage = .done result →
      (result.samples.map (·.sequence)).Pairwise (· < ·) ∧
      (result.samples.map (·.sequence)).Nodup ∧
      (∀ x ∈ result.samples, x.sequence < plan.requests) ∧
      result.samples.length + result.incomplete = plan.requests ∧
      (result.cancelled = false → (∀ t ∈ steps.filterMap DispatchTransition.measured?, t.crashes = false) →
        result.samples.map (·.sequence) = List.range plan.requests ∧ result.incomplete = 0)) ∧
    ((∀ cache, shared = some cache → cache.fills.slots = [] ∧ cache.fills.current = []) →
      ∀ answer, d.CanReach answer IsOver) := by
  refine ⟨fun result hdone => ?_, fun hshared answer => canReach_isOver answer past hshared⟩
  obtain ⟨early, started, run, hrun, hall, rfl⟩ := run_of_done past hdone
  have haccounted := accounted_measured hplan hrun
  have hsorted := haccounted.sequences_pairwise
  have hlength := haccounted.length_le
  refine ⟨hsorted, hsorted.imp Nat.ne_of_lt, ?_, ?_, ?_⟩
  · intro x hx
    have hn : x.sequence ∈ run.sequences := List.mem_map_of_mem hx
    exact Nat.lt_of_lt_of_le (haccounted.lt_next hn) haccounted.next_le
  · show run.samples.length + (plan.requests - run.samples.length) = plan.requests
    omega
  · intro hrunning hcrash
    exact whole_of_running haccounted (uncrashed_measuredRun.history hrun hcrash) hall hrunning

/-- Two workers with one request each get on one after the other, the second one first. -/
def playTwo : List DispatchLabel :=
  let request w : List DispatchLabel :=
    [.run (.look w), .run (.take w), .run (.look w), .run (.start w), .run (.call w (.reply default)),
      .run (.leave w), .run (.finish w)]
  request 1 ++ request 0 ++ [.proceed]

theorem samples_accounted_of_two :
    ∃ plan steps d result, ({ url := "http://a/", requests := 2, concurrency := 2 } : RunSettings).validate = .ok plan ∧
      (begin plan none false ⟨0⟩).History steps d ∧ d.stage = .done result ∧
      result.samples.map (·.sequence) = [0, 1] ∧ result.incomplete = 0 := by
  have hplay : ((({ url := "http://a/", requests := 2, concurrency := 2 } : RunSettings).validate.toOption.bind
      fun plan => (playFrom step (begin plan none false ⟨0⟩) playTwo).bind fun r => r.2.result?.map fun result =>
        !result.cancelled && (r.1.filterMap DispatchTransition.measured?).all (!·.crashes)) = some true) := by
    decide +kernel
  obtain ⟨plan, steps, d, result, hplan, past, hdone, hP⟩ := exists_of_play
    (P := fun steps result => !result.cancelled && (steps.filterMap DispatchTransition.measured?).all (!·.crashes))
    hplay
  simp only [Bool.and_eq_true, Bool.not_eq_true', List.all_eq_true] at hP
  obtain ⟨hall, _⟩ := samples_accounted hplan past
  obtain ⟨_, _, _, _, hwhole⟩ := hall result hdone
  obtain ⟨hrange, hnone⟩ := hwhole hP.1 hP.2
  have hrequests : plan.requests = 2 := congrArg RunOptions.requests (RunSettings.sound_of_validate hplan).1
  rw [hrequests] at hrange
  exact ⟨plan, steps, d, result, hplan, past, hdone, hrange, hnone⟩

/-! ## Cancellation -/

/-- **What a cancellation does.** Let nothing crash, and let the run be cancelled only while no worker
is in the middle of a turn. Once it is cancelled, no call begins and none returns a sample. The
samples of the result are all that calls have returned; the numbers handed out are the first ones,
and at most one a worker has no sample. A run that has been cancelled says so, and only such a run
is short of anything. -/
theorem samples_of_cancelled (hplan : settings.validate = .ok plan)
    (past : (begin plan shared cancelled now).History steps d)
    (hcrash : ∀ t ∈ steps.filterMap DispatchTransition.inner?, t.crashes = false)
    (hpoll : ∀ t ∈ steps.filterMap DispatchTransition.inner?, t.label = .cancel → t.before.Unlooked) :
    (∀ t ∈ steps.filterMap DispatchTransition.inner?, t.before.cancelled = true →
      t.fetches = false ∧ t.returned? = none) ∧
    ∀ result, d.stage = .done result →
      result.samples.Perm ((steps.filterMap DispatchTransition.measured?).filterMap RunTransition.returned?) ∧
      (∃ k, (steps.filterMap DispatchTransition.measured?).filterMap RunTransition.taken? = List.range k ∧
        ((List.range k).filter (· ∉ result.samples.map (·.sequence))).length ≤ plan.concurrency) ∧
      ((∃ t ∈ steps.filterMap DispatchTransition.measured?, t.after.cancelled = true) → result.cancelled = true) ∧
      (0 < result.incomplete → result.cancelled = true) := by
  refine ⟨fun t ht hc => ?_, fun result hdone => ?_⟩
  · rcases DispatchTransition.warmed_or_measured ht with ht | ht
    · obtain ⟨run, hrun⟩ := warmup_history past
      exact RunState.Quiet.silent_of_history .begin (.begin rfl) hrun
        (fun u hu => hpoll u (DispatchTransition.mem_inner_of_warmed hu)) ht hc
    · obtain hnone | ⟨early, started, run, hrun⟩ := measured_history past
      · rw [hnone] at ht
        cases ht
      · exact RunState.Quiet.silent_of_history .begin (.begin rfl) hrun
          (fun u hu => hpoll u (DispatchTransition.mem_inner_of_measured hu)) ht hc
  have hmeasured : ∀ t ∈ steps.filterMap DispatchTransition.measured?, t.crashes = false := fun t ht =>
    hcrash t (DispatchTransition.mem_inner_of_measured ht)
  have hreturned := samples_returned past hdone hmeasured
  obtain ⟨early, started, run, hrun, hall, rfl⟩ := run_of_done past hdone
  have haccounted := accounted_measured hplan hrun
  have huncrashed := uncrashed_measuredRun.history hrun hmeasured
  refine ⟨hreturned, ⟨run.nextSequence, RunState.taken_eq hrun rfl, ?_⟩, ?_, ?_⟩
  · have hworkers : run.workers.length = plan.concurrency := by
      rw [RunState.length_of_history hrun]
      simp [RunPlan.measuredRun, RunState.begin]
    exact hworkers ▸ haccounted.few_missing huncrashed hall
  · rintro ⟨t, ht, hc⟩
    exact RunState.cancelled_of_history hrun ht hc
  · intro hshort
    by_contra hrunning
    obtain ⟨_, hnone⟩ := whole_of_running haccounted huncrashed hall (Bool.eq_false_iff.mpr hrunning)
    exact absurd hnone (Nat.ne_of_gt hshort)

/-- A worker makes one request, and is cut off in the middle of the next. -/
def playCut : List DispatchLabel :=
  [.run (.look 0), .run (.take 0), .run (.look 0), .run (.start 0), .run (.call 0 (.reply default)), .run (.leave 0),
    .run (.look 0), .run (.take 0), .run (.look 0), .run (.start 0), .run (.rest 0), .cancel, .run (.quit 0),
    .run (.leave 0), .proceed]

theorem samples_of_cancelled_one :
    ∃ plan steps d result, ({ url := "http://a/", requests := 3, concurrency := 1 } : RunSettings).validate = .ok plan ∧
      (begin plan none false ⟨0⟩).History steps d ∧ d.stage = .done result ∧ result.cancelled = true ∧
      result.incomplete = 2 ∧ ∃ k, ((List.range k).filter (· ∉ result.samples.map (·.sequence))).length ≤ 1 := by
  have hplay : ((({ url := "http://a/", requests := 3, concurrency := 1 } : RunSettings).validate.toOption.bind
      fun plan => (playFrom step (begin plan none false ⟨0⟩) playCut).bind fun r => r.2.result?.map fun result =>
        result.incomplete == 2 && (r.1.filterMap DispatchTransition.inner?).all fun t =>
          !t.crashes && (!t.label.isCancel || t.before.workers.all (!·.looked))) = some true) := by
    decide +kernel
  obtain ⟨plan, steps, d, result, hplan, past, hdone, hP⟩ := exists_of_play
    (P := fun steps result => result.incomplete == 2 && (steps.filterMap DispatchTransition.inner?).all fun t =>
      !t.crashes && (!t.label.isCancel || t.before.workers.all (!·.looked))) hplay
  simp only [Bool.and_eq_true, Bool.or_eq_true, Bool.not_eq_true', List.all_eq_true, beq_iff_eq] at hP
  obtain ⟨hshort, hall⟩ := hP
  obtain ⟨_, hresult⟩ := samples_of_cancelled hplan past (fun t ht => (hall t ht).1) fun t ht hcancel =>
    (hall t ht).2.resolve_left (by simp [hcancel, RunLabel.isCancel])
  obtain ⟨_, ⟨k, _, hfew⟩, _, hcancelled⟩ := hresult result hdone
  have hone : plan.concurrency = 1 := congrArg RunOptions.concurrency (RunSettings.sound_of_validate hplan).1
  exact ⟨plan, steps, d, result, hplan, past, hdone, hcancelled (by omega), hshort, k, hone ▸ hfew⟩

end Dispatch

end HttpBench
