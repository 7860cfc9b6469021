import HttpBench.Proofs.Run.Progress

/-!
# How a dispatched run comes to its end

A dispatched run that ends early was cancelled from outside, before it began or while it went on, or
it was ended by its own deadline (`Dispatch.stopped_or_expired`). Its own deadline does not cancel it
from outside (`Dispatch.cancelled_iff`), so whoever has dispatched it does not take one for the other.

However a run ends, it leaves the shared cache without a fetch under way (`Dispatch.unused_of_history`),
and it has begun to measure only when its warmup was over (`Dispatch.warmup_over`).
-/

namespace HttpBench

namespace RunState

variable {first s s' : RunState} {label : RunLabel} {steps : List RunTransition}

/-- Only a cancellation cancels a run. -/
theorem cancelled_of_step (hstep : s.step label = some s') (hlabel : label.isCancel = false) :
    s'.cancelled = s.cancelled := by
  cases happens_of_step hstep with
  | cancel => cases hlabel
  | _ => rfl

/-- A run without a cancellation among its steps goes on. -/
theorem running_of_history (past : first.History steps s) (hfirst : first.cancelled = false)
    (hlabels : ∀ t ∈ steps, t.label.isCancel = false) : s.cancelled = false :=
  past.invariantUnder (P := fun s => s.cancelled = false) (A := fun t => t.label.isCancel = false) hfirst
    (fun _ _ _ h hstep hlabel => (cancelled_of_step hstep hlabel).trans h) hlabels

/-- **When all workers are done** nobody fetches anything any more. -/
theorem Ordered.unused (h : s.Ordered) (hdone : s.isDone = true) {cache : ResponseCache}
    (hcache : s.executor.cache = some cache) : cache.fills.slots = [] ∧ cache.fills.current = [] := by
  have hcalls : ∀ c, s.executor.call? c = none := by
    intro c
    cases hcall : s.executor.call? c with
    | none => rfl
    | some call =>
      obtain ⟨worker, hw, hstage⟩ := h.seated.worker_of_call hcall
      have hout := List.all_eq_true.mp hdone worker (List.mem_of_getElem? hw)
      simp [Worker.isDone, hstage] at hout
  have hfits : cache.fills.Fits s.executor.role := h.orderly.fits (by rw [Executor.fills?, hcache]; rfl)
  exact hfits.nothing_left fun c => Executor.role_of_none (hcalls c)

end RunState

namespace DispatchLabel

/-- The run is cancelled from outside. -/
def isCancel : DispatchLabel → Bool
  | .cancel => true
  | _ => false

/-- The deadline of the run is over. -/
def isExpire : DispatchLabel → Bool
  | .expire => true
  | _ => false

end DispatchLabel

/-- Nobody is at work on a cache. -/
def ResponseCache.Unused (shared : Option ResponseCache) : Prop :=
  ∀ cache, shared = some cache → cache.fills.slots = [] ∧ cache.fills.current = []

namespace Dispatch

variable {d d' : Dispatch} {label : RunLabel} {plan : RunPlan} {shared : Option ResponseCache} {cancelled : Bool}
  {now : Instant} {steps : List DispatchTransition} {result : RunResult}

/-! ## What ends a run early -/

/-- A run is cancelled from outside, or by its deadline, but not from within. -/
theorem isCancel_of_run (h : d.step (.run label) = some d') : label.isCancel = false := by
  obtain ⟨run, _, h⟩ := Option.bind_eq_some_iff.mp h
  obtain ⟨_, hguard, _⟩ := Option.bind_eq_some_iff.mp h
  exact Bool.eq_false_iff.mpr ((Option.guard_eq_some' _).mp hguard)

/-- Only a run with a deadline is ended by it. -/
theorem deadline_of_expire (h : d.step .expire = some d') : d.plan.deadline.isSome = true := by
  simp only [step] at h
  split at h
  next =>
    split at h
    next hdeadline => exact (Bool.and_eq_true_iff.mp hdeadline).1
    next => cases h
  next => cases h

/-- **A run has been cancelled** from outside, when it began or since. -/
def Stopped (cancelled : Bool) (steps : List DispatchTransition) : Prop :=
  cancelled = true ∨ ∃ t ∈ steps, t.label.isCancel = true

/-- **A run has been ended by its deadline.** -/
def Expired (plan : RunPlan) (steps : List DispatchTransition) : Prop :=
  plan.deadline.isSome = true ∧ ∃ t ∈ steps, t.label.isExpire = true

theorem stopped_snoc {t : DispatchTransition} (hlabel : t.label.isCancel = false) :
    Stopped cancelled (steps ++ [t]) ↔ Stopped cancelled steps := by
  refine or_congr_right ⟨?_, ?_⟩
  · rintro ⟨u, hu, hcancel⟩
    rcases List.mem_append.mp hu with hu | hu
    · exact ⟨u, hu, hcancel⟩
    · obtain rfl := List.mem_singleton.mp hu
      rw [hlabel] at hcancel
      cases hcancel
  · rintro ⟨u, hu, hcancel⟩
    exact ⟨u, List.mem_append_left _ hu, hcancel⟩

theorem stopped_of_last {t : DispatchTransition} (hlabel : t.label.isCancel = true) :
    Stopped cancelled (steps ++ [t]) :=
  .inr ⟨t, List.mem_append_right _ (List.mem_singleton_self t), hlabel⟩

theorem Stopped.snoc {t : DispatchTransition} (h : Stopped cancelled steps) : Stopped cancelled (steps ++ [t]) :=
  h.imp_right fun ⟨u, hu, hcancel⟩ => ⟨u, List.mem_append_left _ hu, hcancel⟩

theorem Expired.snoc {t : DispatchTransition} (h : Expired plan steps) : Expired plan (steps ++ [t]) :=
  ⟨h.1, h.2.imp fun _ ⟨hu, hexpire⟩ => ⟨List.mem_append_left _ hu, hexpire⟩⟩

theorem begin_cancelled : (begin plan shared cancelled now).cancelled = cancelled := by
  unfold begin
  split <;> rfl

/-- **A run knows** whether it has been cancelled from outside. -/
theorem cancelled_iff (past : (begin plan shared cancelled now).History steps d) :
    d.cancelled = true ↔ Stopped cancelled steps := by
  induction past with
  | start =>
    unfold begin
    split_ifs <;> simp [Stopped, measure]
  | step _ hstep ih =>
    cases happens_of_step hstep with
    | cancelWarmup | cancelMeasured | cancelDone => exact ⟨fun _ => stopped_of_last rfl, fun _ => rfl⟩
    | warm | measured | warmedUp | finish | expire => exact ih.trans (stopped_snoc rfl).symm

/-- The run under way has been cancelled, one way or the other, or its result says so. -/
def isShort (d : Dispatch) : Bool :=
  match d.stage with
  | .warming run | .measuring _ run => run.cancelled
  | .done result => result.cancelled

/-- A run is in its warmup. -/
def IsWarming (d : Dispatch) : Prop := ∃ run, d.stage = .warming run

/-- **What ends a run early**: a cancellation from outside, or its own deadline, which does not count
before the measured run. -/
theorem stopped_or_expired (past : (begin plan shared cancelled now).History steps d) (h : d.isShort = true) :
    Stopped cancelled steps ∨ Expired plan steps ∧ ¬d.IsWarming := by
  induction past with
  | start =>
    unfold begin at h
    split_ifs at h <;> exact .inl (.inl h)
  | @step steps d d' label before hstep ih =>
    have hstep : d.step label = some d' := hstep
    -- what has ended the run before this step still has, unless the step goes back to the warmup
    have hback : d.isShort = true → (d'.IsWarming → d.IsWarming) → Stopped cancelled (steps ++ [⟨d, label, d'⟩]) ∨
        Expired plan (steps ++ [⟨d, label, d'⟩]) ∧ ¬d'.IsWarming :=
      fun h hwarming => (ih h).imp Stopped.snoc fun ⟨hexpired, hnot⟩ => ⟨hexpired.snoc, fun h => hnot (hwarming h)⟩
    cases happens_of_step hstep with
    | @warm run _ _ hstage hrun =>
      have hrun := RunState.cancelled_of_step hrun (isCancel_of_run hstep)
      refine hback ?_ fun _ => ⟨run, hstage⟩
      rw [isShort, hstage]
      exact hrun.symm.trans h
    | measured hstage hrun =>
      have hrun := RunState.cancelled_of_step hrun (isCancel_of_run hstep)
      refine hback ?_ fun ⟨_, hwarming⟩ => by cases hwarming
      rw [isShort, hstage]
      exact hrun.symm.trans h
    | warmedUp => exact .inl ((cancelled_iff before).mp h).snoc
    | finish hstage =>
      refine hback ?_ fun ⟨_, hwarming⟩ => by cases hwarming
      rw [isShort, hstage]
      exact h
    | cancelWarmup | cancelMeasured | cancelDone => exact .inl (stopped_of_last rfl)
    | expire =>
      have hdeadline : plan.deadline.isSome = true := (plan_eq before).1 ▸ deadline_of_expire hstep
      refine .inr ⟨⟨hdeadline, _, List.mem_append_right _ (List.mem_singleton_self _), rfl⟩, ?_⟩
      rintro ⟨_, hwarming⟩
      cases hwarming

/-! ## What a run leaves behind -/

/-- The shared cache of a run that is over is the one that it was measured with, if it uses one. -/
theorem shared_of_finish {started : Instant} {run : RunState} (hstage : d.stage = .measuring started run)
    (h : d.step .proceed = some d') :
    d'.shared = if d.plan.cacheEnabled then d.shared.bind fun _ => run.executor.cache else d.shared := by
  simp only [step, hstage, Option.ite_none_right_eq_some, Option.some.injEq] at h
  obtain ⟨_, rfl⟩ := h
  rfl

/-- **What a run that is over has left behind**: its result, and the cache that it was measured with. -/
theorem left_of_done (past : (begin plan shared cancelled now).History steps d) (hdone : d.stage = .done result) :
    ∃ early started run,
      (plan.measuredRun shared early started).History (steps.filterMap DispatchTransition.measured?) run ∧
        run.isDone = true ∧ result = plan.resultOf started run ∧
        d.shared = if plan.cacheEnabled then shared.bind fun _ => run.executor.cache else shared := by
  induction past with
  | start =>
    unfold begin at hdone
    split at hdone <;> cases hdone
  | @step steps d d' label before hstep ih =>
    cases happens_of_step hstep with
    | @finish started run _ hstage hall =>
      obtain ⟨hplan, hshared | hshared⟩ := plan_eq before
      · obtain ⟨_, hover⟩ := hshared
        rw [hstage] at hover
        cases hover
      have hcourse := course before
      rw [hstage] at hcourse
      obtain _ | ⟨_, hrun⟩ := hcourse
      rw [List.filterMap_append, List.filterMap_cons_none (by simp [DispatchTransition.measured?, hstage]),
        List.filterMap_nil, List.append_nil]
      refine ⟨_, started, run, hrun, hall, ?_, ?_⟩
      · rw [← hplan]
        exact (DispatchStage.done.inj hdone).symm
      · rw [← hplan, ← hshared]
        exact shared_of_finish hstage hstep
    | cancelDone hstage =>
      rw [List.filterMap_append, List.filterMap_cons_none (by simp [DispatchTransition.measured?, hstage]),
        List.filterMap_nil, List.append_nil]
      exact ih hdone
    | warm | measured | warmedUp | cancelWarmup | cancelMeasured | expire => cases hdone

/-- **A run leaves its cache unused**, if it was given to it so. -/
theorem unused_of_history (past : (begin plan shared cancelled now).History steps d)
    (hshared : ResponseCache.Unused shared) :
    ResponseCache.Unused d.shared ∧ ∀ run, d.run? = some run → run.Ordered := by
  refine past.invariant
    (P := fun d => ResponseCache.Unused d.shared ∧ ∀ run, d.run? = some run → run.Ordered) ?_ ?_
  · unfold begin
    split_ifs
    · refine ⟨hshared, fun run hrun => ?_⟩
      obtain rfl := Option.some.inj hrun
      exact .begin rfl fun cache hcache => by cases hcache
    · refine ⟨hshared, fun run hrun => ?_⟩
      obtain rfl := Option.some.inj hrun
      exact ordered_measuredRun hshared
  · intro d label d' ⟨hunused, hordered⟩ hstep
    have hstep : d.step label = some d' := hstep
    -- a cancellation from without is a step of the run under way
    have hcancelled : ∀ run : RunState, run.Ordered → ({ run with cancelled := true } : RunState).Ordered :=
      fun run h => h.step (show run.step .cancel = some _ from rfl)
    cases happens_of_step hstep with
    | @warm run run' _ hstage hrun | @measured _ run run' _ hstage hrun =>
      refine ⟨hunused, fun run'' hrun'' => ?_⟩
      obtain rfl := Option.some.inj hrun''
      exact (hordered run (by rw [run?, hstage])).step hrun
    | warmedUp =>
      refine ⟨hunused, fun run hrun => ?_⟩
      obtain rfl := Option.some.inj hrun
      exact ordered_measuredRun hunused
    | @finish started run _ hstage hdone =>
      refine ⟨?_, fun run hrun => by cases hrun⟩
      have hrun : run.Ordered := hordered run (by rw [run?, hstage])
      rw [shared_of_finish hstage hstep]
      split_ifs
      · intro cache hcache
        obtain ⟨_, _, hcache⟩ := Option.bind_eq_some_iff.mp hcache
        exact hrun.unused hdone hcache
      · exact hunused
    | @cancelWarmup run hstage | @cancelMeasured _ run hstage | @expire _ run hstage =>
      refine ⟨hunused, fun run' hrun' => ?_⟩
      obtain rfl := Option.some.inj hrun'
      exact hcancelled run (hordered run (by rw [run?, hstage]))
    | cancelDone => exact ⟨hunused, hordered⟩

/-! ## When a run begins to measure -/

/-- **A warmup that is over** has come to its end, as long as there was one to make. -/
theorem warmup_done (past : (begin plan shared false now).History steps d) (hover : ¬d.IsWarming) :
    ∃ run, (plan.warmupRun false now).History (steps.filterMap DispatchTransition.warmed?) run ∧
      run.isDone = true := by
  induction past with
  | start =>
    unfold begin at hover
    split at hover
    next => exact absurd ⟨_, rfl⟩ hover
    next hwarmup =>
      have hnone : plan.warmup = 0 := by simpa using hwarmup
      refine ⟨_, .start, ?_⟩
      simp [RunState.isDone, RunPlan.warmupRun, RunState.begin, hnone]
  | @step steps d d' label before hstep ih =>
    cases happens_of_step hstep with
    | warm | cancelWarmup => exact absurd ⟨_, rfl⟩ hover
    | @warmedUp run hstage hdone =>
      have hcourse := course before
      rw [hstage] at hcourse
      obtain ⟨hrun, _⟩ := hcourse
      rw [List.filterMap_append, List.filterMap_cons_none (by simp [DispatchTransition.warmed?, hstage, measure]),
        List.filterMap_nil, List.append_nil]
      exact ⟨run, hrun, hdone⟩
    | measured hstage | finish hstage | cancelMeasured hstage | expire hstage | cancelDone hstage =>
      rw [List.filterMap_append, List.filterMap_cons_none (by simp [DispatchTransition.warmed?, hstage]),
        List.filterMap_nil, List.append_nil]
      refine ih ?_
      rintro ⟨_, hwarming⟩
      rw [hstage] at hwarming
      cases hwarming

/-- A warmup is cancelled from outside only. -/
theorem isCancel_of_warmed (past : (begin plan shared cancelled now).History steps d)
    (hstopped : ¬Stopped cancelled steps) {t : RunTransition} (ht : t ∈ steps.filterMap DispatchTransition.warmed?) :
    t.label.isCancel = false := by
  obtain ⟨⟨before, label, after⟩, hu, hwarmed⟩ := List.mem_filterMap.mp ht
  obtain ⟨_, _, _, hnow, _⟩ := past.split hu
  have hstep : before.step label = some after := hnow
  cases happens_of_step hstep with
  | warm hstage =>
    simp only [DispatchTransition.warmed?, hstage] at hwarmed
    obtain rfl := Option.some.inj hwarmed
    exact isCancel_of_run hstep
  | cancelWarmup => exact absurd (.inr ⟨_, hu, rfl⟩) hstopped
  | warmedUp hstage | measured hstage | finish hstage | cancelMeasured hstage | expire hstage | cancelDone hstage =>
    simp [DispatchTransition.warmed?, hstage, measure] at hwarmed

/-- **A run that is not cancelled begins to measure** when its warmup is over. One that has none begins
with an empty one that is. -/
theorem warmup_over (past : (begin plan shared false now).History steps d) (hmeasuring : ¬d.IsWarming)
    (hstopped : ¬Stopped false steps) :
    ∃ run, (plan.warmupRun false now).History (steps.filterMap DispatchTransition.warmed?) run ∧
      run.isDone = true ∧ run.cancelled = false := by
  obtain ⟨run, hrun, hdone⟩ := warmup_done past hmeasuring
  exact ⟨run, hrun, hdone, RunState.running_of_history hrun rfl fun t ht => isCancel_of_warmed past hstopped ht⟩

end Dispatch

end HttpBench
