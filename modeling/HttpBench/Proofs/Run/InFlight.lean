import Mathlib.Order.Bounds.Basic
import HttpBench.Proofs.Run.Plans
import HttpBench.Proofs.Run.Stages

/-!
# Requests in flight

Nothing in a run compares its gauge with the number of its workers. The gauge is right all the same:
a worker counts itself in once for each request and out on every way out of it, be it a sample, a
cancellation or a crash. So in every state the gauge stands at the number of workers that are inside
a request (`RunState.Gauged`), and its peak is the highest count there ever was.

To count a request in and to note the peak are two things, and workers may note their counts in
another order than they came to them. The peak is the same in every order.
-/

namespace HttpBench

namespace RunState

/-- **The workers that are counted in flight.** -/
def holders (s : RunState) : Nat := s.workers.countP Worker.isInFlight

def holds (s : RunState) (w : Nat) : Bool := s.workers[w]?.any Worker.isInFlight

/-- **The calls that the transport has.** -/
def fetching (s : RunState) : Nat := s.executor.calls.countP fun e => e.2.stage = .fetching

end RunState

namespace RunTransition

/-- The count that a worker comes to when it counts itself in. -/
def counted? (t : RunTransition) : Option Nat :=
  match t.label with
  | .take _ => some t.after.gauge.current
  | _ => none

/-- **A worker counts itself out** in a step. -/
def drops (t : RunTransition) : Bool := (RunState.worker? t.label).any fun w => t.before.holds w && !t.after.holds w

/-- **All counts there have been**, from an empty gauge on. -/
def levels (steps : List RunTransition) : List Nat := 0 :: steps.map (·.after.gauge.current)

/-- **What a step does to the gauge**, and to the workers that are counted in flight. -/
inductive GaugeChange (t : RunTransition) : Prop
  | kept (hgauge : t.after.gauge = t.before.gauge) (hholders : t.after.holders = t.before.holders)
      (hcounted : t.counted? = none) (hdrops : t.drops = false)
  | entered (hgauge : t.after.gauge = t.before.gauge.enter) (hholders : t.after.holders = t.before.holders + 1)
      (hcounted : t.counted? = some (t.before.gauge.current + 1)) (hdrops : t.drops = false)
  | left (hgauge : t.after.gauge = t.before.gauge.leave) (hholders : t.after.holders + 1 = t.before.holders)
      (hcounted : t.counted? = none)

end RunTransition

namespace RunState

variable {first s s' : RunState} {steps : List RunTransition} {label : RunLabel} {w : Nat} {worker worker' : Worker}

theorem holds_of_worker (hw : s.workers[w]? = some worker) : s.holds w = worker.isInFlight := by
  rw [holds, hw, Option.any_some]

/-! ## The gauge and the workers -/

/-- **A worker that is changed** counts as it did before, but for itself. -/
theorem holders_set (hw : s.workers[w]? = some worker) (hset : s'.workers = s.workers.set w worker') :
    s'.holds w = worker'.isInFlight ∧
      s'.holders + worker.isInFlight.toNat = s.holders + worker'.isInFlight.toNat := by
  have hlt := (List.getElem?_eq_some_iff.mp hw).1
  constructor
  · rw [holds, hset, List.getElem?_set_self hlt, Option.any_some]
  · rw [holders, holders, hset]
    exact Worker.countP_set Worker.isInFlight _ hw

theorem gaugeChange_kept (hlabel : worker? label = some w) (hw : s.workers[w]? = some worker)
    (hset : s'.workers = s.workers.set w worker') (hsame : worker'.isInFlight = worker.isInFlight)
    (hgauge : s'.gauge = s.gauge) (hcounted : RunTransition.counted? ⟨s, label, s'⟩ = none) :
    RunTransition.GaugeChange ⟨s, label, s'⟩ := by
  obtain ⟨hholds, hholders⟩ := holders_set hw hset
  refine .kept hgauge ?_ hcounted ?_
  · rw [hsame] at hholders
    exact Nat.add_right_cancel hholders
  · simp [RunTransition.drops, hlabel, holds_of_worker hw, hholds, hsame]

theorem gaugeChange_of_workers (hworkers : s'.workers = s.workers) (hgauge : s'.gauge = s.gauge)
    (hcounted : RunTransition.counted? ⟨s, label, s'⟩ = none) : RunTransition.GaugeChange ⟨s, label, s'⟩ := by
  refine .kept hgauge (by rw [holders, holders, hworkers]) hcounted ?_
  cases hlabel : worker? label <;> simp [RunTransition.drops, hlabel, holds, hworkers]

theorem gaugeChange_entered (hlabel : label = .take w) (hw : s.workers[w]? = some worker)
    (hset : s'.workers = s.workers.set w worker') (hout : worker.isInFlight = false)
    (hflight : worker'.isInFlight = true) (hgauge : s'.gauge = s.gauge.enter) :
    RunTransition.GaugeChange ⟨s, label, s'⟩ := by
  subst hlabel
  obtain ⟨_, hholders⟩ := holders_set hw hset
  rw [hout, hflight] at hholders
  refine .entered hgauge hholders ?_ ?_
  · simp [RunTransition.counted?, hgauge, Gauge.enter]
  · simp [RunTransition.drops, worker?, holds_of_worker hw, hout]

theorem gaugeChange_left (hw : s.workers[w]? = some worker) (hset : s'.workers = s.workers.set w worker')
    (hflight : worker.isInFlight = true) (hout : worker'.isInFlight = false) (hgauge : s'.gauge = s.gauge.leave)
    (hcounted : RunTransition.counted? ⟨s, label, s'⟩ = none) : RunTransition.GaugeChange ⟨s, label, s'⟩ := by
  obtain ⟨_, hholders⟩ := holders_set hw hset
  rw [hflight, hout] at hholders
  exact .left hgauge hholders hcounted

/-- **What a step does to the gauge** it does to the workers that are counted in flight. -/
theorem gaugeChange_of_step (h : s.Seated) (hstep : s.step label = some s') :
    RunTransition.GaugeChange ⟨s, label, s'⟩ := by
  cases happens_of_step hstep with
  | look hw | rest hw => exact gaugeChange_kept rfl hw rfl rfl rfl rfl
  | stop hw hidle | finish hw hidle =>
    exact gaugeChange_kept rfl hw rfl (by simp [Worker.isInFlight, hidle]) rfl rfl
  | start hw hstage => exact gaugeChange_kept rfl hw rfl (by simp [Worker.isInFlight, hstage]) rfl rfl
  | take hw hidle => exact gaugeChange_entered rfl hw rfl (by simp [Worker.isInFlight, hidle]) rfl rfl
  | quitEntered hw hstage =>
    exact gaugeChange_left hw rfl (by simp [Worker.isInFlight, hstage]) rfl rfl rfl
  | @leave _ worker ending _ hw hending =>
    obtain ⟨call, hcall, _⟩ := Executor.ending?_eq_some.mp hending
    have hstage := h.stage_of_call hw hcall
    exact gaugeChange_left hw rfl (by simp [Worker.isInFlight, hstage]) (by cases ending <;> rfl) rfl rfl
  | quitCalling | call | unlist | cancel | purge | pass => exact gaugeChange_of_workers rfl rfl rfl

/-- **The gauge of a run** after some steps. -/
structure Gauged (steps : List RunTransition) (s : RunState) : Prop where
  /-- it stands at the number of workers inside a request, the last of its counts -/
  current : s.gauge.current = s.holders
  last : (RunTransition.levels steps).getLast? = some s.gauge.current
  /-- its peak is the highest count there has been -/
  highest : IsGreatest {n | n ∈ RunTransition.levels steps} s.gauge.peak
  below : s.gauge.current ≤ s.gauge.peak
  /-- and the highest count that a worker has come to -/
  noted : (steps.filterMap RunTransition.counted?).foldl max 0 = s.gauge.peak

namespace Gauged

theorem begin {e : Executor} {target : Target} {useCache cancelled : Bool} {total concurrency : Nat} :
    Gauged [] (.begin e target useCache total concurrency cancelled) := by
  have hnobody : (RunState.begin e target useCache total concurrency cancelled).holders = 0 := by
    refine List.countP_eq_zero.mpr ?_
    intro worker hworker
    obtain ⟨v, _, rfl⟩ := List.mem_map.mp hworker
    simp [Worker.isInFlight]
  have hlevels : {n | n ∈ RunTransition.levels []} = {0} := by
    ext n
    exact List.mem_singleton
  exact ⟨hnobody.symm, rfl, hlevels ▸ isGreatest_singleton, Nat.le_refl _, rfl⟩

/-- **One step more**: what is to be shown of the new count and the new peak. -/
theorem snoc {t : RunTransition} (h : Gauged steps t.before) (hcurrent : t.after.gauge.current = t.after.holders)
    (hpeak : t.after.gauge.peak = max t.after.gauge.current t.before.gauge.peak)
    (hnoted : t.counted?.elim t.before.gauge.peak (max t.before.gauge.peak) = t.after.gauge.peak) :
    Gauged (steps ++ [t]) t.after := by
  have hlevels : RunTransition.levels (steps ++ [t]) = RunTransition.levels steps ++ [t.after.gauge.current] := by
    simp [RunTransition.levels]
  have hset : {n | n ∈ RunTransition.levels (steps ++ [t])} =
      insert t.after.gauge.current {n | n ∈ RunTransition.levels steps} := by
    ext n
    show n ∈ RunTransition.levels (steps ++ [t]) ↔ n = _ ∨ n ∈ RunTransition.levels steps
    rw [hlevels, List.mem_append, List.mem_singleton, or_comm]
  refine ⟨hcurrent, ?_, ?_, ?_, ?_⟩
  · rw [hlevels, List.getLast?_concat]
  · rw [hset, hpeak]
    exact h.highest.insert _
  · rw [hpeak]
    exact Nat.le_max_left _ _
  · rw [← hnoted, List.filterMap_append, List.foldl_append, h.noted]
    cases hcounted : t.counted? <;> simp [hcounted]

theorem step (h : Gauged steps s) (hseated : s.Seated) (hstep : s.step label = some s') :
    Gauged (steps ++ [⟨s, label, s'⟩]) s' := by
  have hcurrent := h.current
  have hbelow := h.below
  cases gaugeChange_of_step hseated hstep with
  | kept hgauge hholders hcounted =>
    refine h.snoc ?_ ?_ ?_
    · rw [hgauge, hholders]
      exact hcurrent
    · rw [hgauge]
      exact (Nat.max_eq_right hbelow).symm
    · rw [hcounted, hgauge]
      rfl
  | entered hgauge hholders hcounted =>
    refine h.snoc ?_ ?_ ?_
    · rw [hgauge, hholders, ← hcurrent]
      rfl
    · rw [hgauge]
      exact Nat.max_comm ..
    · rw [hcounted, hgauge]
      rfl
  | left hgauge hholders hcounted =>
    refine h.snoc ?_ ?_ ?_
    · rw [hgauge]
      show s.gauge.current - 1 = s'.holders
      simp only at hholders
      omega
    · rw [hgauge]
      show s.gauge.peak = max (s.gauge.current - 1) s.gauge.peak
      omega
    · rw [hcounted, hgauge]
      rfl

/-- **In every state of a run** the gauge is right. -/
theorem history (h : Gauged [] first) (hseated : first.Seated) (past : first.History steps s) : Gauged steps s :=
  past.invariantWith (P := Gauged) h fun _ _ _ _ before h hstep => h.step (hseated.history before) hstep

theorem current_le (h : Gauged steps s) : s.gauge.current ≤ s.workers.length :=
  h.current ▸ List.countP_le_length

/-- **Nobody is in flight** when all workers are done. -/
theorem current_of_isDone (h : Gauged steps s) (hdone : s.isDone = true) : s.gauge.current = 0 := by
  rw [h.current, holders, List.countP_eq_zero]
  intro worker hworker hflight
  have hd := List.all_eq_true.mp hdone worker hworker
  simp [Worker.isDone_of_isInFlight hflight] at hd

/-- **A worker that counts itself out** has been counted in. -/
theorem current_of_drops (h : Gauged steps s) (hseated : s.Seated) (hstep : s.step label = some s')
    (hdrops : RunTransition.drops ⟨s, label, s'⟩ = true) : s'.gauge.current + 1 = s.gauge.current := by
  cases gaugeChange_of_step hseated hstep with
  | kept _ _ _ hnot | entered _ _ _ hnot => simp [hdrops] at hnot
  | left hgauge hholders =>
    have hcurrent := h.current
    simp only at hholders hgauge
    rw [hgauge]
    show s.gauge.current - 1 + 1 = s.gauge.current
    omega

end Gauged

/-! ## Calls with the transport -/

/-- The workers that are counted in flight, counted by their places. -/
theorem length_filter_holds (s : RunState) : ((List.range s.workers.length).filter s.holds).length = s.holders := by
  have hplaces : (List.range s.workers.length).map (s.workers[·]?) = s.workers.map some := by
    apply List.ext_getElem?
    intro n
    by_cases hn : n < s.workers.length
    · simp [hn]
    · simp [hn]
  have hcount := congrArg (List.countP (Option.any Worker.isInFlight)) hplaces
  rw [List.countP_map, List.countP_map] at hcount
  rw [← List.countP_eq_length_filter]
  exact hcount

/-- **The transport has no more calls** than there are workers in flight. -/
theorem fetching_le_holders (h : s.Seated) (hsingle : s.executor.Single) : s.fetching ≤ s.holders := by
  rw [fetching, List.countP_eq_length_filter, ← List.length_map (·.1), ← length_filter_holds]
  -- nobody has two calls, so the calls are no more than the places of their callers
  refine (List.subperm_of_subset (hsingle.sublist (List.filter_sublist.map _)) ?_).length_le
  intro w hw
  obtain ⟨entry, hentry, rfl⟩ := List.mem_map.mp hw
  obtain ⟨worker, hworker, hstage⟩ := h.worker_of_call (hsingle.call?_of_mem (List.mem_filter.mp hentry).1)
  refine List.mem_filter.mpr ⟨List.mem_range.mpr (List.getElem?_eq_some_iff.mp hworker).1, ?_⟩
  rw [holds_of_worker hworker, Worker.isInFlight, hstage]

theorem single_history (h : first.executor.Single) (past : first.History steps s) : s.executor.Single := by
  refine past.invariant (P := fun s => s.executor.Single) h fun s label s' h hstep => ?_
  cases happens_of_step hstep with
  | quitCalling _ _ _ _ hcall | start _ _ _ hcall | call _ _ _ hcall | unlist hcall | leave _ _ hcall =>
    exact Executor.Single.step h hcall
  | _ => exact h

/-! ## The whole run -/

section whole

variable {e : Executor} {target : Target} {useCache cancelled : Bool} {total concurrency : Nat}

/-- **The gauge of a run**, in every state that it comes to. -/
theorem gauged_of_history (hcalls : e.calls = [])
    (past : (begin e target useCache total concurrency cancelled).History steps s) :
    Gauged steps s ∧ s.gauge.current ≤ concurrency ∧ s.fetching ≤ s.gauge.current := by
  have hgauged := Gauged.begin.history (.begin hcalls) past
  have hworkers : s.workers.length = concurrency := by
    rw [length_of_history past, begin, List.length_map, List.length_range]
  refine ⟨hgauged, hworkers ▸ hgauged.current_le, ?_⟩
  rw [hgauged.current]
  exact fetching_le_holders ((Seated.begin hcalls).history past) (single_history (.begin hcalls) past)

theorem current_of_mem (hcalls : e.calls = [])
    (past : (begin e target useCache total concurrency cancelled).History steps s) {t : RunTransition}
    (ht : t ∈ steps) (hdrops : t.drops = true) : t.after.gauge.current + 1 = t.before.gauge.current := by
  obtain ⟨_, _, hbefore, hnow, _, rfl⟩ := past.split ht
  obtain ⟨hgauged, _⟩ := gauged_of_history hcalls hbefore
  exact hgauged.current_of_drops ((Seated.begin hcalls).history hbefore) hnow hdrops

/-- **The peak** was the count of some state, so it is no higher than any may be. -/
theorem peak_le (hcalls : e.calls = [])
    (past : (begin e target useCache total concurrency cancelled).History steps s) :
    s.gauge.peak ≤ concurrency := by
  obtain ⟨hgauged, _⟩ := gauged_of_history hcalls past
  rcases List.mem_cons.mp hgauged.highest.1 with hzero | hpeak
  · rw [hzero]
    exact Nat.zero_le _
  · obtain ⟨t, ht, heq⟩ := List.mem_map.mp hpeak
    obtain ⟨_, _, hbefore, hnow, _, _⟩ := past.split ht
    obtain ⟨_, hle, _⟩ := gauged_of_history hcalls (hbefore.step hnow)
    rw [← heq]
    exact hle

end whole

end RunState

namespace Dispatch

variable {d : Dispatch} {plan : RunPlan} {shared : Option ResponseCache}
  {cancelled : Bool} {now : Instant} {steps : List DispatchTransition} {run : RunState}

/-- **The run under way** is one of the two, with as many workers as the plan allows it. -/
theorem run_history (past : (begin plan shared cancelled now).History steps d) (hrun : d.run? = some run) :
    ∃ e target useCache total concurrency early inner, e.calls = [] ∧ concurrency ≤ plan.concurrency ∧
      (RunState.begin e target useCache total concurrency early).History inner run := by
  have h := course past
  cases hstage : d.stage with
  | warming =>
    rw [hstage] at h
    obtain ⟨warmup, _⟩ := h
    simp only [run?, hstage, Option.some.injEq] at hrun
    exact ⟨_, _, _, _, _, _, _, rfl, Nat.min_le_left _ _, hrun ▸ warmup⟩
  | measuring =>
    rw [hstage] at h
    obtain _ | ⟨_, measured⟩ := h
    simp only [run?, hstage, Option.some.injEq] at hrun
    exact ⟨_, _, _, _, _, _, _, rfl, Nat.le_refl _, hrun ▸ measured⟩
  | done =>
    simp only [run?, hstage] at hrun
    cases hrun

/-- **Requests in flight.** In whatever order the workers get on, whenever the run is cancelled and
whatever crashes, the gauge stands at the number of workers inside a request. That is no less than the
transport has calls and no more than the workers the plan allows, and nobody counts out who is not
counted in. The peak of the result is the highest count there was, also if the workers note their
counts in another order than they came to them, and in the end the gauge is back at zero. -/
theorem inFlight_counted (past : (begin plan shared cancelled now).History steps d) :
    (∀ run, d.run? = some run →
      run.gauge.current = run.workers.countP Worker.isInFlight ∧
      run.gauge.current ≤ plan.concurrency ∧
      run.executor.calls.countP (fun e => e.2.stage = .fetching) ≤ run.gauge.current ∧
      run.gauge.current ≤ run.gauge.peak ∧
      (run.isDone = true → run.gauge.current = 0)) ∧
    (∀ t ∈ steps.filterMap DispatchTransition.inner?, t.drops = true →
      t.after.gauge.current + 1 = t.before.gauge.current) ∧
    ∀ result, d.stage = .done result →
      IsGreatest {n | n ∈ RunTransition.levels (steps.filterMap DispatchTransition.measured?)} result.peak ∧
      (∀ noted : List Nat, noted.Perm ((steps.filterMap DispatchTransition.measured?).filterMap RunTransition.counted?) →
        noted.foldl max 0 = result.peak) ∧
      result.peak ≤ plan.concurrency ∧
      (RunTransition.levels (steps.filterMap DispatchTransition.measured?)).getLast? = some 0 := by
  refine ⟨fun run hrun => ?_, fun t ht hdrops => ?_, fun result hdone => ?_⟩
  · obtain ⟨_, _, _, _, _, _, _, hcalls, hconcurrency, inner⟩ := run_history past hrun
    obtain ⟨hgauged, hle, hfetching⟩ := RunState.gauged_of_history hcalls inner
    exact ⟨hgauged.current, hle.trans hconcurrency, hfetching, hgauged.below, hgauged.current_of_isDone⟩
  · rcases DispatchTransition.warmed_or_measured ht with ht | ht
    · obtain ⟨_, hrun⟩ := warmup_history past
      exact RunState.current_of_mem rfl hrun ht hdrops
    · obtain hnone | ⟨_, _, _, hrun⟩ := measured_history past
      · rw [hnone] at ht
        cases ht
      · exact RunState.current_of_mem rfl hrun ht hdrops
  · obtain ⟨_, _, run, hrun, hall, rfl⟩ := run_of_done past hdone
    obtain ⟨hgauged, _⟩ := RunState.gauged_of_history rfl hrun
    refine ⟨hgauged.highest, ?_, RunState.peak_le rfl hrun, ?_⟩
    · intro noted hnoted
      rw [hnoted.foldl_eq]
      exact hgauged.noted
    · rw [hgauged.last, hgauged.current_of_isDone hall]

/-- Two workers are in flight at once, and one of them crashes. -/
def playCrash : List DispatchLabel :=
  let request w : List DispatchLabel :=
    [.run (.look w), .run (.take w), .run (.look w), .run (.start w)]
  request 0 ++ request 1 ++
    [.run (.call 1 .crash), .run (.leave 1), .run (.call 0 (.reply default)), .run (.leave 0), .run (.finish 0), .proceed]

theorem inFlight_counted_of_two :
    ∃ plan steps d result, ({ url := "http://a/", requests := 2, concurrency := 2 } : RunSettings).validate = .ok plan ∧
      (begin plan none false ⟨0⟩).History steps d ∧ d.stage = .done result ∧ result.peak = 2 ∧
      IsGreatest {n | n ∈ RunTransition.levels (steps.filterMap DispatchTransition.measured?)} 2 := by
  have hplay : ((({ url := "http://a/", requests := 2, concurrency := 2 } : RunSettings).validate.toOption.bind
      fun plan => (playFrom step (begin plan none false ⟨0⟩) playCrash).bind fun r => r.2.result?.map fun result =>
        result.peak == 2 && (r.1.filterMap DispatchTransition.measured?).any (·.crashes)) = some true) := by
    decide +kernel
  obtain ⟨plan, steps, d, result, hplan, past, hdone, hP⟩ := exists_of_play
    (P := fun steps result => result.peak == 2 && (steps.filterMap DispatchTransition.measured?).any (·.crashes)) hplay
  simp only [Bool.and_eq_true, beq_iff_eq] at hP
  obtain ⟨_, _, hresult⟩ := inFlight_counted past
  obtain ⟨hgreatest, _⟩ := hresult result hdone
  rw [hP.1] at hgreatest
  exact ⟨plan, steps, d, result, hplan, past, hdone, hP.1, hgreatest⟩

end Dispatch

end HttpBench
