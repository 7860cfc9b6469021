import HttpBench.Proofs.Run.Endings
import HttpBench.Proofs.Run.Plans

/-!
# What the transport gets to do

A run without a cache fetches once for each number that it hands out (`RunState.Direct.fetches_of_history`),
for none of its calls looks anything up. So where nothing crashes and nobody cancels it, a run gets as
many calls to the transport as it has requests, and a dispatched run those of its warmup besides
(`Dispatch.fetches_eq`).
-/

namespace HttpBench

namespace Executor

variable {e e' : Executor} {c : Caller} {label : CallLabel} {target : Target} {sequence : Nat}

/-- **No call looks anything up.** -/
def Direct (e : Executor) : Prop := ∀ c call, e.call? c = some call → call.stage.isCached = false

/-- A call that does without the cache goes straight to the transport. -/
theorem start_uncached (e : Executor) (c : Caller) (target : Target) (sequence : Nat) :
    e.start c target false sequence =
      e.setCall c { target, key := none, sequence, started := e.now, stage := .fetching } := rfl

namespace Direct

theorem step (h : e.Direct) (hstep : e.step c label = some e')
    (hstart : ∀ target useCache sequence, label = .start target useCache sequence → useCache = false) :
    e'.Direct := by
  have hown : ∀ call, e'.call? c = some call → call.stage.isCached = false := by
    intro call' hcall'
    cases moves_of_step hstep with
    | @start target useCache n =>
      obtain rfl := hstart _ _ _ rfl
      rw [start_uncached, call?_setCall, if_pos rfl] at hcall'
      obtain rfl := Option.some.inj hcall'
      rfl
    | ask hcall hstage | resume hcall hstage | lookUp hcall hstage | cutWaiting hcall hstage =>
      have hdirect := h _ _ hcall
      rw [hstage] at hdirect
      cases hdirect
    | reply | cutFetching | crash | unlist =>
      rw [call?_setStage, if_pos rfl] at hcall'
      obtain rfl := Option.some.inj hcall'
      rfl
    | leave | leaveLead =>
      rw [call?_dropCall, if_pos rfl] at hcall'
      cases hcall'
  intro c' call' hcall'
  by_cases hc : c' = c
  · subst hc
    exact hown call' hcall'
  · rw [step_other hstep hc] at hcall'
    exact h c' call' hcall'

/-- **The transport gets a call when it begins**, ... -/
theorem fetchesIn_start (hstep : e.step c (.start target false sequence) = some e') : e.fetchesIn c e' = true := by
  have hnone := (step_start hstep).1
  cases moves_of_step hstep with
  | start =>
    have hbefore : e.isFetching c = false := by simp [isFetching, stage?, hnone]
    have hafter : (e.start c target false sequence).isFetching c = true := by
      simp [isFetching, stage?, start_uncached]
    rw [fetchesIn, hbefore, hafter]
    rfl

/-- ... and at no other time. -/
theorem fetchesIn_other (h : e.Direct) (hstep : e.step c label = some e') (hstart : ∀ t u n, label ≠ .start t u n) :
    e.fetchesIn c e' = false := by
  cases hturn : label.isInTurn with
  | false => exact step_fetchesIn hstep hturn hstart
  | true =>
    cases moves_of_step hstep with
    | start | cutWaiting | cutFetching | unlist | leave | leaveLead => cases hturn
    | ask hcall hstage | resume hcall hstage | lookUp hcall hstage =>
      have hdirect := h _ _ hcall
      rw [hstage] at hdirect
      cases hdirect
    | reply | crash => exact fetchesIn_eq_false (by simp [isFetching, stage?])

end Direct

end Executor

/-- The worker has counted its request in, and has yet to begin its call. -/
def Worker.isEntered (w : Worker) : Bool :=
  match w.stage with
  | .entered _ => true
  | _ => false

namespace RunState

variable {first s s' : RunState} {steps : List RunTransition} {label : RunLabel} {total : Nat}

/-- The requests that are counted in and have yet to begin. -/
def entered (s : RunState) : Nat := s.workers.countP Worker.isEntered

/-- **Fetches and numbers are in step**: what is handed out waits until it is fetched. -/
def InStep (s : RunState) (label : RunLabel) (s' : RunState) : Prop :=
  (RunTransition.fetches ⟨s, label, s'⟩).toNat + s'.entered + s.nextSequence = s.entered + s'.nextSequence

/-- A step that changes one worker is in step if that worker is. -/
theorem inStep_of_set {w : Nat} {worker worker' : Worker} (hw : s.workers[w]? = some worker)
    (hset : s'.workers = s.workers.set w worker')
    (hworker : (RunTransition.fetches ⟨s, label, s'⟩).toNat + worker'.isEntered.toNat + s.nextSequence =
      worker.isEntered.toNat + s'.nextSequence) : InStep s label s' := by
  have hentered := Worker.countP_set Worker.isEntered worker' hw
  unfold InStep entered
  rw [hset]
  omega

theorem inStep_of_quiet (hworkers : s'.workers = s.workers) (hnext : s'.nextSequence = s.nextSequence)
    (hfetches : RunTransition.fetches ⟨s, label, s'⟩ = false) : InStep s label s' := by
  unfold InStep entered
  rw [hworkers, hnext, hfetches]
  exact Nat.add_right_cancel_iff.mpr (Nat.zero_add _)

/-- **A run that does without a cache.** -/
structure Direct (s : RunState) : Prop where
  useCache : s.useCache = false
  executor : s.executor.Direct

namespace Direct

theorem begin {e : Executor} {target : Target} {cancelled : Bool} {concurrency : Nat} (hcalls : e.calls = []) :
    (RunState.begin e target false total concurrency cancelled).Direct := by
  refine ⟨rfl, fun c call hcall => ?_⟩
  have hnone : e.call? c = none := by simp [Executor.call?, hcalls]
  exact absurd (hnone.symm.trans hcall) (by simp)

theorem step (h : s.Direct) (hstep : s.step label = some s') : s'.Direct := by
  refine ⟨(step_target hstep).2.1.trans h.useCache, ?_⟩
  cases happens_of_step hstep with
  | start _ _ _ hcall =>
    refine h.executor.step hcall fun _ _ _ heq => ?_
    cases heq
    exact h.useCache
  | quitCalling _ _ _ _ hcall | unlist hcall | leave _ _ hcall =>
    exact h.executor.step hcall fun _ _ _ heq => by cases heq
  | call _ _ hinner hcall =>
    refine h.executor.step hcall fun _ _ _ heq => ?_
    rw [heq] at hinner
    cases hinner
  | look | take | stop | finish | quitEntered | rest | cancel | purge | pass => exact h.executor

theorem history (h : first.Direct) (past : first.History steps s) : s.Direct :=
  past.invariant h fun _ _ _ h hstep => h.step hstep

/-- **A step fetches** for a number that has been handed out, and that waited for it. -/
theorem inStep (h : s.Direct) (hseated : s.Seated) (hstep : s.step label = some s') (hrun : s'.cancelled = false) :
    InStep s label s' := by
  -- while no call begins nothing is fetched
  have hquiet : ∀ {w : Nat} {inner : CallLabel} {e : Executor}, s.executor.step w inner = some e →
      (∀ t u n, inner ≠ .start t u n) → s.executor.fetchesIn w e = false := h.executor.fetchesIn_other
  cases happens_of_step hstep with
  | look hw | rest hw =>
    refine inStep_of_set hw rfl ?_
    simp [RunTransition.fetches, worker?, setWorker, Worker.isEntered]
  | take hw hidle =>
    refine inStep_of_set hw rfl ?_
    simp [RunTransition.fetches, worker?, setWorker, Worker.isEntered, hidle, Nat.add_comm]
  | finish hw hidle =>
    refine inStep_of_set hw rfl ?_
    simp [RunTransition.fetches, worker?, setWorker, Worker.isEntered, hidle]
  | stop _ _ _ hcancelled | quitEntered _ _ _ hcancelled | quitCalling _ _ _ hcancelled =>
    rw [show s.cancelled = false from hrun] at hcancelled
    cases hcancelled
  | start hw hstage _ hcall =>
    have hfetch := Executor.Direct.fetchesIn_start (h.useCache ▸ hcall)
    refine inStep_of_set hw rfl ?_
    simp [RunTransition.fetches, worker?, setWorker, Worker.isEntered, hstage, hfetch]
  | @call w _ inner _ _ _ hinner hcall =>
    refine inStep_of_quiet rfl rfl (hquiet hcall fun t u n heq => ?_)
    rw [heq] at hinner
    cases hinner
  | unlist hcall => exact inStep_of_quiet rfl rfl (hquiet hcall (by simp))
  | @leave w worker ending _ hw hending hcall =>
    obtain ⟨call, hown, _⟩ := Executor.ending?_eq_some.mp hending
    have hstage := hseated.stage_of_call hw hown
    have hfetch := hquiet hcall (by simp)
    refine inStep_of_set hw rfl ?_
    cases ending <;>
      simp [RunTransition.fetches, worker?, leaveRequest, setWorker, Worker.isEntered, hstage, hfetch]
  | cancel => cases hrun
  | purge | pass => exact inStep_of_quiet rfl rfl rfl

/-- **A run that is not cancelled** has fetched for all numbers but those that wait. -/
theorem fetches_of_history (h : first.Direct) (hseated : first.Seated) (hfirst : first.nextSequence = 0)
    (hnone : first.entered = 0) (past : first.History steps s) (hrun : s.cancelled = false) :
    steps.countP RunTransition.fetches + s.entered = s.nextSequence := by
  induction past with
  | start =>
    rw [hfirst, hnone]
    rfl
  | @step steps s s' label before hstep ih =>
    have hbefore : s.cancelled = false := by
      by_contra hc
      rw [step_cancelled hstep (by simpa using hc)] at hrun
      cases hrun
    have hinStep := (h.history before).inStep (hseated.history before) hstep hrun
    have hcount := ih hbefore
    unfold InStep at hinStep
    rw [List.countP_append, List.countP_singleton]
    cases hfetches : RunTransition.fetches ⟨s, label, s'⟩ <;> rw [hfetches] at hinStep <;> simp at hinStep ⊢ <;> omega

/-- When all workers are done nothing waits. -/
theorem entered_of_isDone (hdone : s.isDone = true) : s.entered = 0 := by
  refine List.countP_eq_zero.mpr fun worker hworker hentered => ?_
  have hout := List.all_eq_true.mp hdone worker hworker
  cases hstage : worker.stage <;> simp [Worker.isDone, Worker.isEntered, hstage] at hout hentered

/-- **A run that is neither cancelled nor hit by a crash** fetches once for each of its requests. -/
theorem fetches_eq {e : Executor} {target : Target} {cancelled : Bool} {concurrency : Nat} (hcalls : e.calls = [])
    (haccounted : (RunState.begin e target false total concurrency cancelled).Accounted total)
    (past : (RunState.begin e target false total concurrency cancelled).History steps s) (hdone : s.isDone = true)
    (hrun : s.cancelled = false) (hcrash : ∀ t ∈ steps, t.crashes = false) :
    steps.countP RunTransition.fetches = total := by
  have hidle : (RunState.begin e target false total concurrency cancelled).entered = 0 := by
    refine List.countP_eq_zero.mpr fun worker hworker => ?_
    obtain ⟨w, _, rfl⟩ := List.mem_map.mp hworker
    simp [Worker.isEntered]
  have hcount := (begin hcalls).fetches_of_history (.begin hcalls) rfl hidle past hrun
  have huncrashed := (Uncrashed.begin hcalls).history past hcrash
  have hnext := (haccounted.history (.begin hcalls) past).next_eq huncrashed hdone hrun
  have hnone := entered_of_isDone hdone
  omega

end Direct

end RunState

/-! ## Dispatched runs -/

namespace DispatchTransition

/-- What happens in a dispatched run happens in its warmup or in the measured run. -/
theorem countP_inner (p : RunTransition → Bool) (steps : List DispatchTransition) :
    (steps.filterMap inner?).countP p = (steps.filterMap warmed?).countP p + (steps.filterMap measured?).countP p := by
  induction steps with
  | nil => rfl
  | cons t steps ih =>
    cases hmeasured : t.measured? with
    | some r =>
      have hinner := inner?_of_measured? hmeasured
      have hwarmed : t.warmed? = none := by
        unfold measured? at hmeasured
        unfold warmed?
        split at hmeasured
        next hb _ => simp [hb]
        next => cases hmeasured
      simp only [List.filterMap_cons, hmeasured, hinner, hwarmed, List.countP_cons, ih]
      omega
    | none =>
      cases hwarmed : t.warmed? with
      | some r =>
        have hinner : t.inner? = some r := by rw [inner?, hwarmed, Option.or]
        simp only [List.filterMap_cons, hmeasured, hinner, hwarmed, List.countP_cons, ih]
        omega
      | none =>
        have hinner : t.inner? = none := by rw [inner?, hwarmed, hmeasured, Option.or]
        simp only [List.filterMap_cons, hmeasured, hinner, hwarmed, ih]

end DispatchTransition

namespace Dispatch

variable {d : Dispatch} {plan : RunPlan} {shared : Option ResponseCache} {cancelled : Bool} {now : Instant}
  {steps : List DispatchTransition} {result : RunResult}

/-- The accounts of a warmup, also when there is none to make. -/
theorem accounted_warmupRun (hplan : 0 < plan.concurrency) : (plan.warmupRun cancelled now).Accounted plan.warmup := by
  rcases Nat.eq_zero_or_pos plan.warmup with hnone | hsome
  · have hworkers : (plan.warmupRun cancelled now).workers = [] := by
      simp [RunPlan.warmupRun, RunState.begin, hnone]
    unfold RunState.Accounted
    rw [hworkers, hnone]
    exact
      { handed := rfl
        distinct := List.nodup_nil
        below := fun _ hn => by cases hn
        few := Nat.le_refl 0
        full := fun _ _ => Nat.le_refl 0
        spent := fun _ _ hw => by cases hw }
  · exact .begin (Nat.lt_min.mpr ⟨hplan, hsome⟩)

/-- **A dispatched run without a cache** that goes through to its end gets as many calls to the transport
as there are requests in its warmup and in the measured run. -/
theorem fetches_eq (hplan : 0 < plan.concurrency) (hcache : plan.cacheEnabled = false)
    (past : (begin plan shared cancelled now).History steps d) (hdone : d.stage = .done result)
    (hstopped : ¬Stopped cancelled steps) (hexpired : ¬Expired plan steps)
    (hcrash : ∀ t ∈ steps.filterMap DispatchTransition.inner?, t.crashes = false) :
    (steps.filterMap DispatchTransition.inner?).countP RunTransition.fetches = plan.warmup + plan.requests := by
  obtain rfl : cancelled = false := Bool.eq_false_iff.mpr fun h => hstopped (.inl h)
  have hrunning : result.cancelled = false := by
    by_contra hcut
    have hshort : d.isShort = true := by simpa [isShort, hdone] using hcut
    rcases stopped_or_expired past hshort with h | ⟨h, _⟩
    · exact hstopped h
    · exact hexpired h
  have hwarming : ¬d.IsWarming := by
    rintro ⟨run, hstage⟩
    rw [hdone] at hstage
    cases hstage
  obtain ⟨warmup, hwarmup, hwarmed, hwarm⟩ := warmup_over past hwarming hstopped
  obtain ⟨early, started, run, hmeasured, hall, rfl⟩ := run_of_done past hdone
  unfold RunPlan.measuredRun at hmeasured
  rw [hcache] at hmeasured
  rw [DispatchTransition.countP_inner]
  congr 1
  · exact RunState.Direct.fetches_eq rfl (accounted_warmupRun hplan) hwarmup hwarmed hwarm fun t ht =>
      hcrash t (DispatchTransition.mem_inner_of_warmed ht)
  · exact RunState.Direct.fetches_eq rfl (.begin hplan) hmeasured hall hrunning fun t ht =>
      hcrash t (DispatchTransition.mem_inner_of_measured ht)

end Dispatch

end HttpBench
