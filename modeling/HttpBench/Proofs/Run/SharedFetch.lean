import HttpBench.Proofs.Executor.OneFill
import HttpBench.Proofs.Run.Results
import HttpBench.Proofs.Run.Tally

/-!
# One fetch serves the run

A run with the cache asks for one key only. If the cache is empty and nobody else is at work on it,
every answer may be stored and lives longer than the run, nothing crashes and nobody cancels, then
the transport gets one call, and all requests but that one are served from the cache
(`Dispatch.shared_fetch`), in whatever order the workers get on.
-/

namespace HttpBench

namespace Sample

/-- The samples from the network, counted one by one. -/
theorem sum_networkCount (samples : List Sample) :
    (samples.map networkCount).sum = samples.countP (!·.fromCache) := by
  induction samples with
  | nil => rfl
  | cons x samples ih =>
    rw [List.map_cons, List.sum_cons, ih, List.countP_cons, Nat.add_comm]
    cases hx : x.fromCache <;> simp [networkCount, hx]

/-- The samples from the cache, counted one by one. -/
theorem sum_servedCount (samples : List Sample) :
    (samples.map servedCount).sum = samples.countP (·.fromCache) := by
  induction samples with
  | nil => rfl
  | cons x samples ih =>
    rw [List.map_cons, List.sum_cons, ih, List.countP_cons, Nat.add_comm]
    rfl

/-- Every sample is from the network or from the cache. -/
theorem sum_counts (samples : List Sample) :
    (samples.map networkCount).sum + (samples.map servedCount).sum = samples.length := by
  have hlength := samples.length_eq_countP_add_countP (·.fromCache)
  simp only [decide_not, Bool.decide_eq_true] at hlength
  rw [sum_networkCount, sum_servedCount]
  omega

end Sample

/-- **An answer that comes in a step** is a success under a policy, so that it is stored. -/
def RunTransition.succeeds (policy : StatusPolicy) (t : RunTransition) : Bool :=
  match t.label with
  | .call _ (.reply x) =>
    match x.result with
    | .ok r => !policy.isFailure r.status
    | .error _ => false
  | _ => true

namespace RunState

variable {plan : RunPlan} {started : Instant} {hits misses : Nat} {first s s' : RunState} {label : RunLabel}
  {steps : List RunTransition}

/-- **A step without mishaps**: the run goes on, nothing crashes, every answer may be stored, and what
is stored from the beginning on still lives. -/
structure Calm (plan : RunPlan) (started : Instant) (t : RunTransition) : Prop where
  running : t.before.cancelled = false
  sound : t.crashes = false
  success : t.succeeds plan.policy = true
  live : (t.before.now.since started).nanos < plan.cacheTtl.nanos

/-- **A run that shares one fetch**, with the counts of its steps and samples. -/
structure Sharing (plan : RunPlan) (started : Instant) (hits misses : Nat) (steps : List RunTransition)
    (s : RunState) : Prop where
  ordered : s.Ordered
  target : s.target = plan.target ∧ s.useCache = true ∧ s.executor.settings = plan.executorSettings
  keys : ∀ c call, s.executor.call? c = some call → call.key = some plan.target.cacheKey
  began : started.nanos ≤ s.now.nanos
  fill : Executor.OneFill plan.target.cacheKey started hits misses s.executor (steps.countP RunTransition.fetches)
    (s.tally Sample.networkCount) (s.tally Sample.servedCount)

/-- **The calls of a run keep their keys**, and new ones get that of its target. -/
theorem step_keys {key : CacheKey} {cache : ResponseCache} (hcache : s.executor.cache = some cache)
    (hkey : s.target.cacheKey = key) (huse : s.useCache = true)
    (hkeys : ∀ c call, s.executor.call? c = some call → call.key = some key) (hstep : s.step label = some s') :
    ∀ c call, s'.executor.call? c = some call → call.key = some key := by
  cases happens_of_step hstep with
  | start _ _ _ hcall =>
    refine Executor.step_keys hcall hcache (fun target useCache n hlabel => ?_) hkeys
    cases hlabel
    exact ⟨hkey, huse⟩
  | call _ _ hinner hcall =>
    refine Executor.step_keys hcall hcache (fun target useCache n hlabel => ?_) hkeys
    rw [hlabel] at hinner
    cases hinner
  | quitCalling _ _ _ _ hcall | unlist hcall | leave _ _ hcall =>
    exact Executor.step_keys hcall hcache (by simp) hkeys
  | _ => exact hkeys

namespace Sharing

/-- **A step without mishaps** keeps to the one fetch. -/
theorem step_fill (h : Sharing plan started hits misses steps s) (hstep : s.step label = some s')
    (hcalm : Calm plan started ⟨s, label, s'⟩) :
    Executor.OneFill plan.target.cacheKey started hits misses s'.executor
      (steps.countP RunTransition.fetches + if RunTransition.fetches ⟨s, label, s'⟩ then 1 else 0)
      (s.tally Sample.networkCount + Executor.figureOf Sample.networkCount (RunTransition.arrived? ⟨s, label, s'⟩))
      (s.tally Sample.servedCount + Executor.figureOf Sample.servedCount (RunTransition.arrived? ⟨s, label, s'⟩)) := by
  obtain ⟨htarget, huse, hsettings⟩ := h.target
  have hlive : (s.executor.now.since started).nanos < s.executor.settings.cacheTtl.nanos := hsettings ▸ hcalm.live
  have orderly := h.ordered.orderly
  -- what is no step of a call leaves the executor as it is
  have same : ∀ w, Executor.OneFill plan.target.cacheKey started hits misses s.executor
      (steps.countP RunTransition.fetches + if s.executor.fetchesIn w s.executor then 1 else 0)
      (s.tally Sample.networkCount + Executor.figureOf Sample.networkCount (s.executor.arrived? w s.executor))
      (s.tally Sample.servedCount + Executor.figureOf Sample.servedCount (s.executor.arrived? w s.executor)) := by
    intro w
    rw [Executor.fetchesIn_self, Executor.arrived?_self]
    exact h.fill
  cases happens_of_step hstep with
  | look | take | stop | finish | quitEntered | rest => exact same _
  | quitCalling _ _ _ hcancelled =>
    have hrunning : s.cancelled = false := hcalm.running
    rw [hcancelled] at hrunning
    cases hrunning
  | start _ _ _ hcall =>
    refine h.fill.step orderly h.keys hcall ?_ (by simp) (by simp) (by simp) h.began hlive
    intro target useCache n hlabel
    cases hlabel
    exact ⟨by rw [htarget], huse⟩
  | @call w _ inner _ _ _ hinner hcall =>
    refine h.fill.step orderly h.keys hcall ?_ ?_ ?_ ?_ h.began hlive
    · intro target useCache n hlabel
      rw [hlabel] at hinner
      cases hinner
    · intro x hlabel
      have hsuccess := hcalm.success
      rw [hsettings]
      simp only [RunTransition.succeeds, hlabel] at hsuccess
      split at hsuccess
      next r hr => exact ⟨r, hr, Bool.not_eq_true' _ ▸ hsuccess⟩
      next => cases hsuccess
    · rintro rfl
      cases hinner
    · rintro rfl
      have hsound := hcalm.sound
      cases hsound
  | unlist hcall | leave _ _ hcall =>
    exact h.fill.step orderly h.keys hcall (by simp) (by simp) (by simp) (by simp) h.began hlive
  | cancel => exact h.fill
  | purge => exact h.fill.purge hlive
  | pass => exact h.fill.pass _

/-- **A step without mishaps** keeps the run sharing one fetch. -/
theorem step (h : Sharing plan started hits misses steps s) (hstep : s.step label = some s')
    (hcalm : Calm plan started ⟨s, label, s'⟩) :
    Sharing plan started hits misses (steps ++ [⟨s, label, s'⟩]) s' := by
  obtain ⟨htarget, huse, hsettings⟩ := step_target hstep
  obtain ⟨htarget', huse', hsettings'⟩ := h.target
  obtain ⟨cache, hcache⟩ := h.fill.exists_cache
  refine ⟨h.ordered.step hstep, ⟨htarget.trans htarget', huse.trans huse', hsettings.trans hsettings'⟩,
    step_keys hcache (by rw [htarget']) huse' h.keys hstep, Nat.le_trans h.began (step_now hstep), ?_⟩
  rw [List.countP_append, List.countP_singleton, tally_step h.ordered.seated hstep, tally_step h.ordered.seated hstep]
  exact h.step_fill hstep hcalm

/-- **As long as there are no mishaps** the run shares one fetch. -/
theorem history (h : Sharing plan started hits misses [] first) (past : first.History steps s)
    (hcalm : ∀ t ∈ steps, Calm plan started t) : Sharing plan started hits misses steps s := by
  refine past.invariantWith (P := fun steps s => (∀ t ∈ steps, Calm plan started t) →
    Sharing plan started hits misses steps s) (fun _ => h) (fun steps s label s' _ ih hstep hall => ?_) hcalm
  exact (ih fun t ht => hall t (List.mem_append_left _ ht)).step hstep (hall _ (by simp))

/-- A measured run over an empty cache begins so. -/
theorem begin {shared : Option ResponseCache} {early : Bool} (hcache : plan.cacheEnabled = true)
    (hentries : (shared.getD {}).store.entries = [])
    (hfills : (shared.getD {}).fills.slots = [] ∧ (shared.getD {}).fills.current = []) :
    Sharing plan started (shared.getD {}).store.hits (shared.getD {}).store.misses []
      (plan.measuredRun shared early started) := by
  have hthere : (plan.measuredRun shared early started).executor.cache = some (shared.getD {}) := by
    simp [RunPlan.measuredRun, RunState.begin, hcache]
  have hnone : ∀ f, (plan.measuredRun shared early started).tally f = 0 := fun f => tally_begin rfl
  refine ⟨.begin rfl ?_, ⟨rfl, hcache, rfl⟩, fun c call h => (by cases h), Nat.le_refl _, ?_⟩
  · intro cache h
    obtain rfl : shared.getD {} = cache := by simpa [hcache] using h
    exact hfills
  · rw [hnone, hnone]
    exact .untouched hthere (fun c => rfl) hentries rfl rfl

/-- **The counts of a run that has shared one fetch**, when all of its workers are done. -/
theorem counts_of_isDone (h : Sharing plan started hits misses steps s) (hdone : s.isDone = true)
    (huncrashed : s.Uncrashed) {n : Nat} (hn : s.samples.length = n + 1) :
    steps.countP RunTransition.fetches = 1 ∧ s.samples.countP (·.fromCache) = n ∧
      ∃ cache, s.executor.cache = some cache ∧ cache.store.hits = hits + n ∧ cache.store.misses = misses + 1 := by
  have hperm := samples_perm_of_uncrashed huncrashed hdone
  have hserved : s.tally Sample.servedCount = s.samples.countP (·.fromCache) := by
    rw [tally_of_isDone h.ordered.seated hdone, Sample.sum_servedCount, hperm.countP_eq]
  have hall : s.tally Sample.networkCount + s.tally Sample.servedCount = n + 1 := by
    rw [tally_of_isDone h.ordered.seated hdone, tally_of_isDone h.ordered.seated hdone, Sample.sum_counts,
      ← hperm.length_eq, hn]
  have hfill := h.fill
  generalize steps.countP RunTransition.fetches = fetches at hfill ⊢
  generalize s.tally Sample.networkCount = network at hfill hall
  generalize s.tally Sample.servedCount = served at hfill hall hserved
  cases hfill with
  | untouched => omega
  | led leader lead _ hleader =>
    obtain ⟨worker, hw, hstage⟩ := h.ordered.seated.worker_of_call hleader
    have hd := List.all_eq_true.mp hdone worker (List.mem_of_getElem? hw)
    simp [Worker.isDone, hstage] at hd
  | filled hfilled =>
    obtain rfl : served = n := by omega
    exact ⟨rfl, hserved.symm, _, hfilled.there, hfilled.hits, hfilled.misses⟩

end Sharing

end RunState

namespace Dispatch

variable {settings : RunSettings} {d : Dispatch} {plan : RunPlan} {shared : Option ResponseCache}
  {cancelled : Bool} {now : Instant} {result : RunResult} {steps : List DispatchTransition}

/-- **One fetch serves the run.** Let a run use a cache that is empty, and that nobody else is at work
on. If every answer may be stored, everything stored lives longer than the run takes, nothing crashes
and nobody cancels, then one call of the measured run gets to the transport, all samples but one are
served from the cache, and so the cache has counted. -/
theorem shared_fetch (hplan : settings.validate = .ok plan) (hcache : plan.cacheEnabled = true)
    (hentries : (shared.getD {}).store.entries = [])
    (hfills : (shared.getD {}).fills.slots = [] ∧ (shared.getD {}).fills.current = [])
    (past : (begin plan shared cancelled now).History steps d) (hdone : d.stage = .done result)
    (hsuccess : ∀ t ∈ steps.filterMap DispatchTransition.measured?, t.succeeds plan.policy = true)
    (hcrash : ∀ t ∈ steps.filterMap DispatchTransition.measured?, t.crashes = false)
    (hrunning : result.cancelled = false) (hlive : result.elapsed.nanos < plan.cacheTtl.nanos) :
    (steps.filterMap DispatchTransition.measured?).countP RunTransition.fetches = 1 ∧
      result.samples.countP (·.fromCache) = plan.requests - 1 ∧
      ∃ counts, result.cacheCounts = some counts ∧
        counts.hits = (shared.getD {}).store.hits + (plan.requests - 1) ∧
        counts.misses = (shared.getD {}).store.misses + 1 := by
  obtain ⟨early, started, run, hrun, hall, rfl⟩ := run_of_done past hdone
  have hcalm : ∀ t ∈ steps.filterMap DispatchTransition.measured?, RunState.Calm plan started t := by
    intro t ht
    refine ⟨?_, hcrash t ht, hsuccess t ht, ?_⟩
    · cases hc : t.before.cancelled with
      | false => rfl
      | true =>
        obtain ⟨_, _, _, hnow, _⟩ := hrun.split ht
        have hend : run.cancelled = true := RunState.cancelled_of_history hrun ht (RunState.step_cancelled hnow hc)
        exact hend.symm.trans hrunning
    · have htime := RunState.now_le_of_history hrun ht
      have helapsed : (run.now.since started).nanos < plan.cacheTtl.nanos := hlive
      simp only [Instant.since] at helapsed ⊢
      omega
  have huncrashed := uncrashed_measuredRun.history hrun hcrash
  have hsharing := (RunState.Sharing.begin hcache hentries hfills).history hrun hcalm
  obtain ⟨hrange, hnone⟩ := whole_of_running (accounted_measured hplan hrun) huncrashed hall hrunning
  have hsound := (RunSettings.sound_of_validate hplan).2
  have hcount : run.samples.length = plan.requests := by
    simpa using congrArg List.length hrange
  have hpositive : 0 < plan.requests := Nat.lt_of_lt_of_le hsound.concurrency hsound.share
  obtain ⟨hfetch, hserved, cache, hthere, hhits, hmisses⟩ :=
    hsharing.counts_of_isDone hall huncrashed (n := plan.requests - 1) (by omega)
  refine ⟨hfetch, hserved, cache.store.counts, ?_, hhits, hmisses⟩
  show run.executor.cache.map _ = _
  rw [hthere]
  rfl

/-- Two workers with three requests: the first fetches while the second waits, and the third request
finds the entry. -/
def playShared : List DispatchLabel :=
  let enter w : List DispatchLabel := [.run (.look w), .run (.take w), .run (.look w), .run (.start w)]
  let answer : Exchange :=
    { phases := {}, total := ⟨0⟩, result := .ok { status := 200, headers := [], body := [], protocol := "HTTP/1.1" } }
  enter 0 ++ [.run (.call 0 .lookUp), .run (.rest 0)] ++
    enter 1 ++ [.run (.call 1 .ask), .run (.rest 1)] ++
    [.run (.look 0), .run (.call 0 (.reply answer)), .run (.unlist 0), .run (.leave 0)] ++
    [.run (.look 1), .run (.call 1 .resume), .run (.call 1 .lookUp), .run (.leave 1), .run (.finish 1)] ++
    enter 0 ++ [.run (.call 0 .lookUp), .run (.unlist 0), .run (.leave 0), .run (.finish 0), .proceed]

theorem shared_fetch_of_three :
    ∃ plan steps d result,
      ({ url := "http://a/", requests := 3, concurrency := 2, cacheEnabled := true } : RunSettings).validate = .ok plan ∧
      (begin plan none false ⟨0⟩).History steps d ∧ d.stage = .done result ∧
      (steps.filterMap DispatchTransition.measured?).countP RunTransition.fetches = 1 ∧
      result.samples.countP (·.fromCache) = 2 ∧
      ∃ counts, result.cacheCounts = some counts ∧ counts.hits = 2 ∧ counts.misses = 1 := by
  have hplay : ((({ url := "http://a/", requests := 3, concurrency := 2, cacheEnabled := true } :
      RunSettings).validate.toOption.bind fun plan => (playFrom step (begin plan none false ⟨0⟩) playShared).bind
        fun r => r.2.result?.map fun result => !result.cancelled && result.elapsed.nanos == 0 &&
          (r.1.filterMap DispatchTransition.measured?).all fun t => !t.crashes && t.succeeds .non2xx) = some true) := by
    decide +kernel
  obtain ⟨plan, steps, d, result, hplan, past, hdone, hP⟩ := exists_of_play
    (P := fun steps result => !result.cancelled && result.elapsed.nanos == 0 &&
      (steps.filterMap DispatchTransition.measured?).all fun t => !t.crashes && t.succeeds .non2xx) hplay
  simp only [Bool.and_eq_true, Bool.not_eq_true', List.all_eq_true, beq_iff_eq] at hP
  obtain ⟨⟨hrunning, helapsed⟩, hall⟩ := hP
  have hsame := (RunSettings.sound_of_validate hplan).1
  have hcache : plan.cacheEnabled = true := congrArg RunOptions.cacheEnabled hsame
  have hpolicy : plan.policy = .non2xx := congrArg RunOptions.policy hsame
  have hrequests : plan.requests = 3 := congrArg RunOptions.requests hsame
  have httl : plan.cacheTtl = .seconds 300 := congrArg RunOptions.cacheTtl hsame
  have hshared := shared_fetch hplan hcache rfl ⟨rfl, rfl⟩ past hdone (fun t ht => hpolicy ▸ (hall t ht).2)
    (fun t ht => (hall t ht).1) hrunning (by rw [helapsed, httl]; decide)
  rw [hrequests] at hshared
  exact ⟨plan, steps, d, result, hplan, past, hdone, hshared⟩

end Dispatch

end HttpBench
