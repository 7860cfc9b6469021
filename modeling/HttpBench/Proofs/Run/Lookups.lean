import HttpBench.Proofs.Run.Balance
import HttpBench.Proofs.Run.SharedFetch
import HttpBench.Proofs.Statistics.Samples

/-!
# The counters of the cache and the samples of a run

A run knows which of its samples are from the cache, and the cache knows how often it was hit and
missed. Neither looks at the books of the other. They agree all the same, as long as nobody else uses
the cache and nothing crashes (`Dispatch.lookups_counted`): hits are the samples from the cache, and
misses the samples from the network together with the fetches that a cancellation has cut off.

While a run is under way the counters agree with what its calls have come to so far
(`RunState.Counting`). A call that waits for another one has not looked anything up, so it counts for
nothing when it is cut off; that is why a cancelled run may have fewer lookups than requests.
-/

namespace HttpBench

namespace RunState

variable {plan : RunPlan} {key : CacheKey} {hits misses : Nat} {first s s' : RunState} {label : RunLabel}
  {steps : List RunTransition}

open Executor (figureOf)

/-- **The counters of the cache**, in a run that uses it for one key. -/
structure Counting (key : CacheKey) (hits misses : Nat) (steps : List RunTransition) (s : RunState) : Prop where
  target : s.target.cacheKey = key ∧ s.useCache = true
  keys : ∀ c call, s.executor.call? c = some call → call.key = some key
  counters : ∃ cache, s.executor.cache = some cache ∧ cache.store.hits = hits + s.tally Sample.servedCount ∧
    cache.store.misses = misses + steps.countP RunTransition.fetches

/-- **What a step does to the counters.** -/
theorem counters_step {cache : ResponseCache} (hcache : s.executor.cache = some cache) (huse : s.useCache = true)
    (hkeys : ∀ c call, s.executor.call? c = some call → call.key ≠ none) (hstep : s.step label = some s') :
    ∃ cache', s'.executor.cache = some cache' ∧
      cache'.store.hits = cache.store.hits + figureOf Sample.servedCount (RunTransition.arrived? ⟨s, label, s'⟩) ∧
      cache'.store.misses = cache.store.misses + (RunTransition.fetches ⟨s, label, s'⟩).toNat := by
  have idle : ∀ w, ∃ cache', s.executor.cache = some cache' ∧
      cache'.store.hits = cache.store.hits + figureOf Sample.servedCount (s.executor.arrived? w s.executor) ∧
      cache'.store.misses = cache.store.misses + (s.executor.fetchesIn w s.executor).toNat := by
    intro w
    rw [Executor.arrived?_self, Executor.fetchesIn_self]
    exact ⟨cache, hcache, rfl, rfl⟩
  cases happens_of_step hstep with
  | look | take | stop | finish | quitEntered | rest => exact idle _
  | start _ _ _ hcall =>
    apply Executor.step_counts hcall hcache (hkeys _)
    intro t u n hlabel
    cases hlabel
    exact huse
  | call _ _ hinner hcall =>
    apply Executor.step_counts hcall hcache (hkeys _)
    intro t u n hlabel
    rw [hlabel] at hinner
    cases hinner
  | quitCalling _ _ _ _ hcall | unlist hcall | leave _ _ hcall =>
    exact Executor.step_counts hcall hcache (hkeys _) (by simp)
  | cancel | pass => exact ⟨cache, hcache, rfl, rfl⟩
  | purge =>
    refine ⟨{ cache with store := (cache.store.purge s.executor.now).1 }, ?_, rfl, rfl⟩
    show s.executor.cache.map _ = _
    rw [hcache]
    rfl

namespace Counting

/-- **Every step** keeps the counters in agreement. -/
theorem step (h : Counting key hits misses steps s) (hseated : s.Seated) (hstep : s.step label = some s') :
    Counting key hits misses (steps ++ [⟨s, label, s'⟩]) s' := by
  obtain ⟨⟨hkey, huse⟩, hkeys, cache, hcache, hhits, hmisses⟩ := h
  obtain ⟨htarget', huse', _⟩ := step_target hstep
  obtain ⟨cache', hcache', hhits', hmisses'⟩ :=
    counters_step hcache huse (fun c call hcall => by rw [hkeys c call hcall]; simp) hstep
  refine ⟨⟨by rw [htarget', hkey], by rw [huse', huse]⟩, step_keys hcache hkey huse hkeys hstep, cache', hcache', ?_, ?_⟩
  · rw [hhits', hhits, tally_step hseated hstep, Nat.add_assoc]
  · rw [hmisses', hmisses, List.countP_append, List.countP_singleton, Nat.add_assoc]
    cases RunTransition.fetches ⟨s, label, s'⟩ <;> rfl

/-- **In every state of a measured run** the counters agree with what its calls have come to. -/
theorem history {shared : Option ResponseCache} {early : Bool} {started : Instant} (hcache : plan.cacheEnabled = true)
    (past : (plan.measuredRun shared early started).History steps s) :
    Counting plan.target.cacheKey (shared.getD {}).store.hits (shared.getD {}).store.misses steps s := by
  have hseated : (plan.measuredRun shared early started).Seated := .begin rfl
  refine past.invariantWith
    (P := Counting plan.target.cacheKey (shared.getD {}).store.hits (shared.getD {}).store.misses)
    ⟨⟨rfl, hcache⟩, fun c call hcall => (by cases hcall), shared.getD {}, ?_, ?_, rfl⟩
    fun _ _ _ _ before h hstep => h.step (hseated.history before) hstep
  · simp [RunPlan.measuredRun, RunState.begin, hcache]
  · have hnone : (plan.measuredRun shared early started).tally Sample.servedCount = 0 := tally_begin rfl
    rw [hnone]
    rfl

/-- **The counters of a run without crashes** when all of its workers are done. -/
theorem counters_of_isDone {e : Executor} {target : Target} {useCache cancelled : Bool} {total concurrency : Nat}
    (h : Counting key hits misses steps s) (hcalls : e.calls = [])
    (past : (RunState.begin e target useCache total concurrency cancelled).History steps s) (hdone : s.isDone = true)
    (hcrash : ∀ t ∈ steps, t.crashes = false) :
    ∃ cache, s.executor.cache = some cache ∧
      cache.store.hits = hits + s.samples.countP (·.fromCache) ∧
      cache.store.misses =
        misses + s.samples.countP (!·.fromCache) + steps.countP RunTransition.abandons ∧
      cache.store.hits + cache.store.misses + steps.countP RunTransition.forgoes = hits + misses + s.nextSequence := by
  have hseated := (Seated.begin hcalls).history past
  have hperm := samples_perm_of_uncrashed ((Uncrashed.begin hcalls).history past hcrash) hdone
  have hserved : s.tally Sample.servedCount = s.samples.countP (·.fromCache) := by
    rw [tally_of_isDone hseated hdone, Sample.sum_servedCount, hperm.countP_eq]
  have hnetwork : s.tally Sample.networkCount = s.samples.countP (!·.fromCache) := by
    rw [tally_of_isDone hseated hdone, Sample.sum_networkCount, hperm.countP_eq]
  have hnobody : steps.countP RunTransition.crashes = 0 :=
    List.countP_eq_zero.mpr fun t ht => by rw [hcrash t ht]; simp
  obtain ⟨hcoming, hunderway⟩ := settled_of_isDone hseated hdone
  obtain ⟨handed, fetched⟩ := Balanced.history hcalls past
  obtain ⟨cache, hcache, hhits, hmisses⟩ := h.counters
  rw [hcoming, hserved] at handed
  rw [hunderway, hnetwork, hnobody] at fetched
  rw [hserved] at hhits
  exact ⟨cache, hcache, hhits, by omega, by omega⟩

end Counting

end RunState

/-- The cache hits of statistics are the samples from the cache. -/
theorem RunStatistics.cacheHits_of_ofSamples {R : Type} [Number.Scalar R] {samples : List Sample} {elapsed : Duration}
    {statistics : RunStatistics R} (h : ofSamples samples elapsed = .ok statistics) :
    statistics.cacheHits = samples.countP (·.fromCache) :=
  (of_ofSamples h).2.cacheHits

namespace Dispatch

variable {settings : RunSettings} {d : Dispatch} {plan : RunPlan} {shared : Option ResponseCache}
  {cancelled : Bool} {now : Instant} {result : RunResult} {steps : List DispatchTransition}

/-- **The counters of the cache and the samples agree.** Let a run use a cache that nobody else uses
meanwhile, and let nothing crash. In whatever order the workers get on and whenever the run is
cancelled, the cache is hit once for each sample from the cache, which is what the statistics call
cache hits, and missed once for each sample from the network and for each fetch that was cut off.
Together that is no more than there are requests, and just as many if the run is not cancelled. The
cache that is shared afterwards has these counters. -/
theorem lookups_counted (hplan : settings.validate = .ok plan) (hcache : plan.cacheEnabled = true)
    (past : (begin plan shared cancelled now).History steps d) (hdone : d.stage = .done result)
    (hcrash : ∀ t ∈ steps.filterMap DispatchTransition.measured?, t.crashes = false) :
    ∃ counts, result.cacheCounts = some counts ∧
      (∀ cache, shared = some cache → ∃ cache', d.shared = some cache' ∧ cache'.store.counts = counts) ∧
      counts.hits = (shared.getD {}).store.hits + result.samples.countP (·.fromCache) ∧
      (∀ (R : Type) [Number.Scalar R] (statistics : RunStatistics R),
        RunStatistics.ofSamples result.samples result.elapsed = .ok statistics →
          counts.hits = (shared.getD {}).store.hits + statistics.cacheHits) ∧
      counts.misses = (shared.getD {}).store.misses + result.samples.countP (!·.fromCache) +
        (steps.filterMap DispatchTransition.measured?).countP RunTransition.abandons ∧
      counts.hits + counts.misses ≤ (shared.getD {}).store.hits + (shared.getD {}).store.misses + plan.requests ∧
      (result.cancelled = false →
        counts.hits + counts.misses =
          (shared.getD {}).store.hits + (shared.getD {}).store.misses + plan.requests) := by
  obtain ⟨early, started, run, hrun, hall, rfl, hshared⟩ := left_of_done past hdone
  have haccounted := accounted_measured hplan hrun
  have huncrashed := uncrashed_measuredRun.history hrun hcrash
  obtain ⟨cache, hthere, hhits, hmisses, hboth⟩ :=
    (RunState.Counting.history hcache hrun).counters_of_isDone rfl hrun hall hcrash
  have hnext := haccounted.next_le
  refine ⟨cache.store.counts, ?_, ?_, hhits, ?_, hmisses, ?_, ?_⟩
  · show run.executor.cache.map _ = _
    rw [hthere]
    rfl
  · intro cache' hsome
    refine ⟨cache, ?_, rfl⟩
    rw [hshared, if_pos hcache, hsome, Option.bind_some, hthere]
  · intro R _ statistics hstatistics
    rw [RunStatistics.cacheHits_of_ofSamples hstatistics]
    exact hhits
  · show cache.store.hits + cache.store.misses ≤ _
    omega
  · intro hrunning
    have hwhole := haccounted.next_eq huncrashed hall hrunning
    have hnone := RunState.forgoes_eq_zero hrun hrunning
    show cache.store.hits + cache.store.misses = _
    omega

/-- Two workers fetch and wait twice. The first time the answer serves both, the second time it has
expired and the run is cancelled: one fetch is cut off, and one call that waits for it. -/
def playLookups : List DispatchLabel :=
  let enter w : List DispatchLabel := [.run (.look w), .run (.take w), .run (.look w), .run (.start w)]
  let lead : List DispatchLabel := enter 0 ++ [.run (.call 0 .lookUp), .run (.rest 0)]
  let follow : List DispatchLabel := enter 1 ++ [.run (.call 1 .ask), .run (.rest 1)]
  let answer : Exchange :=
    { phases := {}, total := ⟨0⟩, result := .ok { status := 200, headers := [], body := [], protocol := "HTTP/1.1" } }
  let serve : List DispatchLabel := [.run (.look 0), .run (.call 0 (.reply answer)), .run (.unlist 0), .run (.leave 0),
    .run (.look 1), .run (.call 1 .resume), .run (.call 1 .lookUp), .run (.leave 1), .run (.pass (.seconds 300))]
  let abandon : List DispatchLabel := [.cancel, .run (.quit 0), .run (.unlist 0), .run (.leave 0), .run (.quit 1),
    .run (.leave 1), .proceed]
  lead ++ follow ++ serve ++ lead ++ follow ++ abandon

/-- One hit and two misses, one fetch cut off, and nothing crashes. -/
def showsLookups (steps : List DispatchTransition) (result : RunResult) : Bool :=
  result.cacheCounts.any (fun k => k.hits == 1 && k.misses == 2) &&
    (steps.filterMap DispatchTransition.measured?).countP RunTransition.abandons == 1 &&
    (steps.filterMap DispatchTransition.measured?).all (!·.crashes)

theorem lookups_counted_of_four :
    ∃ plan steps d result,
      ({ url := "http://a/", requests := 4, concurrency := 2, cacheEnabled := true } : RunSettings).validate = .ok plan ∧
      (begin plan (some {}) false ⟨0⟩).History steps d ∧ d.stage = .done result ∧
      (steps.filterMap DispatchTransition.measured?).countP RunTransition.abandons = 1 ∧
      (∃ counts, result.cacheCounts = some counts ∧ counts.hits = 1 ∧ counts.misses = 2) ∧
      result.samples.countP (·.fromCache) = 1 ∧ result.samples.countP (!·.fromCache) = 1 := by
  have hplay : ((({ url := "http://a/", requests := 4, concurrency := 2, cacheEnabled := true } :
      RunSettings).validate.toOption.bind fun plan => (playFrom step (begin plan (some {}) false ⟨0⟩) playLookups).bind
        fun r => r.2.result?.map (showsLookups r.1)) = some true) := by
    decide +kernel
  obtain ⟨plan, steps, d, result, hplan, past, hdone, hshown⟩ := exists_of_play hplay
  simp only [showsLookups, Bool.and_eq_true, beq_iff_eq, List.all_eq_true, Bool.not_eq_true'] at hshown
  obtain ⟨⟨hfigures, habandons⟩, hcrash⟩ := hshown
  have hcache : plan.cacheEnabled = true := congrArg RunOptions.cacheEnabled (RunSettings.sound_of_validate hplan).1
  obtain ⟨counts, hcounts, _, hhits, _, hmisses, _⟩ := lookups_counted hplan hcache past hdone hcrash
  obtain ⟨hone, htwo⟩ : counts.hits = 1 ∧ counts.misses = 2 := by simpa [hcounts] using hfigures
  have hhits : counts.hits = 0 + result.samples.countP (·.fromCache) := hhits
  have hmisses : counts.misses = 0 + result.samples.countP (!·.fromCache) + 1 := habandons ▸ hmisses
  exact ⟨plan, steps, d, result, hplan, past, hdone, habandons, ⟨counts, hcounts, hone, htwo⟩, by omega, by omega⟩

end Dispatch

end HttpBench
