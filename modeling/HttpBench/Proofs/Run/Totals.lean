import HttpBench.Proofs.Executor.Clocks
import HttpBench.Proofs.Run.Results
import HttpBench.Proofs.Run.Tally
import HttpBench.Proofs.Statistics.Summaries

/-!
# How long the samples of a run took

Every worker makes one request after the other, so what its samples say that they took fits into the time
that the run has taken (`RunState.Fitting`): that of a sample from the cache, which is how long its caller
waited, and that of one from the transport, if the transport says of no answer that it took longer than the
call of it (`RunState.Timely`). All workers together have the time of the run once each, so the samples of a
run took no longer than its concurrency times its elapsed time (`Dispatch.totals_le_elapsed`). Among the
rationals that is a law of the reported figures: the rate of responses times their mean latency is at most
the concurrency.

Nothing is asked of the order in which the workers get on, nor of cancellations and crashes. They leave
samples out, which can only make the sum smaller.
-/

namespace HttpBench

open Executor (figureOf)

/-- When the transport got the call of a worker, if it did so in this step. -/
def RunTransition.fetchTime? (w : Nat) (t : RunTransition) : Option Instant :=
  if RunState.worker? t.label = some w ∧ t.before.executor.fetchesIn w t.after.executor = true then some t.before.now
  else none

namespace RunState

variable {first s s' : RunState} {label : RunLabel} {steps : List RunTransition} {w : Nat} {started : Instant}

/-- When the transport got a call of a worker last. -/
def lastFetch? (steps : List RunTransition) (w : Nat) : Option Instant :=
  (steps.filterMap (RunTransition.fetchTime? w)).getLast?

/-- The answer in a step, if there is one, does not say that it took longer than the transport has had the
call by the steps before. -/
def isTimely (past : List RunTransition) (t : RunTransition) : Bool :=
  match t.label with
  | .call w (.reply answer) =>
    (lastFetch? past w).all fun since => answer.total.nanos ≤ (t.before.now.since since).nanos
  | _ => true

/-- **No answer says that it took longer** than the call of the transport. -/
def Timely (steps : List RunTransition) : Prop :=
  ∀ past t rest, steps = past ++ t :: rest → isTimely past t = true

instance : Decidable (Timely steps) := inferInstanceAs (Decidable (Throughout isTimely steps))

/-- **What every worker has spent fits** into the time since the run was started. -/
def Fitting (started : Instant) (steps : List RunTransition) (s : RunState) : Prop :=
  ∀ w, s.executor.Fits w (started.nanos + s.tallyOf (·.total.nanos) w) (lastFetch? steps w)

theorem Timely.of_append {later : List RunTransition} (h : Timely (steps ++ later)) : Timely steps :=
  Throughout.of_append h

theorem lastFetch?_concat (steps : List RunTransition) (t : RunTransition) (w : Nat) :
    lastFetch? (steps ++ [t]) w = (t.fetchTime? w).or (lastFetch? steps w) := by
  cases h : t.fetchTime? w <;> simp [lastFetch?, List.filterMap_append, h]

/-- A step of a worker is noted if the transport gets its call. -/
theorem lastFetch?_own (hw : worker? label = some w) :
    lastFetch? (steps ++ [⟨s, label, s'⟩]) w = s.executor.noteFetch w s'.executor (lastFetch? steps w) := by
  rw [lastFetch?_concat, RunTransition.fetchTime?, Executor.noteFetch]
  cases hfetches : s.executor.fetchesIn w s'.executor <;> simp [hw, now]

theorem lastFetch?_others (hw : worker? label ≠ some w) :
    lastFetch? (steps ++ [⟨s, label, s'⟩]) w = lastFetch? steps w := by
  rw [lastFetch?_concat, RunTransition.fetchTime?, if_neg fun h => hw h.1, Option.none_or]

/-- **A step of a worker** is one of its call, or leaves the calls alone. -/
theorem fits_own {spent : Nat} {noted : Option Instant} (h : s.executor.Fits w spent noted)
    (hstep : s.step label = some s') (hw : worker? label = some w)
    (htimely : ∀ answer since, label = .call w (.reply answer) → noted = some since →
      answer.total.nanos ≤ (s.now.since since).nanos) :
    s'.executor.Fits w (spent + figureOf (·.total.nanos) (s.executor.arrived? w s'.executor))
      (s.executor.noteFetch w s'.executor noted) := by
  have same : s.executor.Fits w (spent + figureOf (·.total.nanos) (s.executor.arrived? w s.executor))
      (s.executor.noteFetch w s.executor noted) := by
    rw [Executor.arrived?_self, Executor.noteFetch, Executor.fetchesIn_self]
    exact h
  cases happens_of_step hstep with
  | look | take | stop | finish | quitEntered | rest => exact same
  | start _ _ _ hcall | quitCalling _ _ _ _ hcall | unlist hcall | leave _ _ hcall =>
    obtain rfl := Option.some.inj hw
    exact h.step hcall fun _ _ hlabel => by cases hlabel
  | call _ _ _ hcall =>
    obtain rfl := Option.some.inj hw
    exact h.step hcall fun answer since hlabel => htimely answer since (by rw [hlabel])
  | cancel | purge | pass => cases hw

/-- **Every step** keeps what the workers have spent within the time of the run. -/
theorem Fitting.step (h : Fitting started steps s) (hstep : s.step label = some s')
    (htimely : Timely (steps ++ [⟨s, label, s'⟩])) : Fitting started (steps ++ [⟨s, label, s'⟩]) s' := by
  intro w
  by_cases hw : worker? label = some w
  · rw [lastFetch?_own hw, tallyOf_step hstep hw, ← Nat.add_assoc]
    refine fits_own (h w) hstep hw fun answer since hlabel hnoted => ?_
    have htook := htimely steps _ [] rfl
    simpa only [isTimely, hlabel, hnoted, Option.all_some, decide_eq_true_eq] using htook
  · obtain ⟨hworkers, hcalls⟩ := step_others hstep hw
    have htally : s'.tallyOf (·.total.nanos) w = s.tallyOf (·.total.nanos) w := by
      rw [tallyOf, tallyOf, hworkers, Executor.ending?_eq, Executor.ending?_eq, hcalls]
    rw [lastFetch?_others hw, htally]
    exact (h w).later hcalls (step_now hstep)

theorem Fitting.history (h : Fitting started [] first) (past : first.History steps s) (htimely : Timely steps) :
    Fitting started steps s :=
  past.invariantWith (P := fun steps s => Timely steps → Fitting started steps s) (fun _ => h)
    (fun _ _ _ _ _ ih hstep htimely => (ih htimely.of_append).step hstep htimely) htimely

theorem Fitting.begin {e : Executor} {target : Target} {useCache cancelled : Bool} {total concurrency : Nat}
    (hcalls : e.calls = []) :
    Fitting e.now [] (RunState.begin e target useCache total concurrency cancelled) := by
  intro w
  have hcall : (RunState.begin e target useCache total concurrency cancelled).executor.call? w = none := by
    simp [RunState.begin, Executor.call?, hcalls]
  rw [tallyOf_begin hcalls, Executor.fits_of_none hcall]
  exact Nat.le_refl _

/-- **The samples of a run** took no longer than its workers had, when all of them are done. -/
theorem sum_totals_le {e : Executor} {target : Target} {useCache cancelled : Bool} {total concurrency : Nat}
    (hcalls : e.calls = [])
    (past : (RunState.begin e target useCache total concurrency cancelled).History steps s) (htimely : Timely steps)
    (hdone : s.isDone = true) :
    (s.samples.map (·.total.nanos)).sum ≤ concurrency * (s.now.since e.now).nanos := by
  have hfit := (Fitting.begin hcalls).history past htimely
  have hworkers : s.workers.length = concurrency := by
    rw [length_of_history past]
    simp [RunState.begin]
  have hown : ∀ w, s.tallyOf (·.total.nanos) w ≤ (s.now.since e.now).nanos := by
    intro w
    have hspent : e.now.nanos + s.tallyOf (·.total.nanos) w ≤ s.now.nanos := (hfit w).spent_le
    show _ ≤ s.now.nanos - e.now.nanos
    omega
  obtain ⟨kept, hkept, hsub⟩ := s.samples_subperm_workers
  calc (s.samples.map (·.total.nanos)).sum
      = (kept.map (·.total.nanos)).sum := (hkept.map _).sum_eq.symm
    _ ≤ ((s.workers.flatMap Worker.samples).map (·.total.nanos)).sum :=
        List.Sublist.sum_le_sum (hsub.map _) fun _ _ => Nat.zero_le _
    _ = s.tally (·.total.nanos) := (tally_of_isDone ((Seated.begin hcalls).history past) hdone).symm
    _ ≤ ∑ _w ∈ Finset.range s.workers.length, (s.now.since e.now).nanos := Finset.sum_le_sum fun w _ => hown w
    _ = concurrency * (s.now.since e.now).nanos := by
        rw [Finset.sum_const_nat fun _ _ => rfl, Finset.card_range, hworkers]

end RunState

namespace Dispatch

variable {d : Dispatch} {plan : RunPlan} {shared : Option ResponseCache} {cancelled : Bool} {now : Instant}
  {result : RunResult} {steps : List DispatchTransition}

/-- **The samples of a run take no longer than its workers have.** In whatever order the workers get on,
whenever the run is cancelled and whatever crashes: as long as no answer says that it took longer than the
call of the transport, the samples took no longer than the concurrency times the elapsed time. If their bytes
do not overflow, they have figures among the rationals, and the rate of responses times their mean latency in
seconds is at most the concurrency. -/
theorem totals_le_elapsed (past : (begin plan shared cancelled now).History steps d) (hdone : d.stage = .done result)
    (htimely : RunState.Timely (steps.filterMap DispatchTransition.measured?)) :
    (result.samples.map (·.total.nanos)).sum ≤ plan.concurrency * result.elapsed.nanos ∧
    ((result.samples.map Sample.bytes).sum < Number.range64 →
      ∃ statistics : RunStatistics Rat, RunStatistics.ofSamples result.samples result.elapsed = .ok statistics ∧
        (statistics.latency = none ↔ ∀ x ∈ result.samples, x.outcome.hasResponse = false) ∧
        ∀ latency, statistics.latency = some latency →
          statistics.responseThroughput * (latency.mean / 1000) ≤ plan.concurrency) := by
  obtain ⟨early, started, run, hrun, hall, rfl⟩ := run_of_done past hdone
  have htotals : (run.samples.map (·.total.nanos)).sum ≤ plan.concurrency * (run.now.since started).nanos :=
    RunState.sum_totals_le rfl hrun htimely hall
  refine ⟨htotals, fun hroom => ?_⟩
  obtain ⟨statistics, hstatistics, hnone, hlatency, hrate⟩ :=
    RunStatistics.exists_ofSamples run.samples (run.now.since started) hroom
  exact ⟨statistics, hstatistics, hnone, fun latency => RunStatistics.rate_mul_mean_le hlatency hrate htotals⟩

/-- Of two workers one fetches and one waits for the answer, which is there after ten milliseconds. The
transport says that it took seven. -/
def playBusy : List DispatchLabel :=
  let enter w : List DispatchLabel := [.run (.look w), .run (.take w), .run (.look w), .run (.start w)]
  let response : Response := { status := 200, headers := [], body := [], protocol := "HTTP/1.1" }
  let answer : Exchange := { phases := {}, total := .millis 7, result := .ok response }
  enter 0 ++ [.run (.call 0 .lookUp), .run (.rest 0)] ++ enter 1 ++ [.run (.call 1 .ask), .run (.rest 1),
    .run (.pass (.millis 10)), .run (.look 0), .run (.call 0 (.reply answer)), .run (.unlist 0), .run (.leave 0),
    .run (.look 1), .run (.call 1 .resume), .run (.call 1 .lookUp), .run (.leave 1), .run (.finish 0), .run (.finish 1),
    .proceed]

/-- Two responses of seven and ten milliseconds are returned within ten. -/
def showsBusy (steps : List DispatchTransition) (result : RunResult) : Bool :=
  let measured := steps.filterMap DispatchTransition.measured?
  let returned := measured.filterMap RunTransition.returned?
  decide (RunState.Timely measured) && measured.all (!·.crashes) && result.elapsed == .millis 10 &&
    returned.map (·.total) == [.millis 7, .millis 10] && returned.all (·.outcome.hasResponse) &&
    returned.map Sample.bytes == [0, 0]

theorem totals_le_elapsed_of_two :
    ∃ plan steps d result,
      ({ url := "http://a/", requests := 2, concurrency := 2, cacheEnabled := true } : RunSettings).validate =
        .ok plan ∧
      (begin plan none false ⟨0⟩).History steps d ∧ d.stage = .done result ∧
      RunState.Timely (steps.filterMap DispatchTransition.measured?) ∧
      (result.samples.map (·.total)).Perm [.millis 7, .millis 10] ∧ result.elapsed = .millis 10 ∧
      (result.samples.map (·.total.nanos)).sum ≤ 2 * result.elapsed.nanos ∧
      ∃ (statistics : RunStatistics Rat) (latency : LatencySummary Rat),
        RunStatistics.ofSamples result.samples result.elapsed = .ok statistics ∧ statistics.latency = some latency ∧
        statistics.responseThroughput * (latency.mean / 1000) ≤ 2 := by
  have hplay : ((({ url := "http://a/", requests := 2, concurrency := 2, cacheEnabled := true } :
      RunSettings).validate.toOption.bind fun plan => (playFrom step (begin plan none false ⟨0⟩) playBusy).bind
        fun r => r.2.result?.map (showsBusy r.1)) = some true) := by
    decide +kernel
  obtain ⟨plan, steps, d, result, hplan, past, hdone, hshown⟩ := exists_of_play hplay
  simp only [showsBusy, Bool.and_eq_true, decide_eq_true_eq, beq_iff_eq, List.all_eq_true, Bool.not_eq_true'] at hshown
  obtain ⟨⟨⟨⟨⟨htimely, hcrash⟩, helapsed⟩, htotals⟩, hanswered⟩, hbytes⟩ := hshown
  have hperm := samples_returned past hdone hcrash
  have hroom : (result.samples.map Sample.bytes).sum < Number.range64 := by
    rw [(hperm.map Sample.bytes).sum_eq, hbytes]
    decide
  have htwo : plan.concurrency = 2 := congrArg RunOptions.concurrency (RunSettings.sound_of_validate hplan).1
  have hsamples : (result.samples.map (·.total)).Perm [.millis 7, .millis 10] := htotals ▸ hperm.map _
  obtain ⟨hsum, hfigures⟩ := totals_le_elapsed past hdone htimely
  obtain ⟨statistics, hstatistics, hnone, hlaw⟩ := hfigures hroom
  rw [htwo] at hsum hlaw
  obtain ⟨latency, hlatency⟩ : ∃ latency, statistics.latency = some latency := by
    refine Option.ne_none_iff_exists'.mp fun hlatency => ?_
    obtain ⟨x, hx⟩ := List.exists_mem_of_ne_nil result.samples fun hnil => by simp [hnil] at hsamples
    have hresponse := hanswered x (hperm.mem_iff.mp hx)
    simp [hnone.mp hlatency x hx] at hresponse
  exact ⟨plan, steps, d, result, hplan, past, hdone, htimely, hsamples, helapsed, hsum, statistics, latency,
    hstatistics, hlatency, hlaw latency hlatency⟩

end Dispatch

end HttpBench
