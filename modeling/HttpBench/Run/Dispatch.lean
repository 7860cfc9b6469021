import HttpBench.Logging.Event
import HttpBench.Number.Places
import HttpBench.Run.Machine
import HttpBench.Run.Plan

/-!
# Dispatching a run

A checked run begins with its warmup, if it has one: requests that are made
like the measured ones, but without the cache, and then forgotten. The measured
run follows. It uses the cache that the dispatcher shares among runs, or one of
its own where there is none to share.

A run can be cancelled from outside, which also cuts its warmup short, and by
its own deadline, which counts from the start of the measured run.
-/

namespace HttpBench

/-- **What a run leaves behind.** -/
structure RunResult where
  plan : RunPlan
  started : Instant
  /-- in the order of their numbers -/
  samples : List Sample
  /-- from the start of the measured run to the end of its last worker -/
  elapsed : Duration
  /-- requests that were never begun, or cut off -/
  incomplete : Nat
  cancelled : Bool
  peak : Nat
  cacheCounts : Option CacheCounts
deriving Inhabited

namespace RunPlan

/-- How the requests of a run are carried out. -/
def executorSettings (p : RunPlan) : ExecutorSettings where
  timeout := p.timeout
  cacheTtl := p.cacheTtl
  policy := p.policy

/-- **The warmup of a run.** -/
def warmupRun (p : RunPlan) (cancelled : Bool) (now : Instant) : RunState :=
  .begin { settings := p.executorSettings, cache := none, now } p.target false p.warmup (min p.concurrency p.warmup)
    cancelled

/-- **The measured run**, with the shared cache or one of its own. -/
def measuredRun (p : RunPlan) (shared : Option ResponseCache) (cancelled : Bool) (now : Instant) : RunState :=
  let cache := if p.cacheEnabled then some (shared.getD {}) else none
  .begin { settings := p.executorSettings, cache, now } p.target p.cacheEnabled p.requests p.concurrency cancelled

/-- The result of a measured run whose workers are all done. -/
def resultOf (p : RunPlan) (started : Instant) (run : RunState) : RunResult :=
  let samples := run.samples
  { plan := p
    started
    samples
    elapsed := run.now.since started
    incomplete := p.requests - samples.length
    cancelled := run.cancelled
    peak := run.gauge.peak
    cacheCounts := run.executor.cache.map fun k => k.store.counts }

end RunPlan

/-- **How far a dispatched run has got.** -/
inductive DispatchStage where
  | warming (run : RunState)
  | measuring (started : Instant) (run : RunState)
  | done (result : RunResult)

/-- **A dispatched run.** -/
structure Dispatch where
  plan : RunPlan
  /-- the shared cache, as it was before the measured run -/
  shared : Option ResponseCache
  /-- it has been cancelled from outside -/
  cancelled : Bool
  stage : DispatchStage

/-- The label is the cancellation of a run. -/
def RunLabel.isCancel : RunLabel → Bool
  | .cancel => true
  | _ => false

/-- **What can happen to a dispatched run.** -/
inductive DispatchLabel where
  /-- something inside the run under way -/
  | run (label : RunLabel)
  /-- all workers are done, so it goes on -/
  | proceed
  /-- it is cancelled from outside -/
  | cancel
  /-- its deadline is over -/
  | expire

namespace Dispatch

/-- Begin the measured run. -/
def measure (plan : RunPlan) (shared : Option ResponseCache) (cancelled : Bool) (now : Instant) : Dispatch where
  plan
  shared
  cancelled
  stage := .measuring now (plan.measuredRun shared cancelled now)

/-- **Begin.** -/
def begin (plan : RunPlan) (shared : Option ResponseCache) (cancelled : Bool) (now : Instant) : Dispatch :=
  if 0 < plan.warmup ∧ ¬cancelled then
    { plan, shared, cancelled, stage := .warming (plan.warmupRun cancelled now) }
  else measure plan shared cancelled now

/-- The run under way. -/
def run? (d : Dispatch) : Option RunState :=
  match d.stage with
  | .warming run | .measuring _ run => some run
  | .done _ => none

/-- Change the run under way. -/
def setRun (d : Dispatch) (run : RunState) : Dispatch :=
  match d.stage with
  | .warming _ => { d with stage := .warming run }
  | .measuring started _ => { d with stage := .measuring started run }
  | .done _ => d

/-- **One thing that happens.** -/
def step (d : Dispatch) : DispatchLabel → Option Dispatch
  | .run label => do
    let run ← d.run?
    guard ¬label.isCancel
    some (d.setRun (← run.step label))
  | .proceed =>
    match d.stage with
    | .warming run => if run.isDone then some (measure d.plan d.shared d.cancelled run.now) else none
    | .measuring started run =>
      if run.isDone then
        some { d with
          shared := if d.plan.cacheEnabled then d.shared.bind fun _ => run.executor.cache else d.shared
          stage := .done (d.plan.resultOf started run) }
      else none
    | .done _ => none
  | .cancel =>
    match d.run? with
    | some run => some ({ d with cancelled := true }.setRun { run with cancelled := true })
    | none => some { d with cancelled := true }
  | .expire =>
    match d.stage with
    | .measuring started run =>
      if d.plan.deadline.isSome && !run.cancelled then
        some { d with stage := .measuring started { run with cancelled := true } }
      else none
    | _ => none

end Dispatch

/-! ## What a dispatched run reports -/

namespace RunPlan

/-- The warmup begins. -/
def warmupEvent (p : RunPlan) : LogEvent where
  level := .info
  source := .dispatcher
  message := "🔥 Warming up '" ++ p.name ++ "' with " ++ Nat.repr p.warmup ++ " requests"

/-- The warmup is over. -/
def warmedEvent (samples : Nat) : LogEvent where
  level := .debug
  source := .dispatcher
  message := "Discarded " ++ Nat.repr samples ++ " warmup samples"

/-- The measured run begins. -/
def startEvent (p : RunPlan) (transport : String) : LogEvent where
  level := .info
  source := .dispatcher
  message := "🚀 Starting run '" ++ p.name ++ "': " ++ Nat.repr p.requests ++ " requests at concurrency "
    ++ Nat.repr p.concurrency ++ " against " ++ p.target.text ++ " (cache: "
    ++ (if p.cacheEnabled then "on" else "off") ++ ", transport: " ++ transport ++ ")"

/-- The deadline is over. -/
def deadlineEvent (deadline : Duration) : LogEvent where
  level := .warn
  source := .dispatcher
  message := "⏰ Run deadline of " ++ deadline.text ++ " reached, cancelling"

/-- A request is cut off. -/
def abandonEvent (sequence : Nat) : LogEvent where
  level := .debug
  source := .dispatcher
  message := "Abandoned request " ++ Nat.repr sequence ++ " on cancellation"

/-- A worker has crashed; its task is named by a letter. -/
def crashEvent : LogEvent where
  level := .error
  source := .dispatcher
  message := "❌ Worker task failed: task N panicked"

end RunPlan

/-- The run is over. -/
def RunResult.endEvent (r : RunResult) : LogEvent :=
  let count := Nat.repr r.samples.length
  if r.cancelled then
    { level := .warn
      source := .dispatcher
      message := "⚠️ Run '" ++ r.plan.name ++ "' cancelled: " ++ count ++ " of " ++ Nat.repr r.plan.requests
        ++ " requests completed, " ++ Nat.repr r.incomplete ++ " incomplete" }
  else
    { level := .info
      source := .dispatcher
      message := "✅ Run '" ++ r.plan.name ++ "' finished: " ++ count ++ " requests in "
        ++ Number.placesText 2 r.elapsed.toSeconds false ++ "s (peak in flight: " ++ Nat.repr r.peak ++ ")" }

end HttpBench
