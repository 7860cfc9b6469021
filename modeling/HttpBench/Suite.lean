import HttpBench.Report.Comparison
import HttpBench.Run.Dispatch

/-!
# Suites

A suite checks all its runs before it makes the first, and then makes each as
often as it asks for, one after another. Only the first time is there a warmup.
The suite stops early when it is cancelled; a run that its own deadline ends
does not stop it. Every later report is compared with the first.

Where a suite runs is up to its `Venue`.
-/

namespace HttpBench

/-- **What a suite needs** of the place where it runs. -/
structure Venue (m : Type → Type) where
  /-- the name of the transport -/
  transport : String
  /-- the suite has been cancelled -/
  isCancelled : m Bool
  /-- carry out a checked run -/
  dispatch : RunPlan → m RunResult
  /-- watch over the resources from now on -/
  startMonitor : Duration → m Unit
  /-- stop watching, and say what was seen -/
  stopMonitor : m (Option (ResourceUsage Float))
  /-- report something -/
  say : LogEvent → m Unit

/-- **Make one run** as it is asked for, if nothing is wrong with it. -/
def Venue.attempt {m : Type → Type} [Monad m] (v : Venue m) (s : RunSettings) : m (Except SetupError RunResult) :=
  match s.validate with
  | .error e => pure (.error e)
  | .ok plan => do pure (.ok (← v.dispatch plan))

/-- **One run of a suite** that has been made. -/
structure SuiteRun where
  iteration : Nat
  result : RunResult
  resources : Option (ResourceUsage Float)

/-- **What a suite leaves behind.** -/
structure SuiteOutcome where
  reports : List (RunReport Float)
  /-- every later report against the first -/
  comparisons : List (RunComparison Float)
  cancelled : Bool

namespace Suite

/-- **Check all runs**: the first thing that is wrong, in the order of the runs. -/
def validate (runs : List RunSettings) : Except SetupError (List RunPlan) :=
  if runs.isEmpty then .error .noRuns else runs.mapM RunSettings.validate

/-- The plan for one time. -/
def planFor (p : RunPlan) (iteration : Nat) : RunPlan := if 1 < iteration then { p with warmup := 0 } else p

/-- **The schedule**: every run in order, as often as it asks for. -/
def schedule (plans : List RunPlan) : List (RunPlan × Nat) :=
  plans.flatMap fun p => (List.range p.iterations).map fun i => (p, i + 1)

/-- A run begins. -/
def iterationEvent (p : RunPlan) (iteration : Nat) : LogEvent where
  level := .info
  source := .suite
  message := "▶️ " ++ p.name ++ " iteration " ++ Nat.repr iteration ++ "/" ++ Nat.repr p.iterations

section
variable {m : Type → Type} [Monad m]

/-- **Make one run.** -/
def runOnce (v : Venue m) (interval : Option Duration) (p : RunPlan) (iteration : Nat) : m SuiteRun := do
  v.say (iterationEvent p iteration)
  match interval with
  | some interval => v.startMonitor interval
  | none => pure ()
  let result ← v.dispatch (planFor p iteration)
  let resources ← match interval with
    | some _ => v.stopMonitor
    | none => pure none
  pure { iteration, result, resources }

/-- **Make the runs of a schedule**, until there are no more or the suite is
cancelled. -/
def runAll (v : Venue m) (interval : Option Duration) : List (RunPlan × Nat) → m (List SuiteRun)
  | [] => pure []
  | (p, iteration) :: rest => do
    if ← v.isCancelled then pure []
    else
      let run ← runOnce v interval p iteration
      let runs ← runAll v interval rest
      pure (run :: runs)

/-- **Run a suite** of checked runs. -/
def run (v : Venue m) (interval : Option Duration) (plans : List RunPlan) : m (List SuiteRun × Bool) := do
  v.say { level := .info, source := .suite,
          message := "📋 Running suite of " ++ Nat.repr plans.length ++ " benchmark runs" }
  let runs ← runAll v interval (schedule plans)
  let cancelled ← v.isCancelled
  if cancelled then
    v.say { level := .warn, source := .suite,
            message := "⚠️ Suite cancelled after " ++ Nat.repr runs.length ++ " reports" }
  pure (runs, cancelled)

/-- **Run a suite** as it is asked for, if nothing is wrong with any of its runs. -/
def attempt (v : Venue m) (interval : Option Duration) (runs : List RunSettings) :
    m (Except SetupError (List SuiteRun × Bool)) :=
  match validate runs with
  | .error e => pure (.error e)
  | .ok plans => do pure (.ok (← run v interval plans))

end

/-- **The figures of a result**, with the requests that it is short of. -/
def statisticsOf (r : RunResult) : Except Fault (RunStatistics Float) := do
  let statistics ← RunStatistics.ofSamples r.samples r.elapsed
  pure { statistics with incomplete := r.incomplete }

/-- **The report on a run.** -/
def report (transport : String) (rules : List (Rule Float)) (thresholds : Thresholds Float) (r : SuiteRun) :
    Except Fault (RunReport Float) := do
  let plan := r.result.plan
  let statistics ← statisticsOf r.result
  let context : RunContext Float :=
    { cacheEnabled := plan.cacheEnabled
      keepAlive := plan.target.keepAlive
      concurrency := plan.concurrency
      resources := r.resources }
  pure {
    name := plan.name
    iteration := r.iteration
    url := plan.target.url.text
    method := plan.target.method
    transport
    started := .ofInstant r.result.started
    requests := plan.requests
    concurrency := plan.concurrency
    timeout := plan.timeout
    cacheEnabled := plan.cacheEnabled
    keepAlive := plan.target.keepAlive
    cancelled := r.result.cancelled
    peak := r.result.peak
    statistics
    diagnosis := .ofRules rules statistics context thresholds
    resources := r.resources
    cache := r.result.cacheCounts }

/-- **The outcome** of the runs of a suite. -/
def outcome (transport : String) (rules : List (Rule Float)) (thresholds : Thresholds Float)
    (runs : List SuiteRun × Bool) : Except Fault SuiteOutcome := do
  let reports ← runs.1.mapM (report transport rules thresholds)
  pure {
    reports
    comparisons := match reports with
      | [] => []
      | baseline :: rest => rest.map (.between baseline)
    cancelled := runs.2 }

end Suite

end HttpBench
