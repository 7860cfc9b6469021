import HttpBench.Run.Dispatch
import HttpBench.Simulation.Carrier
import HttpBench.Suite

/-!
# Runs in virtual time

A bench carries out runs over a simulated transport. All that happens in a run
happens through the steps of its machine: the bench only decides which step
comes next. A worker whose turn it is goes on until it has to wait, so nothing
else happens within a turn.
-/

namespace HttpBench.Simulation

/-- **What a bench is at.** -/
inductive Activity where
  | idle
  | dispatching (d : Dispatch)
  /-- a run on its own, without a plan around it -/
  | running (run : RunState)

/-- **A monitor** that reads again and again. -/
structure Monitor where
  interval : Duration
  /-- the time of the next reading, once there was one -/
  next : Option Instant := none
  readings : Nat := 0
deriving Repr

/-- **The state of a bench.** -/
structure Bench (N : Type) where
  net : N
  shared : Option ResponseCache := none
  activity : Activity := .idle
  /-- it has been cancelled from outside -/
  cancelled : Bool := false
  /-- when it will be cancelled from outside -/
  cancelAt : Option Instant := none
  /-- when the run under way will be over, and how long it was given -/
  deadline : Option (Instant × Duration) := none
  monitor : Option Monitor := none
  /-- the crashed workers of the run under way that have been reported -/
  reported : Nat := 0
  /-- what was reported, the last event in front -/
  log : List LogEvent := []

namespace Bench
variable {N : Type}

/-- An action of a bench. -/
abbrev Act (N : Type) := Sim BenchTask (Bench N)

/-- An action of its transport. -/
def onNet {A : Type} : Sim BenchTask N A → Act N A := Sim.within (·.net) fun net b => { b with net }

/-- Report something. -/
def say (e : LogEvent) : Act N Unit := Sim.alter fun b => { b with log := e :: b.log }

/-- The run under way. -/
def run? (b : Bench N) : Option RunState :=
  match b.activity with
  | .idle => none
  | .dispatching d => d.run?
  | .running run => some run

/-- Let something happen in the run under way. -/
def stepRun (label : RunLabel) (b : Bench N) : Bench N :=
  match b.activity with
  | .idle => b
  | .dispatching d =>
    match d.step (.run label) with
    | some d => { b with activity := .dispatching d }
    | none => b
  | .running run =>
    match run.step label with
    | some run => { b with activity := .running run }
    | none => b

/-- **Something happens** in the run under way, now. Whoever can go on because
of it is woken. -/
def happen (label : RunLabel) : Act N Unit := do
  let now ← Sim.now
  if let some run ← Sim.read run? then
    Sim.alter (stepRun (.pass (now.since run.now)))
    Sim.alter (stepRun label)
  if let some run ← Sim.read run? then
    for c in run.executor.onTurn do
      Sim.wake (.caller c)

/-- The transport gets the call of a worker, if the call has got that far. -/
def fetch [Carrier N] (w : Nat) : Act N Unit := do
  if let some run ← Sim.read run? then
    if run.executor.isFetching w then
      onNet (Carrier.start w run.target run.executor.settings.timeout)

/-- A worker sees the cancellation inside a request. -/
def quit [Carrier N] (run : RunState) (w sequence : Nat) : Act N Unit := do
  if run.executor.isFetching w then onNet (Carrier.abandon w)
  happen (.quit w)
  say (RunPlan.abandonEvent sequence)

/-- **A turn of a worker**, of at most so many steps. -/
def workerTurn [Carrier N] (w : Nat) : Nat → Act N Unit
  | 0 => pure ()
  | fuel + 1 => do
    let some run ← Sim.read run? | return
    let some worker := run.workers[w]? | return
    match worker.stage with
    | .finished | .crashed => pure ()
    | .idle =>
      if worker.remaining = 0 then happen (.finish w)
      else if worker.looked then
        happen (.take w)
        workerTurn w fuel
      else if run.cancelled then happen (.stop w)
      else
        happen (.look w)
        workerTurn w fuel
    | .entered sequence =>
      if worker.looked then
        happen (.start w)
        fetch w
        workerTurn w fuel
      else if run.cancelled then quit run w sequence
      else
        happen (.look w)
        workerTurn w fuel
    | .calling sequence =>
      match run.executor.call? w with
      | none => pure ()
      | some call =>
        match call.stage with
        | .closing _ =>
          happen (if call.leads.isSome then .unlist w else .leave w)
          workerTurn w fuel
        | .unlisted _ =>
          happen (.leave w)
          workerTurn w fuel
        | stage =>
          if !worker.looked then
            if run.cancelled then quit run w sequence else happen (.look w)
            workerTurn w fuel
          else
            match stage with
            | .following _ =>
              happen (.call w .ask)
              workerTurn w fuel
            | .waiting slot =>
              if run.executor.hasTurn w slot then
                happen (.call w .resume)
                workerTurn w fuel
              else happen (.rest w)
            | .looking =>
              happen (.call w .lookUp)
              fetch w
              workerTurn w fuel
            | .fetching =>
              match ← onNet (Carrier.poll w) with
              | .nothing => happen (.rest w)
              | .crash =>
                happen (.call w .crash)
                workerTurn w fuel
              | .exchange x =>
                if let some event := x.event? sequence then say event
                happen (.call w (.reply x))
                workerTurn w fuel
            | _ => pure ()

/-- Wake all workers of the run under way. -/
def wakeWorkers : Act N Unit := do
  if let some run ← Sim.read run? then
    for w in List.range run.workers.length do
      Sim.wake (.caller w)

/-- The deadline of the run under way may be over. -/
def deadlineTurn : Act N Unit := do
  let some (due, given) ← Sim.read (·.deadline) | return
  let some run ← Sim.read run? | return
  if !run.cancelled && (← Sim.isDue due) then
    say (RunPlan.deadlineEvent given)
    Sim.alter fun b =>
      match b.activity with
      | .dispatching d => { b with activity := .dispatching ((d.step .expire).getD d) }
      | _ => b
    wakeWorkers

/-- The bench may be cancelled. -/
def cancellerTurn : Act N Unit := do
  let some due ← Sim.read (·.cancelAt) | return
  if ← Sim.isDue due then
    Sim.alter fun b =>
      { b with
        cancelled := true
        activity := match b.activity with
          | .dispatching d => .dispatching ((d.step .cancel).getD d)
          | a => a }
    wakeWorkers

/-- The monitor may read. -/
def monitorTurn : Act N Unit := do
  let some m ← Sim.read (·.monitor) | return
  if m.interval.nanos = 0 then return
  let due := m.next.getD (← Sim.now)
  let isFirst := m.next.isNone
  if isFirst || (← Sim.isDue due) then
    let next := due.after m.interval
    Sim.alter fun b => { b with monitor := some { m with next := some next, readings := m.readings + 1 } }
    Sim.wakeAt .monitor next

/-- A turn of a task. -/
def turn [Carrier N] : BenchTask → Act N Unit
  | .caller w => workerTurn w Sim.enough
  | .carrier n => onNet (Carrier.turn n)
  | .deadline => deadlineTurn
  | .canceller => cancellerTurn
  | .monitor => monitorTurn
  | .bench => pure ()

/-- Report the workers that have crashed since. -/
def reportCrashes : Act N Unit := do
  let some run ← Sim.read run? | return
  let crashed := run.workers.countP fun w => w.stage = .crashed
  for _ in List.range (crashed - (← Sim.read (·.reported))) do
    say RunPlan.crashEvent
  Sim.alter fun b => { b with reported := crashed }

/-- **Carry out the run under way**: until all its workers are done. -/
def finishRun [Carrier N] : Act N Unit := do
  Sim.alter fun b => { b with reported := 0 }
  wakeWorkers
  Sim.waitFor turn do
    reportCrashes
    pure (((← Sim.read run?).map RunState.isDone).getD true)

/-- The run under way goes on to its next stage. -/
def proceed : Act N Unit := Sim.alter fun b =>
  match b.activity with
  | .dispatching d => { b with activity := .dispatching ((d.step .proceed).getD d) }
  | _ => b

/-- Give the run under way its time. -/
def setDeadline (given : Duration) : Act N Unit := do
  let due := (← Sim.now).after given
  Sim.alter fun b => { b with deadline := some (due, given) }
  Sim.wakeAt .deadline due

/-- **Carry out a checked run**, with its warmup. -/
def dispatch [Carrier N] (plan : RunPlan) : Act N RunResult := do
  let now ← Sim.now
  Sim.alter fun b =>
    { b with shared := none, activity := .dispatching (.begin plan b.shared b.cancelled now) }
  if 0 < plan.warmup ∧ ¬(← Sim.read (·.cancelled)) then
    say plan.warmupEvent
    finishRun
    say (RunPlan.warmedEvent (((← Sim.read run?).map fun r => r.samples.length).getD 0))
    proceed
  say (plan.startEvent (Carrier.name N))
  if let some given := plan.deadline then setDeadline given
  finishRun
  Sim.plan (·.unset .deadline)
  proceed
  let activity ← Sim.read (·.activity)
  match activity with
  | .dispatching { stage := .done result, shared, .. } =>
    Sim.alter fun b => { b with shared, activity := .idle, deadline := none }
    say result.endEvent
    pure result
  | _ => pure default

/-- **Carry out some requests at once**, outside of any plan, with numbers from
`first` on: what each of them got, if it did not crash. -/
def together [Carrier N] (settings : ExecutorSettings) (target : Target) (useCache : Bool) (count first : Nat) :
    Act N (List (Option Sample)) := do
  let now ← Sim.now
  Sim.alter fun b =>
    let executor : Executor := { settings, cache := b.shared, now }
    { b with
      shared := none
      activity := .running { RunState.begin executor target useCache count count false with nextSequence := first } }
  finishRun
  let some run ← Sim.read run? | return []
  Sim.alter fun b => { b with shared := run.executor.cache, activity := .idle }
  pure (run.workers.map fun w => w.result.head?)

/-- **Start a monitor.** One without an interval fails at once. -/
def startMonitor (interval : Duration) : Act N Unit := do
  Sim.alter fun b => { b with monitor := some { interval } }
  Sim.wake .monitor

/-- **Stop the monitor**, after a last reading. -/
def stopMonitor : Act N (Option Nat) := do
  let some m ← Sim.read (·.monitor) | return none
  Sim.plan (·.unset .monitor)
  Sim.alter fun b => { b with monitor := none }
  pure (if m.interval.nanos = 0 then none else some (m.readings + 1))

/-- The figures of so many readings. What a simulated program uses is nothing. -/
def usageOf (readings : Nat) : ResourceUsage Float := { ResourceUsage.empty with readings }

/-- **A bench as the venue of a suite.** -/
def venue [Carrier N] : Venue (Act N) where
  transport := Carrier.name N
  isCancelled := Sim.read (·.cancelled)
  dispatch := dispatch
  startMonitor := startMonitor
  stopMonitor := do
    match ← stopMonitor with
    | some readings => pure (some (usageOf readings))
    | none =>
      say { level := .warn, source := .resources, message := "⚠️ Resource monitor task failed: task N panicked" }
      pure none
  say := say

/-- Let time pass. -/
def sleep [Carrier N] (d : Duration) : Act N Unit := Sim.sleep turn .bench d

/-- Move the clock at once. -/
def advance [Carrier N] (d : Duration) : Act N Unit := Sim.advance turn d

/-- Have the bench cancelled after some time; after none, it is cancelled already. -/
def cancelAfter (d : Duration) : Act N Unit := do
  if d.nanos = 0 then Sim.alter fun b => { b with cancelled := true }
  else
    let due := (← Sim.now).after d
    Sim.alter fun b => { b with cancelAt := some due }
    Sim.wakeAt .canceller due

/-- A bench at the start of its time. -/
def world (net : N) (shared : Option ResponseCache) (now : Instant := ⟨0⟩) : World BenchTask (Bench N) :=
  { agenda := .startingAt now, state := { net, shared } }

/-- What was reported, in order. -/
def events (b : Bench N) : List LogEvent := b.log.reverse

end Bench

end HttpBench.Simulation
