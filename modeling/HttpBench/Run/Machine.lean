import HttpBench.Executor
import HttpBench.Run.Gauge

/-!
# A run and its workers

A run is a number of requests for one target, shared out among workers that
carry out their shares side by side, one request after another. `RunState.step`
says what can happen in a run, one thing at a time: a run is any sequence of
such steps, in any order that the states allow. Nothing here says who is faster
or when the run is cancelled.

A worker runs in turns. It looks whether the run has been cancelled before each
request and again in each turn inside one, and gets on only if it has not; a
cancellation that comes later in the same turn is seen at the next look. Other
workers may get on between any two steps of a turn. A worker whose request is
cut off keeps the samples it has. A worker that crashes takes its samples with
it.
-/

namespace HttpBench

/-- **Where a worker stands.** -/
inductive WorkerStage where
  /-- between two requests -/
  | idle
  /-- counted in flight with a number, its call not begun -/
  | entered (sequence : Nat)
  /-- its call is under way -/
  | calling (sequence : Nat)
  | finished
  | crashed
deriving DecidableEq, Repr, Inhabited

/-- **A worker.** -/
structure Worker where
  /-- the requests of its share that it has not begun -/
  remaining : Nat
  stage : WorkerStage := .idle
  /-- it has looked for a cancellation, and found none -/
  looked : Bool := false
  /-- in the order in which it got them -/
  samples : List Sample := []
deriving Inhabited

namespace Worker

/-- The worker is done, one way or the other. -/
def isDone (w : Worker) : Bool := w.stage = .finished || w.stage = .crashed

/-- The worker is inside a request, which is counted in flight. -/
def isInFlight (w : Worker) : Bool :=
  match w.stage with
  | .entered _ | .calling _ => true
  | _ => false

/-- The samples that the worker hands over at its end. -/
def result (w : Worker) : List Sample := if w.stage = .finished then w.samples else []

end Worker

/-- **The state of a run.** -/
structure RunState where
  executor : Executor
  target : Target
  useCache : Bool
  nextSequence : Nat := 0
  gauge : Gauge := {}
  cancelled : Bool := false
  workers : List Worker
deriving Inhabited

/-- **What can happen in a run.** -/
inductive RunLabel where
  /-- a worker looks, and sees no cancellation -/
  | look (w : Nat)
  /-- a worker counts its next request in -/
  | take (w : Nat)
  /-- a worker between two requests sees the cancellation -/
  | stop (w : Nat)
  /-- a worker has used up its share -/
  | finish (w : Nat)
  /-- a worker inside a request sees the cancellation -/
  | quit (w : Nat)
  /-- a worker begins its call -/
  | start (w : Nat)
  /-- the call of a worker gets on, in a turn in which it has seen no cancellation -/
  | call (w : Nat) (label : CallLabel)
  /-- a leader among the workers takes its slot off the table -/
  | unlist (w : Nat)
  /-- the call of a worker is over, and the worker leaves its request -/
  | leave (w : Nat)
  /-- a worker ends its turn inside a request -/
  | rest (w : Nat)
  | cancel
  | purge
  | pass (d : Duration)

namespace RunState

/-- The share of a worker: as even as can be, the first workers taking one more
where the total does not divide. -/
def share (total concurrency w : Nat) : Nat :=
  total / concurrency + (if w < total % concurrency then 1 else 0)

/-- **A run that begins.** -/
def begin (executor : Executor) (target : Target) (useCache : Bool) (total concurrency : Nat)
    (cancelled : Bool) : RunState where
  executor
  target
  useCache
  cancelled
  workers := (List.range concurrency).map fun w => { remaining := share total concurrency w }

/-- Change a worker. -/
def setWorker (s : RunState) (w : Nat) (worker : Worker) : RunState :=
  { s with workers := s.workers.set w worker }

/-- A worker leaves its request, with what its call has come to. -/
def leaveRequest (s : RunState) (w : Nat) (worker : Worker) (ending : CallEnd) : RunState :=
  { s with gauge := s.gauge.leave }.setWorker w
    (match ending with
    | .sample sample => { worker with stage := .idle, looked := false, samples := worker.samples ++ [sample] }
    | .cut => { worker with stage := .finished, looked := false }
    | .crash => { worker with stage := .crashed, looked := false })

/-- A step of the call that a worker has begun. -/
def stepCall (s : RunState) (w : Nat) (label : CallLabel) : Option RunState :=
  (s.executor.step w label).map fun executor => { s with executor }

/-- **One thing that happens.** There is no next state for what cannot happen now. -/
def step (s : RunState) : RunLabel → Option RunState
  | .look w => do
    let worker ← s.workers[w]?
    guard ((worker.stage = .idle ∧ 0 < worker.remaining ∨ worker.isInFlight) ∧ ¬worker.looked ∧ ¬s.cancelled)
    some (s.setWorker w { worker with looked := true })
  | .take w => do
    let worker ← s.workers[w]?
    guard (worker.stage = .idle ∧ 0 < worker.remaining ∧ worker.looked)
    some ({ s with nextSequence := s.nextSequence + 1, gauge := s.gauge.enter }.setWorker w
      { worker with remaining := worker.remaining - 1, stage := .entered s.nextSequence, looked := false })
  | .stop w => do
    let worker ← s.workers[w]?
    guard (worker.stage = .idle ∧ 0 < worker.remaining ∧ ¬worker.looked ∧ s.cancelled)
    some (s.setWorker w { worker with stage := .finished })
  | .finish w => do
    let worker ← s.workers[w]?
    guard (worker.stage = .idle ∧ worker.remaining = 0)
    some (s.setWorker w { worker with stage := .finished })
  | .quit w => do
    let worker ← s.workers[w]?
    guard (¬worker.looked ∧ s.cancelled)
    match worker.stage with
    | .entered _ => some (s.leaveRequest w worker .cut)
    | .calling _ => s.stepCall w .cut
    | _ => none
  | .start w => do
    let worker ← s.workers[w]?
    match worker.stage with
    | .entered sequence =>
      guard worker.looked
      let executor ← s.executor.step w (.start s.target s.useCache sequence)
      some ({ s with executor }.setWorker w { worker with stage := .calling sequence })
    | _ => none
  | .call w label => do
    let worker ← s.workers[w]?
    guard (worker.looked ∧ label.isInTurn)
    s.stepCall w label
  | .unlist w => s.stepCall w .unlist
  | .leave w => do
    let worker ← s.workers[w]?
    let ending ← s.executor.ending? w
    let s ← s.stepCall w .leave
    some (s.leaveRequest w worker ending)
  | .rest w => do
    let worker ← s.workers[w]?
    guard (worker.looked ∧ s.executor.isPending w)
    some (s.setWorker w { worker with looked := false })
  | .cancel => some { s with cancelled := true }
  | .purge => some { s with executor := s.executor.purge }
  | .pass d => some { s with executor := s.executor.pass d }

/-- The time in the run. -/
def now (s : RunState) : Instant := s.executor.now

/-- Every worker is done. -/
def isDone (s : RunState) : Bool := s.workers.all (·.isDone)

/-- **The samples of the run**, in the order of their numbers. -/
def samples (s : RunState) : List Sample :=
  (s.workers.flatMap Worker.result).mergeSort fun a b => a.sequence ≤ b.sequence

end RunState

end HttpBench
