import HttpBench.Time.Duration

/-!
# Virtual time

A simulation runs tasks one after another on a clock of its own. Tasks that
can run wait in a queue, first in, first out; a task that sleeps has a timer.
Only when no task can run does the clock move: at once to the next timer, and
then all timers that are due make their tasks ready, the earliest first and
those for one time in the order in which they were set.

Timers count in whole milliseconds, rounded up. The clock jumps by whole
milliseconds too, so a fraction that it has once is kept. A timer goes off when
the timers are looked at, not when the clock moves.

Whoever drives the simulation waits for something from outside. It goes on as
soon as that holds, before the tasks that have just become ready.

What the tasks are, what they do when they run and what they share is up to the
simulation: a `World` is an agenda with any state beside it.
-/

namespace HttpBench.Simulation

/-- **A timer**: when it is due, in milliseconds of the clock, and for whom. -/
structure Timer (T : Type) where
  due : Nat
  task : T
deriving Repr

/-- **Who runs when.** -/
structure Agenda (T : Type) where
  now : Instant := ⟨0⟩
  /-- the millisecond at which the timers were last looked at -/
  seen : Nat := 0
  /-- the tasks that can run, the next in front -/
  ready : List T := []
  /-- the timers in the order in which they were set -/
  timers : List (Timer T) := []
deriving Repr

namespace Agenda
variable {T : Type}

/-- The whole milliseconds of a moment. -/
def tick (i : Instant) : Nat := i.nanos / 1000000

/-- The first millisecond at or after a moment. -/
def dueTick (i : Instant) : Nat := (i.nanos + 999999) / 1000000

/-- An agenda at a moment, with nothing on it. -/
def startingAt (now : Instant) : Agenda T := { now, seen := tick now }

/-- A timer for this moment has gone off by now. -/
def isDue (a : Agenda T) (i : Instant) : Bool := dueTick i ≤ a.seen

variable [DecidableEq T]

/-- **Make a task ready**, if it is not ready already. -/
def wake (a : Agenda T) (task : T) : Agenda T :=
  if task ∈ a.ready then a else { a with ready := a.ready ++ [task] }

/-- **Set a timer.** One that is due already makes its task ready at once. -/
def set (a : Agenda T) (task : T) (i : Instant) : Agenda T :=
  if a.isDue i then a.wake task else { a with timers := a.timers ++ [{ due := dueTick i, task }] }

/-- Take all timers of a task away. -/
def unset (a : Agenda T) (task : T) : Agenda T :=
  { a with timers := a.timers.filter fun t => t.task ≠ task }

/-- **Look at the timers**: make the tasks ready whose timers are due. -/
def ring (a : Agenda T) : Agenda T :=
  let (due, later) := a.timers.partition fun t => t.due ≤ tick a.now
  let due := due.mergeSort fun t u => t.due ≤ u.due
  due.foldl (fun a t => a.wake t.task) { a with timers := later, seen := tick a.now }

/-- The next time that a timer is due. -/
def nextDue? (a : Agenda T) : Option Nat := (a.timers.map (·.due)).min?

/-- **Move the clock to the next timer**; nothing if there is none. -/
def jump? (a : Agenda T) : Option (Agenda T) :=
  a.nextDue?.map fun due =>
    { a with now := a.now.after (.millis (due - tick a.now)) }.ring

/-- Move the clock by so much, without a look at the timers. -/
def shift (a : Agenda T) (d : Duration) : Agenda T := { a with now := a.now.after d }

end Agenda

/-- **An agenda and what its tasks share.** -/
structure World (T W : Type) where
  agenda : Agenda T
  state : W

/-- **An action in a simulated world.** -/
abbrev Sim (T W : Type) := StateM (World T W)

namespace Sim
variable {T W : Type}

/-- The time. -/
def now : Sim T W Instant := do return (← get).agenda.now

/-- A reading of the shared state. -/
def read {A : Type} (f : W → A) : Sim T W A := do return f (← get).state

/-- A change of the shared state. -/
def alter (f : W → W) : Sim T W Unit := modify fun w => { w with state := f w.state }

/-- A change of the agenda. -/
def plan (f : Agenda T → Agenda T) : Sim T W Unit := modify fun w => { w with agenda := f w.agenda }

/-- **An action on a part** of the shared state. -/
def within {V A : Type} (part : W → V) (put : V → W → W) (act : Sim T V A) : Sim T W A := fun w =>
  let (a, v) := (act { agenda := w.agenda, state := part w.state } : A × World T V)
  (a, { agenda := v.agenda, state := put v.state w.state })

/-- A timer is due by now. -/
def isDue (i : Instant) : Sim T W Bool := do return (← get).agenda.isDue i

variable [DecidableEq T]

/-- Make a task ready. -/
def wake (task : T) : Sim T W Unit := plan (·.wake task)

/-- Set a timer for a task. -/
def wakeAt (task : T) (i : Instant) : Sim T W Unit := plan (·.set task i)

/-- Take the next ready task off the queue. -/
def next? : Sim T W (Option T) := do
  match (← get).agenda.ready with
  | [] => pure none
  | task :: rest =>
    plan fun a => { a with ready := rest }
    pure (some task)

/-- **Run what can run**, until nothing can; at most so many turns. -/
def settle (turn : T → Sim T W Unit) : Nat → Sim T W Unit
  | 0 => pure ()
  | fuel + 1 => do
    match ← next? with
    | none => pure ()
    | some task =>
      turn task
      settle turn fuel

/-- **Wait until something holds**: while it does not, run what can run, and
then let time pass. It ends early if nothing is left to happen. -/
def await (turn : T → Sim T W Unit) (holds : Sim T W Bool) : Nat → Sim T W Unit
  | 0 => pure ()
  | fuel + 1 => do
    if ← holds then return
    settle turn (fuel + 1)
    if ← holds then return
    match (← get).agenda.jump? with
    | none => pure ()
    | some agenda =>
      modify fun w => { w with agenda }
      await turn holds fuel

/-- More turns than any simulation takes. -/
def enough : Nat := 1000000000000000000

/-- Run what can run. -/
def drain (turn : T → Sim T W Unit) : Sim T W Unit := settle turn enough

/-- Wait until something holds, for as long as it takes. -/
def waitFor (turn : T → Sim T W Unit) (holds : Sim T W Bool) : Sim T W Unit := await turn holds enough

/-- **Let time pass**, in which tasks run when they are due. Nothing runs in no
time. -/
def sleep (turn : T → Sim T W Unit) (sleeper : T) (d : Duration) : Sim T W Unit := do
  let wake := (← now).after d
  if ← isDue wake then return
  wakeAt sleeper wake
  waitFor turn (isDue wake)
  plan (·.unset sleeper)

/-- **Move the clock at once.** What can run runs at the new time; timers that
are due then make their tasks ready for the next time that something runs. -/
def advance (turn : T → Sim T W Unit) (d : Duration) : Sim T W Unit := do
  plan (·.shift d)
  drain turn
  plan (·.ring)

end Sim

end HttpBench.Simulation
