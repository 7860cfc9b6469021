import HttpBench.Cache.Fill
import HttpBench.Cache.Store
import HttpBench.Simulation.Agenda

/-!
# A session with a cache

A cache of texts, used step by step from outside while tasks of its own run:
waiters, which settle behind whoever fetches their key and then look it up,
and purges, which drop what has expired again and again.
-/

namespace HttpBench.Simulation

/-- **One step of a session.** -/
inductive CacheStep where
  | put (key value : String) (ttl : Duration)
  | get (key : String)
  | remove (key : String)
  | purge
  | clear
  | isEmpty
  | capacity
  | hitRatio
  | advance (d : Duration)
  | sleep (d : Duration)
  /-- claim the fetch of a key, and keep the slot under a name -/
  | fill (key id : String)
  /-- give up the slot under a name -/
  | release (id : String)
  /-- start a waiter under a name -/
  | wait (key id : String)
  /-- ask what a waiter found -/
  | join (id : String)
  | startPurge (period : Duration)
  | stopPurge
deriving Repr

/-- **The answer to a step.** -/
inductive CacheReply where
  | nothing
  | text (value : String)
  | number (n : Nat)
  | truth (b : Bool)
  | ratio (r : Except Fault Float)
  /-- whether a waiter led, and what it found -/
  | waited (led : Bool) (value : Option String)

/-- What a waiter does. -/
inductive WaiterStage where
  | starting
  | waiting (slot : Nat)
  | done (led : Bool) (value : Option String)
deriving Repr

/-- **A waiter** for a key. -/
structure Waiter where
  number : Caller
  key : String
  stage : WaiterStage := .starting
deriving Repr

/-- What a purger does. -/
inductive PurgerStage where
  | starting
  /-- it purges next at this time; the first time it only begins -/
  | waiting (next : Instant) (begun : Bool)
  | ended
  /-- it has no period -/
  | failed
deriving DecidableEq, Repr

/-- **A task that purges**, every period. -/
structure Purger where
  number : Nat
  period : Duration
  stage : PurgerStage := .starting
  cancelled : Bool := false
deriving Repr

/-- The tasks of a session; the session itself sleeps as the last of them. -/
inductive CacheTask where
  | waiter (number : Caller)
  | purger (number : Nat)
  | session
deriving DecidableEq, Repr

/-- **The state of a session.** -/
structure CacheSession where
  store : Store String String
  fills : Fills String := {}
  /-- the next caller or purger to be numbered -/
  fresh : Nat := 0
  /-- the slots that are held, by name -/
  guards : List (String × Nat) := []
  waiters : List Waiter := []
  /-- the waiters that can still be asked for, by name -/
  named : List (String × Caller) := []
  purgers : List Purger := []
  /-- the purger that can be stopped -/
  running : Option Nat := none

namespace CacheSession

/-- An action of a session. -/
abbrev Act := Sim CacheTask CacheSession

/-- A number for a caller or a purger. -/
def takeNumber : Act Nat := do
  let n ← Sim.read (·.fresh)
  Sim.alter fun s => { s with fresh := n + 1 }
  pure n

/-- Change the slots, and wake whoever has been handed a lock by that. -/
def changeFills (f : Fills String → Fills String) : Act Unit := do
  Sim.alter fun s => { s with fills := f s.fills }
  for c in (← Sim.read (·.fills)).onTurn do
    Sim.wake (.waiter c)

/-- Look a key up. -/
def lookUp (key : String) : Act (Option String) := do
  let now ← Sim.now
  let (store, value) := (← Sim.read (·.store)).get key now
  Sim.alter fun s => { s with store }
  pure value

/-- Note what a waiter does. -/
def setStage (number : Caller) (stage : WaiterStage) : Act Unit :=
  Sim.alter fun s =>
    { s with waiters := s.waiters.map fun w => if w.number = number then { w with stage } else w }

/-- A turn of a waiter. -/
def waiterTurn (w : Waiter) : Act Unit := do
  match w.stage with
  | .done .. => pure ()
  | .starting =>
    let (fills, claim) := (← Sim.read (·.fills)).claim w.key w.number
    Sim.alter fun s => { s with fills }
    match claim with
    | .leads slot =>
      changeFills (·.finish slot)
      setStage w.number (.done true (← lookUp w.key))
    | .follows slot =>
      let (fills, through) := (← Sim.read (·.fills)).settle slot w.number
      Sim.alter fun s => { s with fills }
      if through then setStage w.number (.done false (← lookUp w.key))
      else setStage w.number (.waiting slot)
  | .waiting slot =>
    if (← Sim.read (·.fills)).hasTurn slot w.number then
      changeFills (·.release slot)
      setStage w.number (.done false (← lookUp w.key))

/-- A purger goes on: its new stage, and whether it purges. A purger that is
late makes up for all that it has missed at once; one that is cancelled ends
once it has begun. -/
def advancePurger (p : Purger) (now : Instant) (seen : Nat) : PurgerStage × Bool :=
  let wait (next : Instant) (begun : Bool) : PurgerStage × Bool :=
    if begun && p.cancelled then (.ended, false)
    else if Agenda.dueTick next ≤ seen then
      let due := (Instant.since ⟨seen * 1000000⟩ next).nanos / p.period.nanos + 1
      if p.cancelled then (.ended, false)
      else (.waiting (next.after ⟨due * p.period.nanos⟩) true, begun || 2 ≤ due)
    else (.waiting next begun, false)
  match p.stage with
  | .starting => if p.period.nanos = 0 then (.failed, false) else wait now false
  | .waiting next begun => wait next begun
  | stage => (stage, false)

/-- A turn of a purger. -/
def purgerTurn (p : Purger) : Act Unit := do
  let now ← Sim.now
  let (stage, purges) := advancePurger p now (← get).agenda.seen
  if purges then Sim.alter fun s => { s with store := (s.store.purge now).1 }
  Sim.alter fun s =>
    { s with purgers := s.purgers.map fun q => if q.number = p.number then { q with stage } else q }
  Sim.plan (·.unset (.purger p.number))
  if let .waiting next _ := stage then Sim.wakeAt (.purger p.number) next

/-- A turn of a task. -/
def turn : CacheTask → Act Unit
  | .waiter number => do
    for w in (← Sim.read (·.waiters)).filter (·.number == number) do
      waiterTurn w
  | .purger number => do
    for p in (← Sim.read (·.purgers)).filter (·.number == number) do
      purgerTurn p
  | .session => pure ()

/-- An entry of a list of names. -/
def named? {A : Type} (entries : List (String × A)) (id : String) : Option A :=
  (entries.find? (·.1 == id)).map (·.2)

/-- The other entries of a list of names. -/
def others {A : Type} (entries : List (String × A)) (id : String) : List (String × A) :=
  entries.filter (·.1 != id)

/-- What a purger does now. -/
def stageOf (number : Nat) : Act PurgerStage := do
  match (← Sim.read (·.purgers)).find? (·.number == number) with
  | some p => pure p.stage
  | none => pure .ended

/-- **Take one step.** -/
def step : CacheStep → Act CacheReply
  | .put key value ttl => do
    let now ← Sim.now
    Sim.alter fun s => { s with store := s.store.put key value ttl now }
    pure .nothing
  | .get key => do
    match ← lookUp key with
    | some value => pure (.text value)
    | none => pure .nothing
  | .remove key => do
    let (store, value) := (← Sim.read (·.store)).remove key
    Sim.alter fun s => { s with store }
    match value with
    | some value => pure (.text value)
    | none => pure .nothing
  | .purge => do
    let (store, dropped) := (← Sim.read (·.store)).purge (← Sim.now)
    Sim.alter fun s => { s with store }
    pure (.number dropped)
  | .clear => do
    Sim.alter fun s => { s with store := s.store.clear }
    pure .nothing
  | .isEmpty => do pure (.truth ((← Sim.read (·.store)).size == 0))
  | .capacity => do
    match (← Sim.read (·.store)).capacity with
    | some capacity => pure (.number capacity)
    | none => pure .nothing
  | .hitRatio => do pure (.ratio (← Sim.read (·.store)).counts.hitRatio)
  | .advance d => do
    Sim.advance turn d
    pure .nothing
  | .sleep d => do
    Sim.sleep turn .session d
    pure .nothing
  | .fill key id => do
    let c ← takeNumber
    let (fills, claim) := (← Sim.read (·.fills)).claim key c
    Sim.alter fun s => { s with fills }
    match claim with
    | .leads slot =>
      let old := named? (← Sim.read (·.guards)) id
      Sim.alter fun s => { s with guards := (id, slot) :: others s.guards id }
      if let some old := old then changeFills (·.finish old)
      pure (.text "leader")
    | .follows _ => pure (.text "follower")
  | .release id => do
    match named? (← Sim.read (·.guards)) id with
    | some slot =>
      Sim.alter fun s => { s with guards := others s.guards id }
      changeFills (·.finish slot)
      pure (.truth true)
    | none => pure (.truth false)
  | .wait key id => do
    let number ← takeNumber
    Sim.alter fun s =>
      { s with waiters := s.waiters ++ [{ number, key }], named := (id, number) :: others s.named id }
    Sim.wake (.waiter number)
    Sim.drain turn
    pure .nothing
  | .join id => do
    Sim.drain turn
    match named? (← Sim.read (·.named)) id with
    | none => pure (.text "none")
    | some number =>
      match (← Sim.read (·.waiters)).find? (·.number == number) with
      | some { stage := .done led value, .. } =>
        Sim.alter fun s => { s with named := others s.named id }
        pure (.waited led value)
      | _ => pure (.text "waiting")
  | .startPurge period => do
    let number ← takeNumber
    Sim.alter fun s => { s with purgers := s.purgers ++ [{ number, period }], running := some number }
    Sim.wake (.purger number)
    Sim.drain turn
    pure .nothing
  | .stopPurge => do
    match ← Sim.read (·.running) with
    | none => pure (.text "none")
    | some number =>
      Sim.alter fun s =>
        { s with
          running := none
          purgers := s.purgers.map fun p => if p.number = number then { p with cancelled := true } else p }
      Sim.wake (.purger number)
      Sim.waitFor turn do
        match ← stageOf number with
        | .starting | .waiting .. => pure false
        | .ended | .failed => pure true
      pure (.truth (decide ((← stageOf number) = .ended)))

/-- **A whole session**: the answer to every step, and the counts after it. -/
def run (store : Store String String) (steps : List CacheStep) : List (CacheReply × CacheCounts) :=
  let act : Act (List (CacheReply × CacheCounts)) := steps.mapM fun s => do
    let reply ← step s
    pure (reply, (← Sim.read (·.store)).counts)
  (act.run { agenda := {}, state := { store } }).1

end CacheSession

end HttpBench.Simulation
