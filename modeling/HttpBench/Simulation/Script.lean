import HttpBench.Simulation.Carrier

/-!
# A transport that plays a script

Every call gets the next entry of a script, which starts over at its end: after
a delay, a response, a failure, or a crash of the caller. The transport keeps a
list of its calls, and remembers how many there were at most at a time.
-/

namespace HttpBench.Simulation

/-- **One answer of a script.** -/
structure ScriptEntry where
  delay : Duration
  answer : Exchange
  crashes : Bool := false

/-- **A call** as it was made. -/
structure ScriptCall where
  started : Instant
  target : String
  timeout : Duration
deriving Repr

/-- **A script and what became of it.** -/
structure Script where
  entries : List ScriptEntry
  /-- the last call in front -/
  calls : List ScriptCall := []
  /-- the calls in flight, with the time of their answers where these take any -/
  inFlight : List (Caller × Option Instant × ScriptEntry) := []
  peak : Nat := 0

namespace Script

/-- The call of a caller is over. -/
def drop (s : Script) (c : Caller) : Script := { s with inFlight := s.inFlight.filter (·.1 != c) }

/-- Take a call. -/
def take (c : Caller) (target : Target) (timeout : Duration) : Sim BenchTask Script Unit := do
  let now ← Sim.now
  let s ← Sim.read id
  match s.entries[s.calls.length % s.entries.length]? with
  | none => pure ()
  | some entry =>
    let due := if entry.delay.nanos = 0 then none else some (now.after entry.delay)
    let inFlight := s.inFlight ++ [(c, due, entry)]
    Sim.alter fun s =>
      { s with
        calls := { started := now, target := target.text, timeout } :: s.calls
        inFlight
        peak := max s.peak inFlight.length }
    if let some due := due then Sim.wakeAt (.caller c) due

/-- Answer a call whose time has come. -/
def ask (c : Caller) : Sim BenchTask Script CarrierAnswer := do
  match (← Sim.read (·.inFlight)).find? (·.1 == c) with
  | none => pure .nothing
  | some (_, due, entry) =>
    let isDue ← match due with
      | some due => Sim.isDue due
      | none => pure true
    if isDue then
      Sim.alter (·.drop c)
      pure (if entry.crashes then .crash else .exchange entry.answer)
    else pure .nothing

instance : Carrier Script where
  name := "script"
  start := take
  poll := ask
  abandon c := do
    Sim.plan (·.unset (.caller c))
    Sim.alter (·.drop c)
  turn _ := pure ()

end Script

end HttpBench.Simulation
