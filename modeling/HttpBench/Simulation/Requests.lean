import HttpBench.Simulation.Carrier

/-!
# Requests in virtual time

Requests are sent over a simulated transport, some at once, without a run
around them.
-/

namespace HttpBench.Simulation

/-- **A transport and what it has answered** so far. -/
structure Requests (N : Type) where
  net : N
  answers : List (Caller × Exchange) := []

namespace Requests
variable {N : Type}

/-- An action with requests. -/
abbrev Act (N : Type) := Sim BenchTask (Requests N)

/-- An action of the transport. -/
def onNet {A : Type} : Sim BenchTask N A → Act N A := Sim.within (·.net) fun net r => { r with net }

/-- A turn of a task. -/
def turn [Carrier N] : BenchTask → Act N Unit
  | .caller c => do
    if let .exchange x ← onNet (Carrier.poll c) then
      Sim.alter fun r => { r with answers := (c, x) :: r.answers }
  | .carrier n => onNet (Carrier.turn n)
  | _ => pure ()

/-- **Send some requests at once**, each with its timeout: what came of them,
in their order. All that can happen by then has happened. -/
def send [Carrier N] (requests : List (Target × Duration)) : Act N (List Exchange) := do
  Sim.alter fun r => { r with answers := [] }
  for (c, target, timeout) in (List.range requests.length).zip requests do
    onNet (Carrier.start c target timeout)
    Sim.wake (.caller c)
  Sim.waitFor turn do return (← Sim.read (·.answers)).length = requests.length
  Sim.drain turn
  let answers ← Sim.read (·.answers)
  pure ((List.range requests.length).map fun c => ((answers.find? (·.1 == c)).map (·.2)).getD default)

/-- **Send requests one after another**, each with its timeout. -/
def sendEach [Carrier N] (requests : List (Target × Duration)) : Act N (List Exchange) := do
  let answers ← requests.mapM fun r => send [r]
  pure answers.flatten

/-- A transport at the start of its time. -/
def world (net : N) : World BenchTask (Requests N) := { agenda := {}, state := { net } }

/-- Let time pass. -/
def sleep [Carrier N] (d : Duration) : Act N Unit := Sim.sleep turn .bench d

end Requests

end HttpBench.Simulation
