import HttpBench.Setup.Config
import HttpBench.Simulation.Carrier

/-!
# A transport that is refused

The plain transport, where nobody listens: every call ends at once without a
connection. It sees nothing of the phases before the response, so it saw none.

Nothing else is said of the plain transport: its connections, its responses and
its other failures are left out.
-/

namespace HttpBench.Simulation

/-- **The calls** that have not been asked for their answers. -/
structure Refusal where
  calls : List (Caller × Exchange) := []

namespace Refusal

/-- What a system says of a port where nobody listens. -/
def reason : String := "tcp connect error: Connection refused (os error 111)"

/-- **What comes of a request.** -/
def exchange (target : Target) : Exchange where
  phases := .none
  total := .zero
  result := .error (.connect ("error sending request for url (" ++ target.url.text ++ "): error trying to connect: "
    ++ reason))

/-- The call of a caller is over. -/
def drop (s : Refusal) (c : Caller) : Refusal := { s with calls := s.calls.filter (·.1 != c) }

instance : Carrier Refusal where
  name := TransportKind.plain.name
  start c target _ := Sim.alter fun s => { s with calls := (c, exchange target) :: s.calls }
  poll c := do
    match (← Sim.read (·.calls)).find? (·.1 == c) with
    | none => pure .nothing
    | some (_, x) =>
      Sim.alter (·.drop c)
      pure (.exchange x)
  abandon c := Sim.alter (·.drop c)
  turn _ := pure ()

end Refusal

end HttpBench.Simulation
