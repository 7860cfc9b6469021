import HttpBench.Cache.Fill
import HttpBench.Http.Response
import HttpBench.Http.Target
import HttpBench.Simulation.Agenda

/-!
# Transports of a simulation

A simulated transport answers calls in virtual time. It keeps a state of its
own, may have tasks of its own, and wakes its callers when there is something
to ask it for.
-/

namespace HttpBench.Simulation

/-- **The tasks of a simulated bench.** -/
inductive BenchTask where
  /-- a caller of the transport, a worker of a run among them -/
  | caller (c : Caller)
  /-- a task of the transport's own -/
  | carrier (n : Nat)
  | deadline
  | canceller
  | monitor
  /-- the bench itself, when it sleeps -/
  | bench
deriving DecidableEq, Repr

/-- **What a transport has for a caller.** -/
inductive CarrierAnswer where
  | nothing
  | exchange (x : Exchange)
  /-- it takes the caller down -/
  | crash

/-- **A simulated transport** with states in `N`. -/
class Carrier (N : Type) where
  name : String
  /-- take a call of a caller that has none -/
  start : Caller → Target → Duration → Sim BenchTask N Unit
  /-- ask for the answer to the call of a caller, which ends it -/
  poll : Caller → Sim BenchTask N CarrierAnswer
  /-- the caller has gone -/
  abandon : Caller → Sim BenchTask N Unit
  /-- a turn of one of its own tasks -/
  turn : Nat → Sim BenchTask N Unit

end HttpBench.Simulation
