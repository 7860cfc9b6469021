import HttpBench.Http.Target
import HttpBench.Sample.Basic

/-!
# Run plans

`RunSettings` are what a caller asks for; `RunPlan` is what has been checked.
`RunSettings.validate` is the only way from one to the other. It refuses a run
before anything is sent, and names the first thing that is wrong: the numbers
come before the target, the address of the target before its header fields.
-/

namespace HttpBench

/-- **How the requests of a run are made**, whatever they ask for. -/
structure RunOptions where
  name : String := "default"
  requests : Nat := 100
  concurrency : Nat := 10
  timeout : Duration := .seconds 30
  cacheEnabled : Bool := false
  cacheTtl : Duration := .seconds 300
  /-- requests made before the measured ones and then forgotten -/
  warmup : Nat := 0
  iterations : Nat := 1
  /-- the longest the measured requests may take together -/
  deadline : Option Duration := none
  policy : StatusPolicy := .non2xx
deriving DecidableEq, Repr, Inhabited

/-- **What a caller asks of a run.** -/
structure RunSettings extends RunOptions where
  url : String := ""
  method : Method := .get
  /-- by name, in ascending order -/
  headers : List (String × String) := []
  /-- by name, in ascending order -/
  query : List (String × String) := []
  body : Option String := none
  keepAlive : Bool := true
deriving DecidableEq, Repr, Inhabited

/-- **A checked run.** -/
structure RunPlan extends RunOptions where
  target : Target
deriving DecidableEq, Repr, Inhabited

/-- What is wrong with the numbers of a run, the first thing first. -/
def RunOptions.error? (o : RunOptions) : Option SetupError :=
  if o.requests = 0 then some .zeroRequests
  else if o.concurrency = 0 then some .zeroConcurrency
  else if o.requests < o.concurrency then some (.concurrencyExceedsTotal o.concurrency o.requests)
  else if o.timeout = .zero then some .zeroTimeout
  else if o.cacheEnabled ∧ o.cacheTtl = .zero then some .zeroCacheTtl
  else if o.iterations = 0 then some .zeroIterations
  else none

namespace RunSettings

/-- The request of a run. -/
def target (s : RunSettings) : Except SetupError Target := do
  let target ← Target.parse s.url s.method
  let target ← target.withHeaders s.headers
  let target := { target.withQuery s.query with keepAlive := s.keepAlive }
  pure (match s.body with
    | some body => target.withBody body
    | none => target)

/-- **Check a run.** -/
def validate (s : RunSettings) : Except SetupError RunPlan :=
  match s.error? with
  | some e => .error e
  | none => do
    let target ← s.target
    pure { s.toRunOptions with target }

end RunSettings

end HttpBench
