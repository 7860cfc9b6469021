import HttpBench.Sample.Failure
import HttpBench.Timing.Phase

/-!
# Samples

A sample is what one attempted request leaves behind: how it ended, how long
it took, which phases were seen. A response counts as a success or as an
application error by the status policy of its run; a request without a
complete response carries its transport failure.
-/

namespace HttpBench

open Json Number

/-- **Which statuses are failures.** -/
inductive StatusPolicy where
  /-- everything outside 200 to 299 is a failure -/
  | non2xx
  /-- only 500 to 599 is a failure -/
  | serverErrors
deriving DecidableEq, Repr, Inhabited

namespace StatusPolicy

/-- The policy calls this status a failure. -/
def isFailure : StatusPolicy → Nat → Bool
  | .non2xx, status => !(200 ≤ status && status < 300)
  | .serverErrors, status => 500 ≤ status && status < 600

/-- The policies by name. -/
def names : List (String × StatusPolicy) := [("non_2xx", .non2xx), ("server_errors", .serverErrors)]

/-- The name of a policy. -/
def name : StatusPolicy → String
  | .non2xx => "non_2xx"
  | .serverErrors => "server_errors"

end StatusPolicy

/-- **How a request ended.** -/
inductive Outcome where
  | success (status : Nat)
  /-- a complete response whose status the policy calls a failure -/
  | applicationError (status : Nat)
  /-- no complete response -/
  | transportError (failure : Failure)
deriving DecidableEq, Repr, Inhabited

namespace Outcome

/-- The outcome of a complete response under a policy. -/
def ofStatus (policy : StatusPolicy) (status : Nat) : Outcome :=
  if policy.isFailure status then .applicationError status else .success status

/-- The request succeeded. -/
def isSuccess : Outcome → Bool
  | .success _ => true
  | _ => false

/-- A complete response was received. -/
def hasResponse : Outcome → Bool
  | .transportError _ => false
  | _ => true

/-- The status of the response, if there was one. -/
def status? : Outcome → Option Nat
  | .success status | .applicationError status => some status
  | .transportError _ => none

/-- The transport failure, if there was one. -/
def failure? : Outcome → Option Failure
  | .transportError failure => some failure
  | _ => none

section
variable {R : Type}

/-- The written form. -/
def toJson : Outcome → Value R
  | .success status => .object [("success", .object [("status", .nat status)])]
  | .applicationError status => .object [("application_error", .object [("status", .nat status)])]
  | .transportError failure => .object [("transport_error", failure.toJson)]

/-- Read the written form. -/
def ofJson? : Decoder R Outcome
  | .object [("success", v)] => (record (field "status" asNat16) v).map .success
  | .object [("application_error", v)] => (record (field "status" asNat16) v).map .applicationError
  | .object [("transport_error", v)] => (Failure.ofJson? v).map .transportError
  | _ => none

end

end Outcome

/-- **A sample**: the outcome and the timing of one request. -/
structure Sample where
  /-- the number of the request within its run -/
  sequence : Nat
  outcome : Outcome
  total : Duration
  phases : PhaseTimes
  fromCache : Bool
  /-- the length of the response body -/
  bytes : Nat
  /-- the negotiated protocol, when there was a response -/
  protocol : Option String
deriving DecidableEq, Repr, Inhabited

namespace Sample
variable {R : Type} [Scalar R]

/-- The written form. -/
def toJson (s : Sample) : Value R :=
  .object [("sequence", .nat s.sequence), ("outcome", s.outcome.toJson), ("total_ms", .real s.total.toMillis),
    ("phases", s.phases.toJson), ("served_from_cache", .bool s.fromCache), ("bytes", .nat s.bytes),
    ("protocol", .ofOption .string s.protocol)]

/-- Read the written form. -/
def ofJson? : Decoder R Sample := record do
  let sequence ← field "sequence" asNat
  let outcome ← field "outcome" Outcome.ofJson?
  let total ← field "total_ms" fun v => (asReal v).map Duration.ofMillis
  let phases ← field "phases" PhaseTimes.ofJson?
  let fromCache ← field "served_from_cache" asBool
  let bytes ← field "bytes" asNat
  let protocol ← optionalField "protocol" asString
  pure { sequence, outcome, total, phases, fromCache, bytes, protocol }

end Sample

end HttpBench
