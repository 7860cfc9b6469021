import HttpBench.Sample.Failure
import HttpBench.Timing.Phase

/-!
# Responses and exchanges

An exchange is one attempt at a request: the response or the failure, with
whatever timing was observed on the way.
-/

namespace HttpBench

/-- **A complete response.** -/
structure Response where
  status : Nat
  headers : List (String × String)
  body : List UInt8
  protocol : String
deriving DecidableEq, Repr, Inhabited

/-- **One attempt at a request.** -/
structure Exchange where
  phases : PhaseTimes
  total : Duration
  result : Except Failure Response

instance : Inhabited Exchange := ⟨{ phases := {}, total := ⟨0⟩, result := .error default }⟩

end HttpBench
