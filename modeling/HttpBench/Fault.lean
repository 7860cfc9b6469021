/-!
# Faults

A fault is a broken assumption of the program itself, as opposed to a wrong
input or a failed request. An operation that meets one has no answer.
-/

namespace HttpBench

/-- **A broken assumption.** -/
inductive Fault where
  /-- a value was to be held between bounds that are reversed or no numbers -/
  | reversedBounds
  /-- a rank beyond the end of a series -/
  | missingRank
  /-- a sum beyond the range of its type -/
  | overflow
deriving DecidableEq, Repr

end HttpBench
