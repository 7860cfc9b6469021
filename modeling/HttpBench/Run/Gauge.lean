/-!
# The gauge of requests in flight

A gauge counts the requests in flight and remembers the most there ever were.
-/

namespace HttpBench

/-- **Requests in flight**, and their peak. -/
structure Gauge where
  current : Nat := 0
  peak : Nat := 0
deriving DecidableEq, Repr, Inhabited

namespace Gauge

/-- One request more. -/
def enter (g : Gauge) : Gauge := ⟨g.current + 1, max g.peak (g.current + 1)⟩

/-- One request less. -/
def leave (g : Gauge) : Gauge := ⟨g.current - 1, g.peak⟩

end Gauge

end HttpBench
