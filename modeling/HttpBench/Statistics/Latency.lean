import HttpBench.Fault
import HttpBench.Json.Decode
import HttpBench.Time.Duration
import HttpBench.Timing.Phase

/-!
# Latency summaries

The summary of one series of latencies: least and greatest value, mean,
population deviation and three percentiles. Only finite values count, and the
series is sorted before anything is summed, so the order in which latencies
arrive never matters, not even to the last bit.

A percentile interpolates linearly between the two values around rank
`p · (n - 1)`.
-/

namespace HttpBench

open Json Number

section
variable {R : Type} [Scalar R]

/-- **Hold a value between two bounds.** Reversed bounds, or bounds that are no
numbers, are a fault. -/
def clamp (low high x : R) : Except Fault R :=
  if Scalar.le low high then
    .ok (if Scalar.lt x low then low else if Scalar.lt high x then high else x)
  else .error .reversedBounds

/-- The value at a rank of a series. -/
def valueAt (series : List R) (rank : Nat) : Except Fault R :=
  match series[rank]? with
  | some x => .ok x
  | none => .error .missingRank

/-- **A percentile** of an ascending series, for `p` between zero and one. -/
def percentile (series : List R) (p : R) : Except Fault R :=
  match series with
  | [] => .ok Scalar.zero
  | [only] => .ok only
  | _ => do
    let share ← clamp Scalar.zero Scalar.one p
    let rank := share * ofInt (series.length - 1 : Nat)
    let lower := Scalar.floorNat rank
    let upper := Scalar.ceilNat rank
    let below ← valueAt series lower
    let above ← valueAt series upper
    let value := if lower == upper then below else below + (above - below) * (rank - ofInt lower)
    clamp below above value

/-- The sum of a series from left to right. -/
def total (series : List R) : R :=
  match series with
  | [] => Scalar.zero
  | x :: rest => rest.foldl (· + ·) x

end

/-- **The summary of a series**, in milliseconds. -/
structure LatencySummary (R : Type) where
  count : Nat
  min : R
  max : R
  mean : R
  /-- population standard deviation -/
  deviation : R
  p50 : R
  p95 : R
  p99 : R
deriving Inhabited

namespace LatencySummary
variable {R : Type} [Scalar R]

/-- **The mean of the squared distances** from a point. -/
def varianceAround (mean : R) (series : List R) : R :=
  total (series.map fun v => (v - mean) * (v - mean)) / ofInt series.length

/-- The finite values of a series in ascending order. -/
def ascending (values : List R) : List R :=
  (values.filter Scalar.isFinite).mergeSort Scalar.ordered

/-- **The summary of the finite values** of a series, none if there are none. -/
def ofMillis (values : List R) : Except Fault (Option (LatencySummary R)) :=
  let series := ascending values
  match series.head?, series.getLast? with
  | some least, some greatest => do
    let mean ← clamp least greatest (total series / ofInt series.length)
    let variance := varianceAround mean series
    let variance := if Scalar.le Scalar.zero variance then variance else Scalar.zero
    let p50 ← percentile series (Scalar.quotient 50 100)
    let p95 ← percentile series (Scalar.quotient 95 100)
    let p99 ← percentile series (Scalar.quotient 99 100)
    pure (some {
      count := series.length
      min := least
      max := greatest
      mean
      deviation := Scalar.sqrt variance
      p50
      p95
      p99 })
  | _, _ => pure none

/-- The summary of a series of durations. -/
def ofDurations (durations : List Duration) : Except Fault (Option (LatencySummary R)) :=
  ofMillis (durations.map Duration.toMillis)

/-- **The coefficient of variation**: the deviation relative to a positive mean. -/
def variation? (s : LatencySummary R) : Option R :=
  if Scalar.lt Scalar.zero s.mean then some (s.deviation / s.mean) else none

/-- The written form. -/
def toJson (s : LatencySummary R) : Value R :=
  .object [("count", .nat s.count), ("min_ms", .real s.min), ("max_ms", .real s.max),
    ("mean_ms", .real s.mean), ("stddev_ms", .real s.deviation), ("p50_ms", .real s.p50),
    ("p95_ms", .real s.p95), ("p99_ms", .real s.p99)]

/-- Read the written form. -/
def ofJson? : Decoder R (LatencySummary R) := record do
  let count ← field "count" asNat
  let min ← field "min_ms" asReal
  let max ← field "max_ms" asReal
  let mean ← field "mean_ms" asReal
  let deviation ← field "stddev_ms" asReal
  let p50 ← field "p50_ms" asReal
  let p95 ← field "p95_ms" asReal
  let p99 ← field "p99_ms" asReal
  pure { count, min, max, mean, deviation, p50, p95, p99 }

end LatencySummary

/-- **The summaries by phase**, each over the samples in which the phase was
observed. -/
structure PhaseSummaries (R : Type) where
  dns : Option (LatencySummary R) := none
  connect : Option (LatencySummary R) := none
  tls : Option (LatencySummary R) := none
  ttfb : Option (LatencySummary R) := none
  transfer : Option (LatencySummary R) := none
deriving Inhabited

namespace PhaseSummaries
variable {R : Type} [Scalar R]

/-- The summary of one phase. -/
def get (s : PhaseSummaries R) : Phase → Option (LatencySummary R)
  | .dns => s.dns
  | .connect => s.connect
  | .tls => s.tls
  | .ttfb => s.ttfb
  | .transfer => s.transfer

/-- **The phase with the greatest mean**, the later of two equal ones. -/
def dominant? (s : PhaseSummaries R) : Option (Phase × R) :=
  let means := Phase.all.filterMap fun p => (s.get p).map fun summary => (p, summary.mean)
  means.foldl (fun best candidate =>
    match best with
    | some b => if Scalar.ordered b.2 candidate.2 then some candidate else best
    | none => some candidate) none

/-- The written form. -/
def toJson (s : PhaseSummaries R) : Value R :=
  let summary := Value.ofOption LatencySummary.toJson
  .object [("dns", summary s.dns), ("connect", summary s.connect), ("tls", summary s.tls),
    ("ttfb", summary s.ttfb), ("transfer", summary s.transfer)]

/-- Read the written form. -/
def ofJson? : Decoder R (PhaseSummaries R) := record do
  let dns ← optionalField "dns" LatencySummary.ofJson?
  let connect ← optionalField "connect" LatencySummary.ofJson?
  let tls ← optionalField "tls" LatencySummary.ofJson?
  let ttfb ← optionalField "ttfb" LatencySummary.ofJson?
  let transfer ← optionalField "transfer" LatencySummary.ofJson?
  pure { dns, connect, tls, ttfb, transfer }

end PhaseSummaries

end HttpBench
