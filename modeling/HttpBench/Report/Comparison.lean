import HttpBench.Report.Basic

/-!
# Comparisons of two runs

How the main figures of one report differ from those of another, and which of
the differences are for the better.
-/

namespace HttpBench

open Json Number

/-- **Which way** a figure improves. -/
inductive Better where
  | lower
  | higher
deriving DecidableEq, Repr, Inhabited

/-- The name of a direction. -/
def Better.name : Better → String
  | .lower => "lower"
  | .higher => "higher"

/-- **One figure of two runs.** -/
structure MetricDelta (R : Type) where
  metric : String
  baseline : R
  candidate : R
  /-- in percent of a baseline that is not zero -/
  change : Option R
  better : Better

namespace MetricDelta
variable {R : Type} [Scalar R]

/-- The figure is zero. -/
def isZero (x : R) : Bool := Scalar.le x Scalar.zero && Scalar.le Scalar.zero x

/-- **The change of a figure.** -/
def between (metric : String) (better : Better) (baseline candidate : R) : MetricDelta R where
  metric
  baseline
  candidate
  change := if isZero baseline then none else some ((candidate - baseline) / baseline * ofInt 100)
  better

/-- The change is for the better. -/
def improved (d : MetricDelta R) : Bool :=
  match d.better with
  | .lower => Scalar.lt d.candidate d.baseline
  | .higher => Scalar.lt d.baseline d.candidate

/-- The written form. -/
def toJson (d : MetricDelta R) : Value R :=
  .object [("metric", .string d.metric), ("baseline", .real d.baseline), ("candidate", .real d.candidate),
    ("change_percent", .ofOption .real d.change), ("better", .string d.better.name)]

/-- The line for the log. -/
def line (d : MetricDelta R) : String :=
  let amount := fun x : R => padLeft ' ' 12 (Scalar.places 3 x false)
  let change := match d.change with
    | some p => Scalar.places 1 p true ++ "%"
    | none => "n/a"
  "   " ++ padRight 16 d.metric ++ " " ++ amount d.baseline ++ " -> " ++ amount d.candidate ++ " (" ++ change ++ ")"
    ++ (if d.improved then " ✅" else "")

end MetricDelta

/-- **A run compared with another.** -/
structure RunComparison (R : Type) where
  baseline : String
  candidate : String
  deltas : List (MetricDelta R)

namespace RunComparison
variable {R : Type} [Scalar R]

/-- The name of a run in comparisons. -/
def label (r : RunReport R) : String := r.name ++ "#" ++ Nat.repr r.iteration

/-- The changes of the latency, if both runs have one. -/
def latencyDeltas (b c : Option (LatencySummary R)) : List (MetricDelta R) :=
  match b, c with
  | some b, some c =>
    [.between "mean_ms" .lower b.mean c.mean, .between "p50_ms" .lower b.p50 c.p50,
      .between "p95_ms" .lower b.p95 c.p95, .between "p99_ms" .lower b.p99 c.p99]
  | _, _ => []

/-- **Compare two runs.** -/
def between (baseline candidate : RunReport R) : RunComparison R :=
  let b := baseline.statistics
  let c := candidate.statistics
  { baseline := label baseline
    candidate := label candidate
    deltas := latencyDeltas b.latency c.latency ++
      [.between "throughput_rps" .higher b.throughput c.throughput, .between "error_rate" .lower b.errorRate c.errorRate,
        .between "cache_hit_ratio" .higher b.cacheHitRatio c.cacheHitRatio] }

/-- The change of one figure. -/
def delta? (c : RunComparison R) (metric : String) : Option (MetricDelta R) := c.deltas.find? (·.metric == metric)

/-- The written form. -/
def toJson (c : RunComparison R) : Value R :=
  .object [("baseline", .string c.baseline), ("candidate", .string c.candidate),
    ("deltas", .ofList MetricDelta.toJson c.deltas)]

/-- **The comparison for the log.** -/
def summaryEvents (c : RunComparison R) : List LogEvent :=
  (("🔍 " ++ c.candidate ++ " vs " ++ c.baseline) :: c.deltas.map MetricDelta.line).map fun message =>
    { level := .info, source := .report, message }

end RunComparison

end HttpBench
