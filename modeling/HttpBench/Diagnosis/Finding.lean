import HttpBench.Json.Decode

/-!
# Findings

A finding holds one figure against its limit. It is flagged when the figure
lies beyond the limit, and then its exceedance says how far, relative to a
positive limit. An exceedance of at least one is critical.
-/

namespace HttpBench

open Json Number

/-- **The layer** that a finding points at. -/
inductive Dimension where
  | network
  | application
  | protocol
  | cache
  | resource
deriving DecidableEq, Repr

namespace Dimension

/-- The name of a layer. -/
def name : Dimension → String
  | .network => "network"
  | .application => "application"
  | .protocol => "protocol"
  | .cache => "cache"
  | .resource => "resource"

/-- The layers by name. -/
def names : List (String × Dimension) :=
  [("network", .network), ("application", .application), ("protocol", .protocol), ("cache", .cache),
    ("resource", .resource)]

end Dimension

/-- **How bad** a finding is. -/
inductive Severity where
  | ok
  | warning
  | critical
deriving DecidableEq, Repr

namespace Severity

/-- The name of a severity. -/
def name : Severity → String
  | .ok => "ok"
  | .warning => "warning"
  | .critical => "critical"

/-- The severities by name. -/
def names : List (String × Severity) := [("ok", .ok), ("warning", .warning), ("critical", .critical)]

/-- The rank of a severity, the worst highest. -/
def rank : Severity → Nat
  | .ok => 0
  | .warning => 1
  | .critical => 2

end Severity

/-- **The side** on which a figure must stay: at most its limit, or at least. -/
inductive Bound where
  | max
  | min
deriving DecidableEq, Repr

namespace Bound

/-- The name of a bound. -/
def name : Bound → String
  | .max => "max"
  | .min => "min"

/-- The bounds by name. -/
def names : List (String × Bound) := [("max", .max), ("min", .min)]

end Bound

/-- **A figure held against its limit.** -/
structure Finding (R : Type) where
  rule : String
  dimension : Dimension
  label : String
  severity : Severity
  observed : R
  threshold : R
  bound : Bound
  unit : String
  flagged : Bool
  /-- how far beyond a positive limit, relative to it; zero within bounds -/
  exceedance : R

namespace Finding
variable {R : Type} [Scalar R]

/-- The figure lies beyond the limit. -/
def beyond (bound : Bound) (observed threshold : R) : Bool :=
  match bound with
  | .max => Scalar.lt threshold observed
  | .min => Scalar.lt observed threshold

/-- The distance beyond the limit. -/
def distance (bound : Bound) (observed threshold : R) : R :=
  match bound with
  | .max => observed - threshold
  | .min => threshold - observed

/-- **The finding of a figure.** -/
def evaluate (rule : String) (dimension : Dimension) (label : String) (observed threshold : R)
    (bound : Bound) (unit : String) : Finding R :=
  let flagged := beyond bound observed threshold
  let exceedance :=
    if !flagged || Scalar.le threshold Scalar.zero then Scalar.zero
    else distance bound observed threshold / threshold
  let severity :=
    if !flagged then .ok
    else if Scalar.le Scalar.one exceedance then .critical
    else .warning
  { rule, dimension, label, severity, observed, threshold, bound, unit, flagged, exceedance }

/-- **The text for a reader.** A share is written in percent. -/
def text (f : Finding R) : String :=
  let sign := match f.bound with
    | .max => " > "
    | .min => " < "
  if f.unit == "%" then
    let percent := fun x : R => Scalar.places 1 (x * ofInt 100) false ++ "%"
    f.label ++ ": " ++ percent f.observed ++ sign ++ percent f.threshold
  else
    let amount := fun x : R => Scalar.places 2 x false ++ f.unit
    f.label ++ ": " ++ amount f.observed ++ sign ++ amount f.threshold

/-- The written form, with each number written by `number`. -/
def toJsonWith (number : R → Value R) (f : Finding R) : Value R :=
  .object [("rule", .string f.rule), ("dimension", .string f.dimension.name), ("label", .string f.label),
    ("severity", .string f.severity.name), ("observed", number f.observed),
    ("threshold", number f.threshold), ("bound", .string f.bound.name), ("unit", .string f.unit),
    ("flagged", .bool f.flagged), ("exceedance", number f.exceedance)]

/-- The written form. -/
def toJson (f : Finding R) : Value R := f.toJsonWith .real

/-- Read the written form. -/
def ofJson? : Decoder R (Finding R) := record do
  let rule ← field "rule" asString
  let dimension ← field "dimension" (asChoice Dimension.names)
  let label ← field "label" asString
  let severity ← field "severity" (asChoice Severity.names)
  let observed ← field "observed" asReal
  let threshold ← field "threshold" asReal
  let bound ← field "bound" (asChoice Bound.names)
  let unit ← field "unit" asString
  let flagged ← field "flagged" asBool
  let exceedance ← field "exceedance" asReal
  pure { rule, dimension, label, severity, observed, threshold, bound, unit, flagged, exceedance }

/-- **Ranked ahead**: a worse severity first, then the greater exceedance. -/
def ahead (a b : Finding R) : Bool :=
  b.severity.rank < a.severity.rank
    || (a.severity == b.severity && Scalar.lt b.exceedance a.exceedance)

/-- Insert a finding behind all that it is not ahead of, seen from the end of
the ranking; the ranking is held in reverse. -/
def insertRanked (f : Finding R) : List (Finding R) → List (Finding R)
  | [] => [f]
  | last :: rest => if f.ahead last then last :: insertRanked f rest else f :: last :: rest

/-- **The ranking** of findings, those of equal rank in their order. -/
def ranking (findings : List (Finding R)) : List (Finding R) :=
  (findings.foldl (fun ranked f => insertRanked f ranked) []).reverse

end Finding

end HttpBench
