import HttpBench.Diagnosis.Rule

/-!
# Diagnoses

A diagnosis evaluates a list of rules against the statistics of a run. Every
rule ends up in exactly one of two lists: its finding among the findings, or
its name among the skipped. The flagged findings are ranked, the one to look
at first in front.
-/

namespace HttpBench

open Json Number

/-- **A diagnosis** of one run. -/
structure Diagnosis (R : Type) where
  /-- the finding of every rule that could be evaluated -/
  findings : List (Finding R)
  /-- the flagged ones, the most important first -/
  flagged : List (Finding R)
  /-- the flagged ones for a reader, in the same order -/
  summary : List String
  /-- the rules that had nothing to look at -/
  skipped : List String
deriving Inhabited

namespace Diagnosis
variable {R : Type} [Scalar R]

/-- **Evaluate the rules.** -/
def ofRules (rules : List (Rule R)) (stats : RunStatistics R) (context : RunContext R)
    (thresholds : Thresholds R) : Diagnosis R :=
  let verdicts := rules.map fun rule => (rule.name, rule.evaluate stats context thresholds)
  let findings := verdicts.filterMap (·.2)
  let flagged := Finding.ranking (findings.filter (·.flagged))
  { findings
    flagged
    summary := flagged.map Finding.text
    skipped := (verdicts.filter (·.2.isNone)).map (·.1) }

/-- A rule is among the flagged. -/
def isFlagged (d : Diagnosis R) (rule : String) : Bool := d.flagged.any (·.rule == rule)

/-- Something was flagged. -/
def hasBottleneck (d : Diagnosis R) : Bool := !d.flagged.isEmpty

/-- The finding of a rule. -/
def finding? (d : Diagnosis R) (rule : String) : Option (Finding R) := d.findings.find? (·.rule == rule)

/-- The written form. -/
def toJson (d : Diagnosis R) : Value R :=
  .object [("findings", .ofList Finding.toJson d.findings), ("flagged", .ofList Finding.toJson d.flagged),
    ("ranked_summary", .ofList .string d.summary), ("skipped", .ofList .string d.skipped)]

/-- Read the written form. -/
def ofJson? : Decoder R (Diagnosis R) := record do
  let findings ← field "findings" (asList Finding.ofJson?)
  let flagged ← field "flagged" (asList Finding.ofJson?)
  let summary ← field "ranked_summary" (asList asString)
  let skipped ← field "skipped" (asList asString)
  pure { findings, flagged, summary, skipped }

end Diagnosis

end HttpBench
