/-!
# Logging settings

Where log lines go, which of them, and how long old log files are kept.
-/

namespace HttpBench

/-- **When a new log file is begun.** -/
inductive Rotation where
  | daily
  | hourly
  | never
deriving DecidableEq, Repr, Inhabited

namespace Rotation

/-- The name of a rotation. -/
def name : Rotation → String
  | .daily => "Daily"
  | .hourly => "Hourly"
  | .never => "Never"

/-- A rotation by its name in any case of letters. -/
def named? (text : String) : Option Rotation :=
  [Rotation.daily, .hourly, .never].find? fun r => r.name.toLower == text.toLower

end Rotation

/-- **How a program logs.** -/
structure LogSettings where
  directory : String := "logs"
  filter : String := "info,latency_bench=info"
  rotation : Rotation := .daily
  consoleTimestamps : Bool := true
  jsonFiles : Bool := true
  cleanupDays : Nat := 30
deriving DecidableEq, Repr, Inhabited

end HttpBench
