import HttpBench.Logging.Settings
import HttpBench.Time.Duration
import HttpBench.Time.Timestamp

/-!
# Log files

A log file is named for the program, and for the day or the hour in which it
was begun. The log files of a directory are the files whose names begin like
that of the program and contain the mark of a log somewhere. A clean-up removes
those that have not changed for some days, and nothing else.

What counts as a log file is wider than what the program itself would write:
`isLogName` holds of every `fileName`, and of other names too.

The names here are texts, the age of every entry is known, and what is to be
removed can be removed: entries of which that is not so are left out.
-/

namespace HttpBench

/-- **An entry of a directory.** -/
structure DirectoryEntry where
  name : String
  isFile : Bool
  /-- the time since it was last changed -/
  age : Duration
deriving DecidableEq, Repr, Inhabited

/-- **What a clean-up did.** -/
structure CleanUp where
  removed : List DirectoryEntry
  left : List DirectoryEntry
deriving Repr

namespace LogFiles

/-- How the name of every log file begins. -/
def stem : String := "latency_bench"

/-- The mark of a log. -/
def mark : String := ".log"

/-- **The file that is written** at some moment. -/
def fileName (rotation : Rotation) (now : Timestamp) : String :=
  stem ++ mark ++ match rotation with
    | .daily => "." ++ now.dateText
    | .hourly => "." ++ now.dateText ++ "-" ++ now.hourText
    | .never => ""

/-- A text occurs in another one. -/
def occursIn (pattern : List Char) : List Char → Bool
  | [] => pattern.isEmpty
  | c :: cs => pattern.isPrefixOf (c :: cs) || occursIn pattern cs

/-- **The name of a log file.** -/
def isLogName (name : String) : Bool :=
  stem.toList.isPrefixOf name.toList && occursIn mark.toList name.toList

/-- The entry is a log file. -/
def isLogFile (e : DirectoryEntry) : Bool := e.isFile && isLogName e.name

/-- **The log files** of a directory, by their names. -/
def current (entries : List DirectoryEntry) : List DirectoryEntry :=
  (entries.filter isLogFile).mergeSort fun a b => decide (a.name ≤ b.name)

/-- The entry has not changed for more than so many days. -/
def isOutdated (days : Nat) (e : DirectoryEntry) : Bool := days * 86400000000000 < e.age.nanos

/-- **Remove the log files** that have not changed for more than so many days. -/
def cleanUp (days : Nat) (entries : List DirectoryEntry) : CleanUp where
  removed := (current entries).filter (isOutdated days)
  left := entries.filter fun e => !(isLogFile e && isOutdated days e)

end LogFiles

end HttpBench
