import HttpBench.Json.Printer
import HttpBench.Logging.Event
import HttpBench.Number.Places
import HttpBench.Text.Quoted
import HttpBench.Time.Timestamp

/-!
# Log lines

An event is written for a reader, with the time, the level, the part of the
program, the message and the facts; or as a JSON object with the same things
under names. Lines that go to a file also name the thread.
-/

namespace HttpBench

open Json Number

namespace LogValue

/-- A fact for a reader. -/
def text : LogValue → String
  | .plain text => text
  | .quoted text => Text.quoted text
  | .number n => Nat.repr n
  | .truth b => if b then "true" else "false"

/-- A fact in a JSON object. -/
def toJson : LogValue → Document
  | .plain text | .quoted text => .string text
  | .number n => .nat n
  | .truth b => .bool b

end LogValue

/-- **How a line shows the time.** -/
inductive StampStyle where
  | hidden
  /-- to the millisecond, for a reader -/
  | readable
  /-- to the microsecond -/
  | precise
deriving DecidableEq, Repr, Inhabited

/-- **The thread** on which a part of the program reports: requests and the
purging of the cache have threads of their own. -/
def LogSource.thread : LogSource → String × Nat
  | .executor | .cache => ("tokio-rt-worker", 2)
  | _ => ("main", 1)

/-- The time in a line. -/
def StampStyle.text (style : StampStyle) (now : Timestamp) : String :=
  match style with
  | .hidden => ""
  | .readable => now.stamp " " 3 ++ " UTC"
  | .precise => now.stamp "T" 6 ++ "Z"

namespace LogEvent

/-- A character of a message. Those that a terminal would obey are written by
their numbers. -/
def messageChar (c : Char) : String :=
  if c == '\x07' || c == '\x08' || c == '\x0c' || c == '\x1b' || c == '\x7f' then
    "\\x" ++ padLeft '0' 2 (String.ofList (Nat.toDigits 16 c.toNat))
  else if 0x80 ≤ c.toNat && c.toNat ≤ 0x9F then Text.numbered c
  else c.toString

/-- A message as a reader sees it. -/
def messageText (e : LogEvent) : String := String.join (e.message.toList.map messageChar)

/-- The message with the facts behind it. -/
def body (e : LogEvent) : String :=
  " ".intercalate (e.messageText :: e.facts.map fun f => f.1 ++ "=" ++ f.2.text)

/-- A line, with something between the level and the part of the program. -/
def lineWith (thread : String) (stamp : String) (e : LogEvent) : String :=
  stamp ++ " " ++ padLeft ' ' 5 e.level.name ++ " " ++ thread ++ e.source.name ++ ": " ++ e.body

/-- **The line on the console.** -/
def consoleLine (style : StampStyle) (now : Timestamp) (e : LogEvent) : String := lineWith "" (style.text now) e

/-- **The line in a text file.** -/
def fileLine (now : Timestamp) (e : LogEvent) : String :=
  let (name, number) := e.source.thread
  lineWith (name ++ " ThreadId(" ++ padLeft '0' 2 (Nat.repr number) ++ ") ") (StampStyle.readable.text now) e

/-- **The line in a JSON file.** -/
def jsonLine (now : Timestamp) (e : LogEvent) : String :=
  let fields : List (String × Document) := ("message", .string e.message) :: e.facts.map fun f => (f.1, f.2.toJson)
  Document.compact (.object [("timestamp", .string (now.stamp "T" 3 ++ "Z")), ("level", .string e.level.name),
    ("fields", .object fields), ("target", .string e.source.name), ("threadName", .string e.source.thread.1),
    ("threadId", .string ("ThreadId(" ++ Nat.repr e.source.thread.2 ++ ")"))])

end LogEvent

end HttpBench
