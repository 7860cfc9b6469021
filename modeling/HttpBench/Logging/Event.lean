/-!
# Log events

What the program reports while it runs: a message of some level from one part
of the program, with named facts beside it. How an event is written is up to
whoever writes it.
-/

namespace HttpBench

/-- **How much an event matters**, the most important first. -/
inductive LogLevel where
  | error
  | warn
  | info
  | debug
  | trace
deriving DecidableEq, Repr, Inhabited

namespace LogLevel

/-- The name of a level. -/
def name : LogLevel → String
  | .error => "ERROR"
  | .warn => "WARN"
  | .info => "INFO"
  | .debug => "DEBUG"
  | .trace => "TRACE"

/-- How much detail a level stands for. -/
def detail : LogLevel → Nat
  | .error => 1
  | .warn => 2
  | .info => 3
  | .debug => 4
  | .trace => 5

end LogLevel

/-- **A fact beside a message.** -/
inductive LogValue where
  /-- a text that is shown as it is -/
  | plain (text : String)
  /-- a text that is shown between quotes -/
  | quoted (text : String)
  | number (n : Nat)
  | truth (b : Bool)
deriving DecidableEq, Repr, Inhabited

/-- **The parts of the program** that report. -/
inductive LogSource where
  | program
  | logging
  | instrumented
  | plainTransport
  | suite
  | dispatcher
  | executor
  | report
  | cache
  | resources
deriving DecidableEq, Repr, Inhabited

namespace LogSource

/-- The name of a part in the log. -/
def name : LogSource → String
  | .program => "latency_bench"
  | .logging => "latency_bench::logging"
  | .instrumented => "latency_bench::transport::instrumented"
  | .plainTransport => "latency_bench::transport::reqwest_client"
  | .suite => "latency_bench::suite"
  | .dispatcher => "latency_bench::dispatcher"
  | .executor => "latency_bench::executor"
  | .report => "latency_bench::report"
  | .cache => "latency_bench::cache"
  | .resources => "latency_bench::resources"

end LogSource

/-- **A log event.** -/
structure LogEvent where
  level : LogLevel
  source : LogSource
  message : String
  facts : List (String × LogValue) := []
deriving DecidableEq, Repr, Inhabited

/-- The names of the fields of an event: that of the message, and those of the facts. -/
def LogEvent.fieldNames (e : LogEvent) : List String := "message" :: e.facts.map (·.1)

end HttpBench
