import HttpBench.Cache.Counts
import HttpBench.Diagnosis.Basic
import HttpBench.Http.Method
import HttpBench.Logging.Event
import HttpBench.Time.Timestamp

/-!
# Reports

Everything that is known about one measured run, in three forms: a document
that can be read back, a flat record for tables, and lines for the log.
Durations are in milliseconds.
-/

namespace HttpBench

open Json Number

/-- **A report** on one run. -/
structure RunReport (R : Type) where
  name : String
  /-- which time it is that the run was made, from one -/
  iteration : Nat
  url : String
  method : Method
  transport : String
  started : Timestamp
  requests : Nat
  concurrency : Nat
  timeout : Duration
  cacheEnabled : Bool
  keepAlive : Bool
  cancelled : Bool
  peak : Nat
  statistics : RunStatistics R
  diagnosis : Diagnosis R
  resources : Option (ResourceUsage R)
  cache : Option CacheCounts

namespace RunReport
variable {R : Type} [Scalar R]

/-- The written form. -/
def toJson (r : RunReport R) : Value R :=
  .object [("name", .string r.name), ("iteration", .nat r.iteration), ("target", .string r.url),
    ("method", .string r.method.name), ("transport", .string r.transport), ("started_at", .string r.started.text),
    ("total_requests", .nat r.requests), ("concurrency", .nat r.concurrency), ("timeout_ms", .real r.timeout.toMillis),
    ("cache_enabled", .bool r.cacheEnabled), ("keep_alive", .bool r.keepAlive), ("cancelled", .bool r.cancelled),
    ("peak_in_flight", .nat r.peak), ("statistics", r.statistics.toJson), ("classification", r.diagnosis.toJson),
    ("resources", .ofOption ResourceUsage.toJson r.resources), ("cache", .ofOption CacheCounts.toJson r.cache)]

/-- Read the written form. -/
def ofJson? : Decoder R (RunReport R) := record do
  let name ← field "name" asString
  let iteration ← field "iteration" asNat
  let url ← field "target" asString
  let method ← field "method" Method.ofJson?
  let transport ← field "transport" asString
  let started ← field "started_at" fun v => asString v >>= Timestamp.parse?
  let requests ← field "total_requests" asNat
  let concurrency ← field "concurrency" asNat
  let timeout ← field "timeout_ms" fun v => (asReal v).map Duration.ofMillis
  let cacheEnabled ← field "cache_enabled" asBool
  let keepAlive ← field "keep_alive" asBool
  let cancelled ← field "cancelled" asBool
  let peak ← field "peak_in_flight" asNat
  let statistics ← field "statistics" RunStatistics.ofJson?
  let diagnosis ← field "classification" Diagnosis.ofJson?
  let resources ← optionalField "resources" ResourceUsage.ofJson?
  let cache ← optionalField "cache" CacheCounts.ofJson?
  pure { name, iteration, url, method, transport, started, requests, concurrency, timeout, cacheEnabled,
         keepAlive, cancelled, peak, statistics, diagnosis, resources, cache }

/-- The figures of a summary under names that begin alike. -/
def summaryColumns (about : String) (s : LatencySummary R) : List (String × Value R) :=
  [("_min_ms", s.min), ("_mean_ms", s.mean), ("_p50_ms", s.p50), ("_p95_ms", s.p95), ("_p99_ms", s.p99),
    ("_max_ms", s.max), ("_stddev_ms", s.deviation)].map fun c => (about ++ c.1, .real c.2)

/-- **The flat record** of a report: what was not observed has no column. -/
def toRecord (r : RunReport R) : Value R :=
  let s := r.statistics
  let latency := (s.latency.map (summaryColumns "latency")).getD []
  let phases := Phase.all.flatMap fun p => ((s.phases.get p).map (summaryColumns p.name)).getD []
  .object ([("name", .string r.name), ("iteration", .nat r.iteration), ("target", .string r.url),
    ("method", .string r.method.name), ("total", .nat s.samples), ("success", .nat s.successes),
    ("failure", .nat s.failures), ("incomplete", .nat s.incomplete), ("throughput_rps", .real s.throughput),
    ("error_rate", .real s.errorRate), ("cache_hit_ratio", .real s.cacheHitRatio),
    ("connection_reuse_ratio", .ofOption .real s.reuseRatio), ("connection_observations", .nat s.reuseKnown)]
    ++ latency ++ phases ++ [("flags", .ofList (fun f => .string f.label) r.diagnosis.flagged)])

/-- A number to so many places. -/
def fixed (places : Nat) (x : R) : String := Scalar.places places x false

/-- The line on the latency. -/
def latencyLine (s : LatencySummary R) : String :=
  "⏱️ latency ms: min " ++ fixed 2 s.min ++ " | mean " ++ fixed 2 s.mean ++ " | p50 " ++ fixed 2 s.p50 ++ " | p95 "
    ++ fixed 2 s.p95 ++ " | p99 " ++ fixed 2 s.p99 ++ " | max " ++ fixed 2 s.max ++ " | sd " ++ fixed 2 s.deviation

/-- The line on a phase. -/
def phaseLine (p : Phase) (s : LatencySummary R) : String :=
  "   " ++ padRight 8 p.name ++ " mean " ++ fixed 2 s.mean ++ "ms p95 " ++ fixed 2 s.p95 ++ "ms (n="
    ++ Nat.repr s.count ++ ")"

/-- The line on the whole run. -/
def headLine (r : RunReport R) : String :=
  let s := r.statistics
  "📊 " ++ r.name ++ " #" ++ Nat.repr r.iteration ++ ": " ++ Nat.repr s.samples ++ " requests, " ++ Nat.repr s.successes
    ++ " ok, " ++ Nat.repr s.failures ++ " failed (" ++ fixed 1 (s.errorRate * ofInt 100) ++ "% errors), "
    ++ fixed 1 s.throughput ++ " req/s"

/-- **The report for the log**: figures as information, what is wrong as warnings. -/
def summaryEvents (r : RunReport R) : List LogEvent :=
  let info := fun message => ({ level := .info, source := .report, message } : LogEvent)
  let warn := fun message => ({ level := .warn, source := .report, message } : LogEvent)
  let s := r.statistics
  [info r.headLine] ++ (s.latency.map fun l => info (latencyLine l)).toList
    ++ Phase.all.filterMap (fun p => (s.phases.get p).map fun l => info (phaseLine p l))
    ++ (if r.cancelled then [warn ("⚠️ " ++ Nat.repr s.incomplete ++ " requests incomplete due to cancellation")] else [])
    ++ r.diagnosis.summary.map fun line => warn ("🚩 " ++ line)

end RunReport

end HttpBench
