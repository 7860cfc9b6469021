import HttpBench.Diagnosis.Threshold
import HttpBench.Json.Decode
import HttpBench.Logging.Settings
import HttpBench.Run.Plan
import HttpBench.Toml.Parser

/-!
# The configuration file

A configuration has a section for each part of the program and a list of
runs. Every key but the name and the URL of a run has a default. Unknown keys
are ignored; a key of the wrong type makes the whole file malformed. A section
may also be an array with the values of its keys, and a name that is chosen
may also be the only key of an empty table. What is well formed but makes no
sense, such as an unknown method, is found later, when the settings are taken
from the entries.
-/

namespace HttpBench

open Json Number

/-- Nothing, as the value of a name that is chosen: an empty table or array. -/
def isEmptyEntry : Value Float → Bool
  | .object [] | .array [] => true
  | _ => false

/-- **The section on logging**, as written. -/
structure LogEntry where
  directory : Option String := none
  filter : Option String := none
  rotation : Option String := none
  consoleTimestamps : Option Bool := none
  jsonFiles : Option Bool := none
  cleanupDays : Option Nat := none
deriving Inhabited

namespace LogEntry

/-- Read the section. -/
def ofJson? : Decoder Float LogEntry := openRecord do
  let directory ← optionalField "log_dir" asString
  let filter ← optionalField "level_filter" asString
  let rotation ← optionalField "rotation" asString
  let consoleTimestamps ← optionalField "console_timestamps" asBool
  let jsonFiles ← optionalField "file_json_format" asBool
  let cleanupDays ← optionalField "cleanup_days" (asNatBelow range32)
  pure { directory, filter, rotation, consoleTimestamps, jsonFiles, cleanupDays }

/-- **The settings** that the section asks for. -/
def settings (e : LogEntry) : Except SetupError LogSettings := do
  let standard : LogSettings := {}
  let rotation ← match e.rotation with
    | none => pure standard.rotation
    | some name =>
      match Rotation.named? name with
      | some rotation => pure rotation
      | none => throw (.unknownValue "logging.rotation" name)
  pure {
    directory := e.directory.getD standard.directory
    filter := e.filter.getD standard.filter
    rotation
    consoleTimestamps := e.consoleTimestamps.getD standard.consoleTimestamps
    jsonFiles := e.jsonFiles.getD standard.jsonFiles
    cleanupDays := e.cleanupDays.getD standard.cleanupDays }

end LogEntry

/-- **Which transport** sends the requests. -/
inductive TransportKind where
  /-- observes every phase -/
  | instrumented
  /-- observes the total and the transfer -/
  | plain
deriving DecidableEq, Repr, Inhabited

namespace TransportKind

/-- The transports by the names of the configuration. -/
def names : List (String × TransportKind) := [("instrumented", .instrumented), ("reqwest", .plain)]

/-- The name under which a transport reports itself. -/
def name : TransportKind → String
  | .instrumented => "instrumented"
  | .plain => "reqwest"

/-- The name in the log. -/
def title : TransportKind → String
  | .instrumented => "Instrumented"
  | .plain => "Reqwest"

end TransportKind

/-- The most idle connections that are kept for one host, by default. -/
def defaultIdlePerHost : Nat := 256

/-- **The section on the transport.** -/
structure TransportEntry where
  kind : TransportKind := .instrumented
  idlePerHost : Nat := defaultIdlePerHost
deriving Inhabited

/-- Read the section on the transport. -/
def TransportEntry.ofJson? : Decoder Float TransportEntry := openRecord do
  let kind ← fieldOr "kind" (asChoiceAround isEmptyEntry TransportKind.names) .instrumented
  let idlePerHost ← fieldOr "max_idle_per_host" asNat defaultIdlePerHost
  pure { kind, idlePerHost }

/-- **The section on the cache.** -/
structure CacheEntry where
  /-- the most entries, unlimited if absent -/
  capacity : Option Nat := none
  purgeSeconds : Nat := 30
deriving Inhabited

/-- Read the section on the cache. -/
def CacheEntry.ofJson? : Decoder Float CacheEntry := openRecord do
  let capacity ← fieldOr "capacity" (nullable asNat) none
  let purgeSeconds ← fieldOr "purge_interval_secs" asNat 30
  pure { capacity, purgeSeconds }

/-- **The section on the program's own resources.** -/
structure ResourceEntry where
  enabled : Bool := true
  intervalMillis : Nat := 100
deriving Inhabited

namespace ResourceEntry

/-- Read the section. -/
def ofJson? : Decoder Float ResourceEntry := openRecord do
  let enabled ← fieldOr "enabled" asBool true
  let intervalMillis ← fieldOr "sample_interval_ms" asNat 100
  pure { enabled, intervalMillis }

/-- **The time between readings**, none if nothing is to be watched. -/
def interval (e : ResourceEntry) : Option Duration :=
  if e.enabled && 0 < e.intervalMillis then some (.millis e.intervalMillis) else none

end ResourceEntry

/-- **A run**, as written. -/
structure RunEntry where
  name : String
  url : String
  method : String
  headers : List (String × String)
  query : List (String × String)
  body : Option String
  requests : Nat
  concurrency : Nat
  timeoutMillis : Nat
  keepAlive : Bool
  cacheEnabled : Bool
  cacheTtlSeconds : Nat
  warmup : Nat
  iterations : Nat
  deadlineSeconds : Option Nat
  policy : StatusPolicy
deriving Inhabited

namespace RunEntry

/-- Read a run. -/
def ofJson? : Decoder Float RunEntry := openRecord do
  let name ← field "name" asString
  let url ← field "target_url" asString
  let method ← fieldOr "method" asString "GET"
  let headers ← fieldOr "headers" (asTable asString) []
  let query ← fieldOr "query_params" (asTable asString) []
  let body ← optionalField "body" asString
  let requests ← fieldOr "total_requests" asNat 100
  let concurrency ← fieldOr "concurrency" asNat 10
  let timeoutMillis ← fieldOr "timeout_ms" asNat 30000
  let keepAlive ← fieldOr "keep_alive" asBool true
  let cacheEnabled ← fieldOr "cache_enabled" asBool false
  let cacheTtlSeconds ← fieldOr "cache_ttl_secs" asNat 300
  let warmup ← fieldOr "warmup_requests" asNat 0
  let iterations ← fieldOr "iterations" asNat 1
  let deadlineSeconds ← optionalField "deadline_secs" asNat
  let policy ← fieldOr "failure_statuses" (asChoiceAround isEmptyEntry StatusPolicy.names) .non2xx
  pure { name, url, method, headers, query, body, requests, concurrency, timeoutMillis, keepAlive,
         cacheEnabled, cacheTtlSeconds, warmup, iterations, deadlineSeconds, policy }

/-- **The settings** that a run asks for. -/
def settings (e : RunEntry) : Except SetupError RunSettings := do
  let method ← Method.parse e.method
  pure {
    name := e.name
    url := e.url
    method
    headers := e.headers
    query := e.query
    body := e.body
    keepAlive := e.keepAlive
    requests := e.requests
    concurrency := e.concurrency
    timeout := .millis e.timeoutMillis
    cacheEnabled := e.cacheEnabled
    cacheTtl := .seconds e.cacheTtlSeconds
    warmup := e.warmup
    iterations := e.iterations
    deadline := e.deadlineSeconds.map .seconds
    policy := e.policy }

end RunEntry

/-- **A configuration.** -/
structure Config where
  logging : LogEntry
  transport : TransportEntry
  cache : CacheEntry
  resources : ResourceEntry
  thresholds : Thresholds Float
  runs : List RunEntry
deriving Inhabited

namespace Config

/-- Read a configuration from a document of values. -/
def ofJson? : Decoder Float Config := openRecord do
  let logging ← fieldOr "logging" LogEntry.ofJson? {}
  let transport ← fieldOr "transport" TransportEntry.ofJson? {}
  let cache ← fieldOr "cache" CacheEntry.ofJson? {}
  let resources ← fieldOr "resources" ResourceEntry.ofJson? {}
  let thresholds ← fieldOr "thresholds" (openRecord Thresholds.reader) .standard
  let runs ← fieldOr "runs" (asList RunEntry.ofJson?) []
  pure { logging, transport, cache, resources, thresholds, runs }

/-- **Read a configuration** from its text. -/
def parse (text : String) : Except SetupError Config :=
  match Toml.parse? text with
  | some document =>
    match ofJson? document.toJson with
    | some config => .ok config
    | none => .error .malformed
  | none => .error .malformed

/-- Read a configuration from the bytes of a file, which must be a text. -/
def ofBytes (bytes : ByteArray) : Except SetupError Config :=
  match String.fromUTF8? bytes with
  | some text => parse text
  | none => .error (.unreadable "stream did not contain valid UTF-8")

/-- **The settings of all runs** in their order; without any run there is
nothing to do. -/
def runSettings (c : Config) : Except SetupError (List RunSettings) :=
  if c.runs.isEmpty then .error .noRuns else c.runs.mapM RunEntry.settings

/-- The file that is read where nobody names another. -/
def defaultPath : String := "config.toml"

/-- **Which file to read**: the one named as an argument, else the one that the
environment names, else the default. -/
def path (argument environment : Option String) : String :=
  (argument <|> environment).getD defaultPath

end Config

end HttpBench
