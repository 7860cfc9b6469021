import HttpBench.Logging.Filter
import HttpBench.Logging.Line
import HttpBench.Setup.Config
import HttpBench.Simulation.Bench
import HttpBench.Simulation.Network
import HttpBench.Simulation.Refusal
import HttpBench.Storage

/-!
# The program

The program reads a configuration, sets its log up, carries out the runs that
the configuration asks for, and reports on them in the log. It runs where
nothing can be reached: no name resolves, and every connection is refused at
once. So no time passes while it runs, and all it does is a function of what it
finds when it starts.

What goes wrong before the log is set up is reported on the console alone. A
setup that makes no sense ends the program with a failure, which is the last
thing that it prints.
-/

namespace HttpBench

open Simulation

/-- **What the program finds** when it starts. -/
structure Surroundings where
  arguments : List String := []
  /-- the configuration that the environment names -/
  configPath : Option String := none
  /-- the log filter that the environment sets -/
  filter : Option String := none
  files : Storage
  /-- since the first moment of 1970 -/
  now : Instant
  processors : Nat

/-- **What the program leaves behind.** -/
structure ProgramOutcome where
  exitCode : Nat
  output : String
  errors : String
  files : Storage

/-- **A log file.** -/
structure LogFile where
  path : List String
  json : Bool

/-- Write an event to a log file. -/
def LogFile.write (file : LogFile) (now : Timestamp) (e : LogEvent) (files : Storage) : Storage :=
  files.append file.path ((if file.json then e.jsonLine now else e.fileLine now) ++ "\n")

/-- **Where events go.** -/
structure Logger where
  filter : LogFilter
  stamps : StampStyle
  file : Option LogFile := none

/-- **The state of the program.** -/
structure Session where
  now : Timestamp
  files : Storage
  logger : Option Logger := none
  /-- what was printed, the last line in front -/
  output : List String := []
  errors : List String := []

namespace Program

/-- An action of the program, which a setup error ends. -/
abbrev Act := ExceptT SetupError (StateM Session)

/-- Print a line among the errors. -/
def complain (line : String) : Act Unit := modify fun s => { s with errors := line :: s.errors }

/-- **Report an event**, where the log is set up and its filter reports it. -/
def report (e : LogEvent) : Act Unit := modify fun s =>
  match s.logger with
  | none => s
  | some logger =>
    if logger.filter.reports e then
      { s with
        output := e.consoleLine logger.stamps s.now :: s.output
        files := match logger.file with
          | some file => file.write s.now e s.files
          | none => s.files }
    else s

/-- Information from a part of the program. -/
def inform (source : LogSource) (message : String) (facts : List (String × LogValue) := []) : Act Unit :=
  report { level := .info, source, message, facts }

/-! ## The log -/

/-- The filter of the environment, if it can be read. -/
def environmentFilter? (s : Surroundings) : Option LogFilter := s.filter.bind LogFilter.parse?

/-- **Log on the console alone.** -/
def useConsole (s : Surroundings) : Act Unit := do
  let standard := (LogFilter.parse ({} : LogSettings).filter).1
  let filter := (environmentFilter? s).getD standard
  modify fun session => { session with logger := some { filter, stamps := .precise } }
  inform .logging "🖥️ Simple console logging initialized"

/-- The filter of the settings. What cannot be read of it is left out. -/
def settingsFilter (settings : LogSettings) : Act LogFilter := do
  let (filter, invalid) := LogFilter.parse settings.filter
  for (part, e) in invalid do
    complain ("ignoring `" ++ part ++ "`: " ++ e.message)
  pure filter

/-- **Log on the console and to a file**, each through a filter of its own. -/
def useFile (s : Surroundings) (settings : LogSettings) (files : Storage) : Act Unit := do
  let filter ← match environmentFilter? s with
    | some filter => pure filter
    | none => do
      let _ ← settingsFilter settings
      settingsFilter settings
  let name := LogFiles.fileName settings.rotation (← get).now
  let place := match files.follow (Storage.join settings.directory name) with
    | .ok (.inside path) => some path
    | _ => none
  let logger : Logger :=
    { filter
      stamps := if settings.consoleTimestamps then .readable else .hidden
      file := place.map fun path => { path, json := settings.jsonFiles } }
  let files := (place.map files.touch).getD files
  modify fun session => { session with files, logger := some logger }
  inform .logging "📁 Dual logging initialized - console + rotating files"
    [("log_dir", .plain settings.directory), ("rotation", .plain settings.rotation.name),
      ("json_format", .truth settings.jsonFiles)]

/-- **Set the log up**, on the console alone if there is no place for the files. -/
def startLog (s : Surroundings) (settings : LogSettings) : Act Unit := do
  match (← get).files.makeDirectory settings.directory with
  | .ok files => useFile s settings files
  | .error e =>
    let reason := "IO error: " ++ e.message
    complain ("❌ Failed to initialize logging system: " ++ reason)
    useConsole s
    report { level := .warn, source := .program,
             message := "⚠️ Using fallback console-only logging due to error: " ++ reason }

/-- **Remove log files** that are too old. -/
def cleanUp (settings : LogSettings) : Act Unit := do
  let directory := settings.directory
  let removed := (LogFiles.cleanUp settings.cleanupDays ((← get).files.entries directory)).removed
  for e in removed do
    let path := Storage.join directory e.name
    modify fun s => { s with files := s.files.remove path }
    report { level := .debug, source := .logging, message := "🗑️ Removed old log file: " ++ Text.quoted path }
  if !removed.isEmpty then
    inform .logging ("🧹 Cleaned up " ++ Nat.repr removed.length ++ " old log files (older than "
      ++ Nat.repr settings.cleanupDays ++ " days)")

/-- Report where the program runs. -/
def describeSystem (s : Surroundings) : Act Unit := do
  inform .logging "📊 Environment information logged"
    [("package_version", .quoted "0.1.0"), ("target_arch", .quoted "x86_64"), ("target_os", .quoted "linux")]
  inform .logging "🖥️ Hardware information logged" [("cpu_count", .number s.processors)]

/-! ## The runs -/

/-- **Load the configuration.** -/
def loadConfig (s : Surroundings) : Act Config := do
  let path := Config.path s.arguments.head? s.configPath
  let config := match s.files.read path with
    | .ok bytes => Config.ofBytes bytes
    | .error e => .error (.unreadable e.message)
  match config with
  | .ok config => pure config
  | .error e =>
    useConsole s
    report { level := .error, source := .program, message := "❌ Failed to load " ++ path ++ ": " ++ e.message }
    throw e

/-- The directory for the log files that a configuration names. -/
def logDirectory? (bytes : ByteArray) : Option String :=
  match Config.ofBytes bytes with
  | .ok config => config.logging.settings.toOption.map (·.directory)
  | .error _ => none

/-- What the loaded configuration says. -/
def describeConfig (s : Surroundings) (config : Config) (runs : Nat) : Act Unit := do
  let capacity := match config.cache.capacity with
    | some n => "Some(" ++ Nat.repr n ++ ")"
    | none => "None"
  inform .program "🔧 Configuration loaded"
    [("config", .plain (Config.path s.arguments.head? s.configPath)), ("runs", .number runs),
      ("transport", .plain config.transport.kind.title), ("cache_capacity", .plain capacity)]
  match config.transport.kind with
  | .instrumented =>
    inform .instrumented ("🔌 Instrumented transport ready (max idle per host: "
      ++ Nat.repr config.transport.idlePerHost ++ ")")
  | .plain => inform .plainTransport "🔌 reqwest transport ready"

/-- **Carry out the runs** over a transport, if nothing is wrong with any of them: their outcome, what was
reported on the way, and the shared cache afterwards. -/
def carryOut {N : Type} [Carrier N] (net : N) (s : Surroundings) (config : Config) (runs : List RunSettings) :
    Except SetupError (Except Fault SuiteOutcome) × List LogEvent × Option ResponseCache :=
  let act : Bench.Act N _ := Suite.attempt Bench.venue config.resources.interval runs
  let (made, w) := act.run (Bench.world net (some (.empty config.cache.capacity)) s.now)
  (made.map (Suite.outcome (Carrier.name N) Rule.standard config.thresholds), w.state.events, w.state.shared)

/-- Carry out the runs over the transport that the configuration names. -/
def carryOutRuns (s : Surroundings) (config : Config) (runs : List RunSettings) :
    Except SetupError (Except Fault SuiteOutcome) × List LogEvent × Option ResponseCache :=
  match config.transport.kind with
  | .instrumented => carryOut ({ client := .ofRoom config.transport.idlePerHost } : Network) s config runs
  | .plain => carryOut ({} : Refusal) s config runs

/-- **Report on the runs.** -/
def describeOutcome (outcome : SuiteOutcome) : Act Unit := do
  for r in outcome.reports do
    r.summaryEvents.forM report
    inform .program (Json.Document.pretty r.toJson)
  for c in outcome.comparisons do
    c.summaryEvents.forM report

/-- The shared cache in figures. -/
def describeCache (cache : Option ResponseCache) : Act Unit := do
  let counts := (cache.getD {}).store.counts
  inform .program "🗄️ Shared cache statistics"
    [("hits", .number counts.hits), ("misses", .number counts.misses), ("evictions", .number counts.evictions),
      ("expirations", .number counts.expirations)]

/-- What is reported of the cache being purged from time to time, all at the
end: a thread of its own reports it. -/
def describePurge (config : Config) (stopped : Bool) : Act Unit := do
  if 0 < config.cache.purgeSeconds then
    let interval := (Duration.seconds config.cache.purgeSeconds).text
    inform .cache ("🧹 Cache purge task started (interval: " ++ interval ++ ")")
    if stopped then report { level := .debug, source := .cache, message := "Cache purge task stopped" }

/-- **The whole program.** The answer is a fault if it has one. -/
def body (s : Surroundings) : Act (Option Fault) := do
  let config ← loadConfig s
  let settings ← liftExcept config.logging.settings
  startLog s settings
  cleanUp settings
  describeSystem s
  let runs ← liftExcept config.runSettings
  describeConfig s config runs.length
  inform .program "🚀 Starting latency benchmark"
  let (outcome, events, cache) := carryOutRuns s config runs
  events.forM report
  match outcome with
  | .error e =>
    describePurge config false
    throw e
  | .ok (.error fault) => pure (some fault)
  | .ok (.ok outcome) =>
    describeOutcome outcome
    describeCache cache
    if outcome.cancelled then
      report { level := .warn, source := .program,
               message := "⚠️ Benchmark interrupted; partial results reported above" }
    inform .program "🏁 Benchmark completed"
    describePurge config true
    pure none
where
  liftExcept {A : Type} : Except SetupError A → Act A
    | .ok a => pure a
    | .error e => throw e

/-- Lines as a text. -/
def textOf (lines : List String) : String := String.join (lines.reverse.map (· ++ "\n"))

/-- **Run the program.** -/
def run (s : Surroundings) : ProgramOutcome :=
  let (result, session) := (body s).run.run { now := .ofInstant s.now, files := s.files }
  let (exitCode, errors) := match result with
    | .ok none => (0, session.errors)
    | .ok (some _) => (101, session.errors)
    | .error e => (1, ("Error: Config(" ++ e.record ++ ")") :: session.errors)
  { exitCode, output := textOf session.output, errors := textOf errors, files := session.files }

end Program

end HttpBench
