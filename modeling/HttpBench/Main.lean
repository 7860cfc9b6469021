import HttpBench.Program

/-!
# The command line

Gathers what the program finds, runs it, and does what it says: prints, writes
and removes files. The only argument that counts is the path of the
configuration.
-/

namespace HttpBench.CommandLine

/-- A time of the file system. -/
def instantOf (time : IO.FS.SystemTime) : Instant := ⟨time.sec.toNat * 1000000000 + time.nsec.toNat⟩

/-- The time of the wall clock, as the file system has it. -/
def wallClock : IO Instant := IO.FS.withTempFile fun _ path => do pure (instantOf (← path.metadata).modified)

/-- How many processors there are. -/
def processors : IO Nat := do
  try
    let lines ← IO.FS.lines "/proc/cpuinfo"
    pure (max 1 (lines.toList.countP fun line => line.startsWith "processor"))
  catch _ => pure 1

/-- The path of a place from the root of everything. -/
def rootPath (place : List String) : String := "/" ++ Storage.pathText place

/-- The places that a path leads through, the last in front. -/
def placesOn (start : List String) (path : String) : List (List String) :=
  let first := if Storage.isAbsolute path then [] else start
  (Storage.names path).foldl (fun places name =>
    let place := places.headD first
    (if name == ".." then place.dropLast else place ++ [name]) :: places) [first]

/-- What stands at a place, added to what is known. -/
def look (now : Instant) (known : Storage) (place : List String) : IO Storage := do
  let path := (← IO.currentDir) / rootPath place
  if ← path.isDir then pure { known with directories := place :: known.directories }
  else if (known.file? place).isSome || !(← path.pathExists) then pure known
  else
    let changed := instantOf (← path.metadata).modified
    let file : StoredFile := { path := place, bytes := ← IO.FS.readBinFile path, age := now.since changed }
    pure { known with files := known.files ++ [file] }

/-- What stands on the way to the end of a path. -/
def lookOn (now : Instant) (known : Storage) (path : String) : IO Storage :=
  (placesOn (known.start.getD []) path).foldlM (look now) known

/-- What stands on the way to a directory and in it. -/
def lookIn (now : Instant) (known : Storage) (directory : String) : IO Storage := do
  let known ← lookOn now known directory
  let place := (placesOn (known.start.getD []) directory).headD []
  let path := (← IO.currentDir) / rootPath place
  if ← path.isDir then
    (← path.readDir).toList.foldlM (fun known entry => look now known (place ++ [entry.fileName])) known
  else pure known

/-- **What the program finds.** -/
def surroundings (arguments : List String) : IO Surroundings := do
  let now ← wallClock
  let configPath ← IO.getEnv "LATENCY_BENCH_CONFIG"
  let path := Config.path arguments.head? configPath
  let known ← lookOn now { start := some (Storage.names (← IO.currentDir).toString) } path
  let files ← match (known.read path).toOption.bind Program.logDirectory? with
    | some directory => lookIn now known directory
    | none => pure known
  pure { arguments, configPath, filter := ← IO.getEnv "RUST_LOG", files, now, processors := ← processors }

/-- **Make the stored files what the program leaves.** -/
def store (before after : Storage) : IO Unit := do
  for place in after.directories do
    if !before.isDirectory place then IO.FS.createDirAll (rootPath place)
  for f in before.files do
    if (after.file? f.path).isNone then IO.FS.removeFile (rootPath f.path)
  for f in after.files do
    if ((before.file? f.path).map fun old => old.bytes == f.bytes) != some true then
      IO.FS.writeBinFile (rootPath f.path) f.bytes

end HttpBench.CommandLine

open HttpBench in
def main (arguments : List String) : IO UInt32 := do
  let found ← CommandLine.surroundings arguments
  let outcome := Program.run found
  IO.print outcome.output
  IO.eprint outcome.errors
  CommandLine.store found.files outcome.files
  pure outcome.exitCode.toUInt32
