import HttpBench.Diagnosis.Finding
import HttpBench.Diagnosis.Resource
import HttpBench.Diagnosis.Threshold
import HttpBench.Statistics.Run

/-!
# Rules

A rule picks one figure of a run and the limit it is held against. A rule
whose figure the run does not offer makes no finding; it never guesses.
-/

namespace HttpBench

open Number

/-- **What is known about a run** beyond its statistics. -/
structure RunContext (R : Type) where
  cacheEnabled : Bool := false
  keepAlive : Bool := true
  /-- workers, each of which opens at least one connection -/
  concurrency : Nat := 1
  resources : Option (ResourceUsage R) := none

instance {R : Type} : Inhabited (RunContext R) := ⟨{}⟩

/-- **A rule**: a name and a finding, where the figure is available. -/
structure Rule (R : Type) where
  name : String
  evaluate : RunStatistics R → RunContext R → Thresholds R → Option (Finding R)

namespace Rule
variable {R : Type} [Scalar R]

/-- The mean time of a phase must stay below its limit. -/
def phaseLatency (name : String) (phase : Phase) (dimension : Dimension) (label : String)
    (limit : Thresholds R → R) : Rule R where
  name
  evaluate stats _ thresholds :=
    (stats.phases.get phase).map fun summary =>
      .evaluate name dimension label summary.mean (limit thresholds) .max "ms"

/-- Name resolution is slow. -/
def dnsLatency : Rule R := phaseLatency "dns_latency" .dns .network "DNS resolution slow" (·.dnsMs)

/-- Connecting is slow. -/
def connectLatency : Rule R :=
  phaseLatency "connect_latency" .connect .network "Connection setup slow" (·.connectMs)

/-- The handshake is slow. -/
def tlsLatency : Rule R := phaseLatency "tls_latency" .tls .network "TLS handshake slow" (·.tlsMs)

/-- The server is slow to answer. -/
def ttfbLatency : Rule R := phaseLatency "ttfb_latency" .ttfb .application "Server response slow" (·.ttfbMs)

/-- **Connections are reused.** Only where they are kept alive, and only when
there are more requests than workers, since each worker's first request
needs a new connection. -/
def connectionReuse : Rule R where
  name := "connection_reuse"
  evaluate stats context thresholds :=
    if !context.keepAlive || stats.reuseKnown ≤ context.concurrency then none
    else stats.reuseRatio.map fun ratio =>
      .evaluate "connection_reuse" .network "Connection reuse poor" ratio thresholds.minReuse .min "%"

/-- The cache is hit, where there is one. -/
def cacheEffectiveness : Rule R where
  name := "cache_effectiveness"
  evaluate stats context thresholds :=
    if !context.cacheEnabled || !stats.hasSamples then none
    else some (.evaluate "cache_effectiveness" .cache "Cache ineffective" stats.cacheHitRatio
      thresholds.minCacheHits .min "%")

/-- Few requests fail. -/
def errorRate : Rule R where
  name := "error_rate"
  evaluate stats _ thresholds :=
    if !stats.hasSamples then none
    else some (.evaluate "error_rate" .application "Error rate high" stats.errorRate
      thresholds.maxErrorRate .max "%")

/-- The latency varies little, which takes two responses to tell. -/
def latencyJitter : Rule R where
  name := "latency_jitter"
  evaluate stats _ thresholds := do
    let latency ← stats.latency
    if latency.count < 2 then none
    let variation ← stats.variation
    some (.evaluate "latency_jitter" .network "Latency jitter high" variation thresholds.maxVariation .max "")

/-- The program itself uses little memory, where it was watched. -/
def memoryPressure : Rule R where
  name := "memory_pressure"
  evaluate _ context thresholds :=
    context.resources.map fun usage =>
      .evaluate "memory_pressure" .resource "Memory pressure" usage.peakMegabytes thresholds.maxMemoryMb
        .max "MB"

/-- The second protocol version is negotiated, where a limit is set. -/
def http2Usage : Rule R where
  name := "http2_usage"
  evaluate stats _ thresholds := do
    let minimum ← thresholds.minHttp2
    let ratio ← stats.http2Ratio
    some (.evaluate "http2_usage" .protocol "HTTP/2 not negotiated" ratio minimum .min "%")

/-- **The built-in rules** in the order in which they are evaluated. -/
def standard : List (Rule R) :=
  [dnsLatency, connectLatency, tlsLatency, ttfbLatency, connectionReuse, cacheEffectiveness, errorRate,
    latencyJitter, memoryPressure, http2Usage]

/-- A built-in rule by name. -/
def named? (name : String) : Option (Rule R) := standard.find? (·.name == name)

end Rule

end HttpBench
