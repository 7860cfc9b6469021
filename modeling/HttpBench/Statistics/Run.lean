import HttpBench.Sample.Basic
import HttpBench.Statistics.Latency
import HttpBench.Statistics.Tally

/-!
# Statistics of a run

All samples of a run in one record of figures. Latencies are those of the
samples with a complete response; a transport failure counts towards the
error rate, and the phases it got through count with the phases. What a
sample from the cache says about connections and protocols is left out: it
used none.
-/

namespace HttpBench

open Json Number

/-- **The figures of a run.** -/
structure RunStatistics (R : Type) where
  /-- requests that left a sample -/
  samples : Nat
  successes : Nat
  applicationErrors : Nat
  transportErrors : Nat
  failures : Nat
  cacheHits : Nat
  /-- requests that were cut off or never started -/
  incomplete : Nat
  /-- failures among the samples -/
  errorRate : R
  elapsed : Duration
  /-- successes a second -/
  throughput : R
  /-- complete responses a second -/
  responseThroughput : R
  cacheHitRatio : R
  /-- reused connections among those known to be reused or new -/
  reuseRatio : Option R
  /-- samples whose connection is known to be reused or new -/
  reuseKnown : Nat
  /-- responses over the second protocol version among those with a known protocol -/
  http2Ratio : Option R
  bytes : Nat
  bytesPerSecond : R
  latency : Option (LatencySummary R)
  /-- coefficient of variation of the latency -/
  variation : Option R
  phases : PhaseSummaries R
  statuses : Tally Nat
  errors : Tally String
deriving Inhabited

namespace RunStatistics
variable {R : Type} [Scalar R]

/-- A share of a whole that is not empty. -/
def ratio? (part whole : Nat) : Option R :=
  if whole = 0 then none else some (Scalar.quotient part whole)

/-- An amount a second, zero over no time. -/
def perSecond (amount : Nat) (elapsed : Duration) : R :=
  let seconds : R := elapsed.toSeconds
  if Scalar.lt Scalar.zero seconds then ofInt amount / seconds else Scalar.zero

/-- The summary of the samples in which a phase was observed. -/
def phaseSummary (samples : List Sample) (phase : Phase) : Except Fault (Option (LatencySummary R)) :=
  LatencySummary.ofDurations (samples.filterMap fun s => s.phases.get phase)

/-- **The figures of the samples** of a run that lasted `elapsed`. The bytes
must fit 64 bits. -/
def ofSamples (samples : List Sample) (elapsed : Duration) : Except Fault (RunStatistics R) := do
  let answered := samples.filter fun s => s.outcome.hasResponse
  let network := samples.filter fun s => !s.fromCache
  let successes := samples.countP fun s => s.outcome.isSuccess
  let transportErrors := samples.countP fun s => !s.outcome.hasResponse
  let applicationErrors := samples.countP fun s => s.outcome.hasResponse && !s.outcome.isSuccess
  let failures := applicationErrors + transportErrors
  let cacheHits := samples.countP fun s => s.fromCache
  let reuse := network.filterMap fun s => s.phases.reused
  let protocols := network.filterMap fun s => s.protocol
  let bytes : Nat := samples.foldr (fun s total => s.bytes + total) 0
  if range64 ≤ bytes then throw .overflow
  let dns ← phaseSummary samples .dns
  let connect ← phaseSummary samples .connect
  let tls ← phaseSummary samples .tls
  let ttfb ← phaseSummary samples .ttfb
  let transfer ← phaseSummary samples .transfer
  let latency ← LatencySummary.ofDurations (answered.map fun s => s.total)
  pure {
    samples := samples.length
    successes
    applicationErrors
    transportErrors
    failures
    cacheHits
    incomplete := 0
    errorRate := (ratio? failures samples.length).getD Scalar.zero
    elapsed
    throughput := perSecond successes elapsed
    responseThroughput := perSecond (successes + applicationErrors) elapsed
    cacheHitRatio := (ratio? cacheHits samples.length).getD Scalar.zero
    reuseRatio := ratio? (reuse.countP fun reused => reused) reuse.length
    reuseKnown := reuse.length
    http2Ratio := ratio? (protocols.countP fun p => p.startsWith "HTTP/2") protocols.length
    bytes
    bytesPerSecond := perSecond bytes elapsed
    latency
    variation := latency.bind LatencySummary.variation?
    phases := { dns, connect, tls, ttfb, transfer }
    statuses := Tally.ofList (samples.filterMap fun s => s.outcome.status?)
    errors := Tally.ofList (samples.filterMap fun s => s.outcome.failure?.map Failure.kind) }

/-- There is at least one sample. -/
def hasSamples (s : RunStatistics R) : Bool := 0 < s.samples

/-- The written form. -/
def toJson (s : RunStatistics R) : Value R :=
  .object [("total_samples", .nat s.samples), ("success_count", .nat s.successes),
    ("application_error_count", .nat s.applicationErrors), ("transport_error_count", .nat s.transportErrors),
    ("failure_count", .nat s.failures), ("cache_hits", .nat s.cacheHits), ("incomplete", .nat s.incomplete),
    ("error_rate", .real s.errorRate), ("elapsed_ms", .real s.elapsed.toMillis),
    ("throughput_rps", .real s.throughput), ("response_throughput_rps", .real s.responseThroughput),
    ("cache_hit_ratio", .real s.cacheHitRatio), ("connection_reuse_ratio", .ofOption .real s.reuseRatio),
    ("connection_observations", .nat s.reuseKnown), ("http2_ratio", .ofOption .real s.http2Ratio),
    ("total_bytes", .nat s.bytes), ("bytes_per_second", .real s.bytesPerSecond),
    ("latency", .ofOption LatencySummary.toJson s.latency), ("latency_cv", .ofOption .real s.variation),
    ("phases", s.phases.toJson),
    ("status_counts", .ofTable .nat (s.statuses.map fun e => (Nat.repr e.1, e.2))),
    ("error_breakdown", .ofTable .nat s.errors)]

/-- Read a tally of statuses, in the order of the statuses. -/
def statusesOfJson? : Decoder R (Tally Nat) := fun v => do
  let entries ← asTable asNat v
  let entries ← entries.mapM fun e => (numeralBelow? range16 e.1).map fun status => (status, e.2)
  some (entries.mergeSort fun a b => decide (a.1 ≤ b.1))

/-- Read the written form. -/
def ofJson? : Decoder R (RunStatistics R) := record do
  let samples ← field "total_samples" asNat
  let successes ← field "success_count" asNat
  let applicationErrors ← field "application_error_count" asNat
  let transportErrors ← field "transport_error_count" asNat
  let failures ← field "failure_count" asNat
  let cacheHits ← field "cache_hits" asNat
  let incomplete ← field "incomplete" asNat
  let errorRate ← field "error_rate" asReal
  let elapsed ← field "elapsed_ms" fun v => (asReal v).map Duration.ofMillis
  let throughput ← field "throughput_rps" asReal
  let responseThroughput ← field "response_throughput_rps" asReal
  let cacheHitRatio ← field "cache_hit_ratio" asReal
  let reuseRatio ← optionalField "connection_reuse_ratio" asReal
  let reuseKnown ← field "connection_observations" asNat
  let http2Ratio ← optionalField "http2_ratio" asReal
  let bytes ← field "total_bytes" asNat
  let bytesPerSecond ← field "bytes_per_second" asReal
  let latency ← optionalField "latency" LatencySummary.ofJson?
  let variation ← optionalField "latency_cv" asReal
  let phases ← field "phases" PhaseSummaries.ofJson?
  let statuses ← field "status_counts" statusesOfJson?
  let errors ← field "error_breakdown" (asTable asNat)
  pure { samples, successes, applicationErrors, transportErrors, failures, cacheHits, incomplete,
         errorRate, elapsed, throughput, responseThroughput, cacheHitRatio, reuseRatio, reuseKnown,
         http2Ratio, bytes, bytesPerSecond, latency, variation, phases, statuses, errors }

end RunStatistics

end HttpBench
