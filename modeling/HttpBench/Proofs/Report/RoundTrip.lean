import Mathlib.Data.List.Nodup
import HttpBench.Proofs.Json.Reading
import HttpBench.Proofs.Number.Exact
import HttpBench.Report.Basic

/-!
# Reports and samples are read back

Whatever a report or a sample holds, it is made again from its written form (`RunReport.read_back`). Each type
has two entries:

* **`Fits`** says that every part holds what its type can hold (counts of 64 bits, statuses of 16, durations up to
  the longest, tallies in the order of their keys), and that figures are finite, since one that is not is written
  as `null`;
* **`reads`** says that a value that fits is read back, field by field in the order of its reader.

A duration stands in a report as a number of milliseconds, so it comes back where the number system loses nothing
(`Number.Exact`). A moment comes back if its own text does.
-/

namespace HttpBench

open Json Number Decoder

variable {R : Type} [Scalar R]

/-! ## Durations and tallies -/

/-- **A duration**, up to the longest one. -/
def Duration.Fits (d : Duration) : Prop := d.nanos ≤ longest.nanos

instance (d : Duration) : Decidable d.Fits := inferInstanceAs (Decidable (d.nanos ≤ Duration.longest.nanos))

theorem Duration.reads [Exact R] {d : Duration} (h : d.Fits) :
    Reads (fun v => (asReal v).map Duration.ofMillis) (.real (d.toMillis : R)) d := by
  have hread := (Reads.real (isFinite_toMillis (R := R) d)).map Duration.ofMillis
  rwa [ofMillis_toMillis d h] at hread

/-- A duration that may not have been observed. -/
theorem Duration.reads_option [Exact R] {x : Option Duration} (h : ∀ d, x = some d → d.Fits) :
    Reads (nullable fun v => (asReal v).map Duration.ofMillis)
      (.ofOption (fun d : Duration => Value.real (d.toMillis : R)) x) x :=
  .option rfl fun d hd => Duration.reads (h d hd)

namespace Tally

variable {K : Type} [LT K]

/-- **Keys in ascending order**, each with a count that fits 64 bits. -/
structure Fits (tally : Tally K) : Prop where
  ascending : tally.Pairwise fun a b => a.1 < b.1
  count : ∀ e ∈ tally, e.2 < range64

/-- A tally of texts is read in its own order. -/
theorem reads {tally : Tally String} (h : tally.Fits) :
    (asTable asNat).Reads (.ofTable .nat tally : Value R) tally := by
  have hsorted : tally.mergeSort (fun a b => decide (a.1 ≤ b.1)) = tally :=
    List.mergeSort_of_pairwise (h.ascending.imp fun hlt => decide_eq_true (Std.le_of_lt hlt))
  have hread : (asTable asNat).Reads (.ofTable .nat tally : Value R) _ := .table fun e he => .nat (h.count e he)
  rwa [hsorted] at hread

/-- Of two members of a tally with one key there is only one. -/
theorem Fits.eq_of_key {tally : Tally Nat} (h : tally.Fits) {a b : Nat × Nat} (ha : a ∈ tally) (hb : b ∈ tally)
    (hkey : a.1 = b.1) : a = b := by
  have hkeys : (tally.map (·.1)).Nodup := List.pairwise_map.mpr (h.ascending.imp Nat.ne_of_lt)
  exact List.inj_on_of_nodup_map hkeys ha hb hkey

/-- Whatever order a tally of numbers is brought into, its own is found again. -/
theorem Fits.mergeSort_of_perm {tally entries : Tally Nat} (h : tally.Fits) (hperm : entries.Perm tally) :
    entries.mergeSort (fun a b => decide (a.1 ≤ b.1)) = tally := by
  have hsorted : (entries.mergeSort fun a b => decide (a.1 ≤ b.1)).Pairwise fun a b => a.1 ≤ b.1 := by
    refine (List.pairwise_mergeSort ?_ ?_ entries).imp fun hle => of_decide_eq_true hle
    · intro a b c hab hbc
      exact decide_eq_true (Nat.le_trans (of_decide_eq_true hab) (of_decide_eq_true hbc))
    · intro a b
      simpa using Nat.le_total a.1 b.1
  refine List.Perm.eq_of_pairwise ?_ hsorted (h.ascending.imp Nat.le_of_lt)
    ((List.mergeSort_perm entries _).trans hperm)
  intro a b ha hb hab hba
  exact h.eq_of_key (hperm.mem_iff.mp (List.mem_mergeSort.mp ha)) hb (Nat.le_antisymm hab hba)

/-- The statuses of a tally are read back from their numerals. -/
theorem mapM_numerals {entries : Tally Nat} (hkeys : ∀ e ∈ entries, e.1 < range16) :
    (entries.map fun e => (Nat.repr e.1, e.2)).mapM
      (fun e => (numeralBelow? range16 e.1).map fun status => (status, e.2)) = some entries := by
  apply Reads.mapM_map
  intro e he
  rw [numeralBelow?_repr (hkeys e he), Option.map_some]

/-- **A tally of statuses** is written under their numerals, which are read in the order of texts, and comes back
in the order of the statuses. -/
theorem reads_statuses {statuses : Tally Nat} (h : statuses.Fits) (hkeys : ∀ e ∈ statuses, e.1 < range16) :
    RunStatistics.statusesOfJson?.Reads
      (.ofTable .nat (statuses.map fun e => (Nat.repr e.1, e.2)) : Value R) statuses := by
  have htable : (asTable asNat).Reads (.ofTable .nat (statuses.map fun e => (Nat.repr e.1, e.2)) : Value R)
      ((statuses.map fun e => (Nat.repr e.1, e.2)).mergeSort fun a b => decide (a.1 ≤ b.1)) := by
    apply Reads.table
    intro e he
    obtain ⟨e', he', rfl⟩ := List.mem_map.mp he
    exact .nat (h.count e' he')
  -- numerals in the order of texts are those of the statuses in some order
  have hnumerals : ((statuses.map fun e => (Nat.repr e.1, e.2)).mergeSort fun a b => decide (a.1 ≤ b.1))
      = (statuses.mergeSort fun a b => decide (Nat.repr a.1 ≤ Nat.repr b.1)).map fun e => (Nat.repr e.1, e.2) := by
    symm
    apply List.map_mergeSort
    intro a _ b _
    rfl
  have hread := hnumerals ▸ htable
  rw [Reads] at hread
  rw [Reads, RunStatistics.statusesOfJson?, hread, Option.bind_eq_bind, Option.bind_some,
    mapM_numerals fun e he => hkeys e (List.mem_mergeSort.mp he), Option.bind_eq_bind, Option.bind_some,
    h.mergeSort_of_perm (List.mergeSort_perm statuses _)]

end Tally

/-! ## Samples -/

/-- The limit of a timeout fits 64 bits. -/
def Failure.Fits : Failure → Prop
  | .timeout millis => millis < range64
  | _ => True

theorem Failure.reads {f : Failure} (h : f.Fits) : Failure.ofJson?.Reads (f.toJson : Value R) f := by
  refine .record (.bind_field rfl (.string f.kind) (.field rfl ?_))
  cases f with
  | timeout millis => exact (Reads.record (.field rfl (.nat h))).map Failure.timeout
  | dns text => exact (Reads.string text).map Failure.dns
  | connect text => exact (Reads.string text).map Failure.connect
  | tls text => exact (Reads.string text).map Failure.tls
  | protocol text => exact (Reads.string text).map Failure.protocol
  | body text => exact (Reads.string text).map Failure.body
  | request text => exact (Reads.string text).map Failure.request

/-- The status fits 16 bits. -/
def Outcome.Fits : Outcome → Prop
  | .success status | .applicationError status => status < range16
  | .transportError failure => failure.Fits

/-- An outcome is written under one of three names and read under the same. -/
theorem Outcome.reads {o : Outcome} (h : o.Fits) : Outcome.ofJson?.Reads (o.toJson : Value R) o := by
  cases o with
  | success status =>
    have hread : (record (field "status" asNat16)).Reads (.object [("status", .nat status)] : Value R) status :=
      .record (.field rfl (.natBelow h))
    exact hread.map Outcome.success
  | applicationError status =>
    have hread : (record (field "status" asNat16)).Reads (.object [("status", .nat status)] : Value R) status :=
      .record (.field rfl (.natBelow h))
    exact hread.map Outcome.applicationError
  | transportError failure => exact (Failure.reads h).map Outcome.transportError

/-- Every observed phase fits. -/
def PhaseTimes.Fits (times : PhaseTimes) : Prop := ∀ p d, times.get p = some d → d.Fits

theorem PhaseTimes.reads [Exact R] {times : PhaseTimes} (h : times.Fits) :
    PhaseTimes.ofJson?.Reads (times.toJson : Value R) times := by
  refine .record ?_
  refine .bind_fieldOr rfl (Duration.reads_option (h .dns)) ?_
  refine .bind_fieldOr rfl (Duration.reads_option (h .connect)) ?_
  refine .bind_fieldOr rfl (Duration.reads_option (h .tls)) ?_
  refine .bind_fieldOr rfl (Duration.reads_option (h .ttfb)) ?_
  refine .bind_fieldOr rfl (Duration.reads_option (h .transfer)) ?_
  refine .bind_optionalField rfl (.option rfl fun b _ => .bool b) ?_
  exact .pure times

/-- **A sample that fits.** -/
structure Sample.Fits (s : Sample) : Prop where
  sequence : s.sequence < range64
  outcome : s.outcome.Fits
  total : s.total.Fits
  phases : s.phases.Fits
  bytes : s.bytes < range64

theorem Sample.reads [Exact R] {s : Sample} (h : s.Fits) : Sample.ofJson?.Reads (s.toJson : Value R) s := by
  refine .record ?_
  refine .bind_field rfl (.nat h.sequence) ?_
  refine .bind_field rfl (Outcome.reads h.outcome) ?_
  refine .bind_field rfl (Duration.reads h.total) ?_
  refine .bind_field rfl (PhaseTimes.reads h.phases) ?_
  refine .bind_field rfl (.bool s.fromCache) ?_
  refine .bind_field rfl (.nat h.bytes) ?_
  refine .bind_optionalField rfl (.option rfl fun text _ => .string text) ?_
  exact .pure s

/-! ## Statistics -/

/-- A count that fits 64 bits, and finite figures. -/
structure LatencySummary.Fits (l : LatencySummary R) : Prop where
  count : l.count < range64
  min : Scalar.isFinite l.min = true
  max : Scalar.isFinite l.max = true
  mean : Scalar.isFinite l.mean = true
  deviation : Scalar.isFinite l.deviation = true
  p50 : Scalar.isFinite l.p50 = true
  p95 : Scalar.isFinite l.p95 = true
  p99 : Scalar.isFinite l.p99 = true

theorem LatencySummary.reads {l : LatencySummary R} (h : l.Fits) : LatencySummary.ofJson?.Reads l.toJson l := by
  refine .record ?_
  refine .bind_field rfl (.nat h.count) ?_
  refine .bind_field rfl (.real h.min) ?_
  refine .bind_field rfl (.real h.max) ?_
  refine .bind_field rfl (.real h.mean) ?_
  refine .bind_field rfl (.real h.deviation) ?_
  refine .bind_field rfl (.real h.p50) ?_
  refine .bind_field rfl (.real h.p95) ?_
  refine .bind_field rfl (.real h.p99) ?_
  exact .pure l

/-- Every summary fits. -/
def PhaseSummaries.Fits (s : PhaseSummaries R) : Prop := ∀ p l, s.get p = some l → l.Fits

theorem PhaseSummaries.reads {s : PhaseSummaries R} (h : s.Fits) : PhaseSummaries.ofJson?.Reads s.toJson s := by
  refine .record ?_
  refine .bind_optionalField rfl (.option rfl fun l hl => LatencySummary.reads (h .dns l hl)) ?_
  refine .bind_optionalField rfl (.option rfl fun l hl => LatencySummary.reads (h .connect l hl)) ?_
  refine .bind_optionalField rfl (.option rfl fun l hl => LatencySummary.reads (h .tls l hl)) ?_
  refine .bind_optionalField rfl (.option rfl fun l hl => LatencySummary.reads (h .ttfb l hl)) ?_
  refine .bind_optionalField rfl (.option rfl fun l hl => LatencySummary.reads (h .transfer l hl)) ?_
  exact .pure s

/-- **Figures of a run that fit.** -/
structure RunStatistics.Fits (s : RunStatistics R) : Prop where
  samples : s.samples < range64
  successes : s.successes < range64
  applicationErrors : s.applicationErrors < range64
  transportErrors : s.transportErrors < range64
  failures : s.failures < range64
  cacheHits : s.cacheHits < range64
  incomplete : s.incomplete < range64
  errorRate : Scalar.isFinite s.errorRate = true
  elapsed : s.elapsed.Fits
  throughput : Scalar.isFinite s.throughput = true
  responseThroughput : Scalar.isFinite s.responseThroughput = true
  cacheHitRatio : Scalar.isFinite s.cacheHitRatio = true
  reuseRatio : ∀ x, s.reuseRatio = some x → Scalar.isFinite x = true
  reuseKnown : s.reuseKnown < range64
  http2Ratio : ∀ x, s.http2Ratio = some x → Scalar.isFinite x = true
  bytes : s.bytes < range64
  bytesPerSecond : Scalar.isFinite s.bytesPerSecond = true
  latency : ∀ l, s.latency = some l → l.Fits
  variation : ∀ x, s.variation = some x → Scalar.isFinite x = true
  phases : s.phases.Fits
  statuses : s.statuses.Fits
  statusKeys : ∀ e ∈ s.statuses, e.1 < range16
  errors : s.errors.Fits

theorem RunStatistics.reads [Exact R] {s : RunStatistics R} (h : s.Fits) :
    RunStatistics.ofJson?.Reads s.toJson s := by
  refine .record ?_
  refine .bind_field rfl (.nat h.samples) ?_
  refine .bind_field rfl (.nat h.successes) ?_
  refine .bind_field rfl (.nat h.applicationErrors) ?_
  refine .bind_field rfl (.nat h.transportErrors) ?_
  refine .bind_field rfl (.nat h.failures) ?_
  refine .bind_field rfl (.nat h.cacheHits) ?_
  refine .bind_field rfl (.nat h.incomplete) ?_
  refine .bind_field rfl (.real h.errorRate) ?_
  refine .bind_field rfl (Duration.reads h.elapsed) ?_
  refine .bind_field rfl (.real h.throughput) ?_
  refine .bind_field rfl (.real h.responseThroughput) ?_
  refine .bind_field rfl (.real h.cacheHitRatio) ?_
  refine .bind_optionalField rfl (.option rfl fun x hx => .real (h.reuseRatio x hx)) ?_
  refine .bind_field rfl (.nat h.reuseKnown) ?_
  refine .bind_optionalField rfl (.option rfl fun x hx => .real (h.http2Ratio x hx)) ?_
  refine .bind_field rfl (.nat h.bytes) ?_
  refine .bind_field rfl (.real h.bytesPerSecond) ?_
  refine .bind_optionalField rfl (.option rfl fun l hl => LatencySummary.reads (h.latency l hl)) ?_
  refine .bind_optionalField rfl (.option rfl fun x hx => .real (h.variation x hx)) ?_
  refine .bind_field rfl (PhaseSummaries.reads h.phases) ?_
  refine .bind_field rfl (Tally.reads_statuses h.statuses h.statusKeys) ?_
  refine .bind_field rfl (Tally.reads h.errors) ?_
  exact .pure s

/-! ## Diagnoses -/

theorem Dimension.reads (d : Dimension) : (asChoice Dimension.names).Reads (.string d.name : Value R) d :=
  .choice (by cases d <;> rfl)

theorem Severity.reads (s : Severity) : (asChoice Severity.names).Reads (.string s.name : Value R) s :=
  .choice (by cases s <;> rfl)

theorem Bound.reads (b : Bound) : (asChoice Bound.names).Reads (.string b.name : Value R) b :=
  .choice (by cases b <;> rfl)

/-- The figures of a finding are finite. -/
structure Finding.Fits (f : Finding R) : Prop where
  observed : Scalar.isFinite f.observed = true
  threshold : Scalar.isFinite f.threshold = true
  exceedance : Scalar.isFinite f.exceedance = true

theorem Finding.reads {f : Finding R} (h : f.Fits) : Finding.ofJson?.Reads f.toJson f := by
  refine .record ?_
  refine .bind_field rfl (.string f.rule) ?_
  refine .bind_field rfl (Dimension.reads f.dimension) ?_
  refine .bind_field rfl (.string f.label) ?_
  refine .bind_field rfl (Severity.reads f.severity) ?_
  refine .bind_field rfl (.real h.observed) ?_
  refine .bind_field rfl (.real h.threshold) ?_
  refine .bind_field rfl (Bound.reads f.bound) ?_
  refine .bind_field rfl (.string f.unit) ?_
  refine .bind_field rfl (.bool f.flagged) ?_
  refine .bind_field rfl (.real h.exceedance) ?_
  exact .pure f

/-- Every finding fits. -/
structure Diagnosis.Fits (d : Diagnosis R) : Prop where
  findings : ∀ f ∈ d.findings, f.Fits
  flagged : ∀ f ∈ d.flagged, f.Fits

theorem Diagnosis.reads {d : Diagnosis R} (h : d.Fits) : Diagnosis.ofJson?.Reads d.toJson d := by
  refine .record ?_
  refine .bind_field rfl (.list fun f hf => Finding.reads (h.findings f hf)) ?_
  refine .bind_field rfl (.list fun f hf => Finding.reads (h.flagged f hf)) ?_
  refine .bind_field rfl (.list fun text _ => .string text) ?_
  refine .bind_field rfl (.list fun text _ => .string text) ?_
  exact .pure d

/-! ## Resources and caches -/

/-- Amounts that fit 64 bits, and a finite peak of single precision. -/
structure ResourceUsage.Fits (u : ResourceUsage R) : Prop where
  peakMemory : u.peakMemory < range64
  lastMemory : u.lastMemory < range64
  peakCpu : Scalar.isFinite u.peakCpu = true
  single : Scalar.toSingle u.peakCpu = u.peakCpu
  readings : u.readings < range64

theorem ResourceUsage.reads [Exact R] {u : ResourceUsage R} (h : u.Fits) :
    ResourceUsage.ofJson?.Reads u.toJson u := by
  obtain ⟨hfinite, hsame⟩ := Exact.toSingle_ofSingle h.peakCpu h.single
  have hcpu : Reads (fun v => (asReal v).map Scalar.toSingle) (.real (Scalar.ofSingle u.peakCpu)) u.peakCpu := by
    have hread := (Reads.real hfinite).map Scalar.toSingle
    rwa [hsame] at hread
  refine .record ?_
  refine .bind_field rfl (.nat h.peakMemory) ?_
  refine .bind_field rfl (.nat h.lastMemory) ?_
  refine .bind_field rfl hcpu ?_
  refine .bind_field rfl (.nat h.readings) ?_
  exact .pure u

/-- Counts that fit 64 bits. -/
structure CacheCounts.Fits (c : CacheCounts) : Prop where
  hits : c.hits < range64
  misses : c.misses < range64
  expirations : c.expirations < range64
  evictions : c.evictions < range64
  insertions : c.insertions < range64
  entries : c.entries < range64

theorem CacheCounts.reads {c : CacheCounts} (h : c.Fits) : CacheCounts.ofJson?.Reads (c.toJson : Value R) c := by
  refine .record ?_
  refine .bind_field rfl (.nat h.hits) ?_
  refine .bind_field rfl (.nat h.misses) ?_
  refine .bind_field rfl (.nat h.expirations) ?_
  refine .bind_field rfl (.nat h.evictions) ?_
  refine .bind_field rfl (.nat h.insertions) ?_
  refine .bind_field rfl (.nat h.entries) ?_
  exact .pure c

/-! ## Reports -/

theorem Method.reads (m : Method) : Method.ofJson?.Reads (.string m.name : Value R) m :=
  .choice (by cases m <;> rfl)

/-- A moment whose text is read back. -/
theorem Timestamp.reads {t : Timestamp} (h : parse? t.text = some t) :
    Reads (fun v => asString v >>= parse?) (.string t.text : Value R) t := by
  rw [Reads, Value.written, asString, Option.bind_eq_bind, Option.bind_some, h]

/-- **A report that fits.** -/
structure RunReport.Fits (r : RunReport R) : Prop where
  iteration : r.iteration < range64
  requests : r.requests < range64
  concurrency : r.concurrency < range64
  timeout : r.timeout.Fits
  peak : r.peak < range64
  statistics : r.statistics.Fits
  diagnosis : r.diagnosis.Fits
  resources : ∀ u, r.resources = some u → u.Fits
  cache : ∀ c, r.cache = some c → c.Fits

theorem RunReport.reads [Exact R] {r : RunReport R} (h : r.Fits)
    (hstarted : Timestamp.parse? r.started.text = some r.started) : RunReport.ofJson?.Reads r.toJson r := by
  refine .record ?_
  refine .bind_field rfl (.string r.name) ?_
  refine .bind_field rfl (.nat h.iteration) ?_
  refine .bind_field rfl (.string r.url) ?_
  refine .bind_field rfl (Method.reads r.method) ?_
  refine .bind_field rfl (.string r.transport) ?_
  refine .bind_field rfl (Timestamp.reads hstarted) ?_
  refine .bind_field rfl (.nat h.requests) ?_
  refine .bind_field rfl (.nat h.concurrency) ?_
  refine .bind_field rfl (Duration.reads h.timeout) ?_
  refine .bind_field rfl (.bool r.cacheEnabled) ?_
  refine .bind_field rfl (.bool r.keepAlive) ?_
  refine .bind_field rfl (.bool r.cancelled) ?_
  refine .bind_field rfl (.nat h.peak) ?_
  refine .bind_field rfl (RunStatistics.reads h.statistics) ?_
  refine .bind_field rfl (Diagnosis.reads h.diagnosis) ?_
  refine .bind_optionalField rfl (.option rfl fun u hu => ResourceUsage.reads (h.resources u hu)) ?_
  refine .bind_optionalField rfl (.option rfl fun c hc => CacheCounts.reads (h.cache c hc)) ?_
  exact .pure r

/-- **Reports and samples are read back.** In a number system that loses nothing, every report that fits, with a
moment of its start that is read back from its text, is what is read from its written form, and so is every sample
that fits. -/
theorem RunReport.read_back [Exact R] :
    (∀ r : RunReport R, r.Fits → Timestamp.parse? r.started.text = some r.started →
      RunReport.ofJson? r.toJson.written = some r) ∧
    ∀ s : Sample, s.Fits → Sample.ofJson? (s.toJson : Value R).written = some s :=
  ⟨fun _ h hstarted => RunReport.reads h hstarted, fun _ h => Sample.reads h⟩

/-- The latencies of two answers. -/
def LatencySummary.ofTwo : LatencySummary Rat where
  count := 2
  min := 3 / 2
  max := 5 / 2
  mean := 2
  deviation := 1 / 2
  p50 := 2
  p95 := 49 / 20
  p99 := 249 / 100

/-- The share of failures, far beyond its limit. -/
def Finding.ofErrors : Finding Rat where
  rule := "error-rate"
  dimension := .application
  label := "Error rate"
  severity := .critical
  observed := 2 / 3
  threshold := 1 / 100
  bound := .max
  unit := "%"
  flagged := true
  exceedance := 197 / 3

/-- The figures of two answers and a timeout; the numerals of the two statuses are in the other order than the
statuses. -/
def RunStatistics.ofThree : RunStatistics Rat where
  samples := 3
  successes := 1
  applicationErrors := 1
  transportErrors := 1
  failures := 2
  cacheHits := 1
  incomplete := 1
  errorRate := 2 / 3
  elapsed := ⟨3000000001⟩
  throughput := 1 / 3
  responseThroughput := 2 / 3
  cacheHitRatio := 1 / 3
  reuseRatio := some (1 / 2)
  reuseKnown := 2
  http2Ratio := none
  bytes := 512
  bytesPerSecond := 170
  latency := some .ofTwo
  variation := some (1 / 4)
  phases := { ttfb := some .ofTwo }
  statuses := [(200, 1), (1000, 1)]
  errors := [("timeout", 1)]

/-- The report on them, of a run that was cut off. -/
def RunReport.ofThree : RunReport Rat where
  name := "checkout"
  iteration := 1
  url := "http://shop.test/"
  method := .get
  transport := "simulated"
  started := ⟨1700000000, 250000000⟩
  requests := 4
  concurrency := 2
  timeout := .millis 3000
  cacheEnabled := true
  keepAlive := true
  cancelled := true
  peak := 2
  statistics := .ofThree
  diagnosis := { findings := [.ofErrors], flagged := [.ofErrors], summary := ["Error rate"], skipped := ["tls"] }
  resources := some { peakMemory := 4096, lastMemory := 2048, peakCpu := 25 / 2, readings := 3 }
  cache := some { hits := 1, misses := 2, insertions := 2, entries := 2 }

/-- The timeout among them, in the middle of its connection. -/
def Sample.ofTimeout : Sample where
  sequence := 2
  outcome := .transportError (.timeout 3000)
  total := ⟨3000000001⟩
  phases := { dns := some ⟨1234567⟩, reused := some false }
  fromCache := false
  bytes := 0
  protocol := none

theorem LatencySummary.fits_ofTwo : LatencySummary.ofTwo.Fits where
  count := by decide
  min := rfl
  max := rfl
  mean := rfl
  deviation := rfl
  p50 := rfl
  p95 := rfl
  p99 := rfl

theorem RunStatistics.fits_ofThree : RunStatistics.ofThree.Fits where
  samples := by decide
  successes := by decide
  applicationErrors := by decide
  transportErrors := by decide
  failures := by decide
  cacheHits := by decide
  incomplete := by decide
  errorRate := rfl
  elapsed := by decide
  throughput := rfl
  responseThroughput := rfl
  cacheHitRatio := rfl
  reuseRatio _ _ := rfl
  reuseKnown := by decide
  http2Ratio _ _ := rfl
  bytes := by decide
  bytesPerSecond := rfl
  latency := by rintro _ ⟨⟩; exact LatencySummary.fits_ofTwo
  variation _ _ := rfl
  phases := by rintro (_ | _ | _ | _ | _) _ ⟨⟩; exact LatencySummary.fits_ofTwo
  statuses := ⟨by decide, by decide⟩
  statusKeys := by decide
  errors := ⟨by decide, by decide⟩

theorem RunReport.fits_ofThree : RunReport.ofThree.Fits where
  iteration := by decide
  requests := by decide
  concurrency := by decide
  timeout := by decide
  peak := by decide
  statistics := RunStatistics.fits_ofThree
  diagnosis := ⟨fun _ _ => ⟨rfl, rfl, rfl⟩, fun _ _ => ⟨rfl, rfl, rfl⟩⟩
  resources := by rintro _ ⟨⟩; exact ⟨by decide, by decide, rfl, rfl, by decide⟩
  cache := by rintro _ ⟨⟩; exact ⟨by decide, by decide, by decide, by decide, by decide, by decide⟩

theorem Sample.fits_ofTimeout : Sample.ofTimeout.Fits where
  sequence := by decide
  outcome := (by decide : 3000 < range64)
  total := by decide
  phases := by rintro (_ | _ | _ | _ | _) _ ⟨⟩; decide
  bytes := by decide

/-- **A report on three requests and the sample of one of them**, over the rationals. -/
theorem RunReport.read_back_of_three :
    RunReport.ofJson? RunReport.ofThree.toJson.written = some RunReport.ofThree ∧
      Sample.ofJson? (Sample.ofTimeout.toJson : Value Rat).written = some Sample.ofTimeout :=
  ⟨RunReport.read_back.1 RunReport.ofThree RunReport.fits_ofThree (by decide +kernel),
    RunReport.read_back.2 Sample.ofTimeout Sample.fits_ofTimeout⟩

end HttpBench
