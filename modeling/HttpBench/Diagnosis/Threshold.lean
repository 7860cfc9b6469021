import HttpBench.Json.Decode

/-!
# Thresholds

The limits against which the figures of a run are held. Each has a default,
so a table that names only some of them is complete. The share of responses
over the second protocol version has a limit only where one is set.
-/

namespace HttpBench

open Json Number

/-- **A table of limits.** -/
structure Thresholds (R : Type) where
  dnsMs : R
  connectMs : R
  tlsMs : R
  ttfbMs : R
  minReuse : R
  minCacheHits : R
  maxErrorRate : R
  maxVariation : R
  maxMemoryMb : R
  minHttp2 : Option R

namespace Thresholds
variable {R : Type} [Scalar R]

/-- The default limits. -/
def standard : Thresholds R where
  dnsMs := ofInt 50
  connectMs := ofInt 100
  tlsMs := ofInt 200
  ttfbMs := ofInt 500
  minReuse := Scalar.quotient 1 2
  minCacheHits := Scalar.quotient 1 5
  maxErrorRate := Scalar.quotient 1 20
  maxVariation := Scalar.quotient 1 2
  maxMemoryMb := ofInt 500
  minHttp2 := none

instance : Inhabited (Thresholds R) := ⟨standard⟩

/-- The limits by the names that tables use, except the optional one. -/
def entries (t : Thresholds R) : List (String × R) :=
  [("dns_ms", t.dnsMs), ("connect_ms", t.connectMs), ("tls_ms", t.tlsMs), ("ttfb_ms", t.ttfbMs),
    ("min_connection_reuse", t.minReuse), ("min_cache_hit_ratio", t.minCacheHits),
    ("max_error_rate", t.maxErrorRate), ("max_latency_cv", t.maxVariation),
    ("max_memory_mb", t.maxMemoryMb)]

/-- **A table** whose missing limits keep their defaults. -/
def reader : Reader R (Thresholds R) := do
  let dnsMs ← fieldOr "dns_ms" asReal standard.dnsMs
  let connectMs ← fieldOr "connect_ms" asReal standard.connectMs
  let tlsMs ← fieldOr "tls_ms" asReal standard.tlsMs
  let ttfbMs ← fieldOr "ttfb_ms" asReal standard.ttfbMs
  let minReuse ← fieldOr "min_connection_reuse" asReal standard.minReuse
  let minCacheHits ← fieldOr "min_cache_hit_ratio" asReal standard.minCacheHits
  let maxErrorRate ← fieldOr "max_error_rate" asReal standard.maxErrorRate
  let maxVariation ← fieldOr "max_latency_cv" asReal standard.maxVariation
  let maxMemoryMb ← fieldOr "max_memory_mb" asReal standard.maxMemoryMb
  let minHttp2 ← fieldOr "min_http2_ratio" (nullable asReal) none
  pure { dnsMs, connectMs, tlsMs, ttfbMs, minReuse, minCacheHits, maxErrorRate, maxVariation,
         maxMemoryMb, minHttp2 }

/-- Read a table. -/
def ofJson? : Decoder R (Thresholds R) := record reader

/-- The written form, with each number written by `number`. -/
def toJsonWith (number : R → Value R) (t : Thresholds R) : Value R :=
  .object ((t.entries.map fun e => (e.1, number e.2)) ++
    [("min_http2_ratio", .ofOption number t.minHttp2)])

/-- The written form. -/
def toJson (t : Thresholds R) : Value R := t.toJsonWith .real

end Thresholds

end HttpBench
