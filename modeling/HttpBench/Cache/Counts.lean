import HttpBench.Fault
import HttpBench.Json.Decode

/-!
# Cache counts

What a cache has done since it was made, and how many entries it holds.
-/

namespace HttpBench

open Json Number

/-- **The counts of a cache.** -/
structure CacheCounts where
  hits : Nat := 0
  misses : Nat := 0
  expirations : Nat := 0
  evictions : Nat := 0
  insertions : Nat := 0
  entries : Nat := 0
deriving DecidableEq, Repr, Inhabited

namespace CacheCounts
variable {R : Type}

/-- **Hits among the lookups**, zero before the first. The lookups must fit 64
bits. -/
def hitRatio [Scalar R] (c : CacheCounts) : Except Fault R :=
  let lookups := c.hits + c.misses
  if range64 ≤ lookups then .error .overflow
  else if lookups = 0 then .ok Scalar.zero
  else .ok (Scalar.quotient c.hits lookups)

/-- The written form. -/
def toJson (c : CacheCounts) : Value R :=
  .object [("hits", .nat c.hits), ("misses", .nat c.misses), ("expirations", .nat c.expirations),
    ("evictions", .nat c.evictions), ("insertions", .nat c.insertions), ("entries", .nat c.entries)]

/-- Read the written form. -/
def ofJson? : Decoder R CacheCounts := record do
  let hits ← field "hits" asNat
  let misses ← field "misses" asNat
  let expirations ← field "expirations" asNat
  let evictions ← field "evictions" asNat
  let insertions ← field "insertions" asNat
  let entries ← field "entries" asNat
  pure { hits, misses, expirations, evictions, insertions, entries }

end CacheCounts

end HttpBench
