import HttpBench.Cache.Counts
import HttpBench.Time.Duration

/-!
# A store whose entries expire

Every entry has a time to live; from then on it counts as missing, but it
stays in the store until somebody comes across it: a look-up of its key, a
purge, or a new entry that needs room. A bounded store that is full makes room
for a new key by dropping what has expired or, if nothing has, the entry that
was stored or found the longest ago.

Uses are numbered, so no two entries were used last at the same time and the
order of `entries` decides nothing.
-/

namespace HttpBench

/-- **A stored value**: when it was stored, how long it lives, and the number
of its last use. -/
structure Stored (V : Type) where
  value : V
  storedAt : Instant
  ttl : Duration
  lastUse : Nat
deriving Repr

namespace Stored

/-- The value has lived its time. -/
def isExpired {V : Type} (s : Stored V) (now : Instant) : Bool :=
  s.ttl.nanos ≤ (now.since s.storedAt).nanos

end Stored

/-- **A store**, bounded if it has a capacity. Its keys are distinct. -/
structure Store (K V : Type) where
  capacity : Option Nat := none
  entries : List (K × Stored V) := []
  /-- the number of the next use -/
  nextUse : Nat := 0
  hits : Nat := 0
  misses : Nat := 0
  expirations : Nat := 0
  evictions : Nat := 0
  insertions : Nat := 0
deriving Repr

namespace Store
variable {K V : Type}

instance : Inhabited (Store K V) := ⟨{}⟩

/-- An empty store that is not bounded. -/
def unbounded : Store K V := {}

/-- An empty store for so many entries, and for one at least. -/
def bounded (capacity : Nat) : Store K V := { capacity := some (max capacity 1) }

/-- The number of entries, the expired ones included. -/
def size (s : Store K V) : Nat := s.entries.length

/-- What the store has done so far. -/
def counts (s : Store K V) : CacheCounts where
  hits := s.hits
  misses := s.misses
  expirations := s.expirations
  evictions := s.evictions
  insertions := s.insertions
  entries := s.size

/-- **Drop what has expired**, and say how much it was. -/
def purge (s : Store K V) (now : Instant) : Store K V × Nat :=
  let kept := s.entries.filter fun e => !e.2.isExpired now
  let dropped := s.entries.length - kept.length
  ({ s with entries := kept, expirations := s.expirations + dropped }, dropped)

/-- Drop everything. -/
def clear (s : Store K V) : Store K V := { s with entries := [] }

/-- The entry that was used the longest ago. -/
def oldest? : List (K × Stored V) → Option (K × Stored V)
  | [] => none
  | e :: rest =>
    match oldest? rest with
    | some o => if o.2.lastUse < e.2.lastUse then some o else some e
    | none => some e

variable [DecidableEq K]

/-- The entry of a key. -/
def find? (s : Store K V) (key : K) : Option (Stored V) :=
  (s.entries.find? fun e => e.1 = key).map (·.2)

/-- The entries without that of a key. -/
def without (entries : List (K × Stored V)) (key : K) : List (K × Stored V) :=
  entries.filter fun e => e.1 ≠ key

/-- **Look up a key.** A live entry is a hit and its latest use; an expired one
is a miss and goes. -/
def get (s : Store K V) (key : K) (now : Instant) : Store K V × Option V :=
  match s.find? key with
  | none => ({ s with misses := s.misses + 1 }, none)
  | some e =>
    if e.isExpired now then
      ({ s with entries := without s.entries key, misses := s.misses + 1, expirations := s.expirations + 1 }, none)
    else
      let touch := fun x : K × Stored V => if x.1 = key then (x.1, { x.2 with lastUse := s.nextUse }) else x
      ({ s with entries := s.entries.map touch, nextUse := s.nextUse + 1, hits := s.hits + 1 }, some e.value)

/-- **Make room for one entry**: drop what has expired or, if nothing has, the
entry that was used the longest ago. -/
def makeRoom (s : Store K V) (now : Instant) : Store K V :=
  let (purged, dropped) := s.purge now
  if 0 < dropped then purged
  else
    match oldest? s.entries with
    | some o => { s with entries := without s.entries o.1, evictions := s.evictions + 1 }
    | none => s

/-- **Store a value**, in place of what the key had. -/
def put (s : Store K V) (key : K) (value : V) (ttl : Duration) (now : Instant) : Store K V :=
  let entry : Stored V := { value, storedAt := now, ttl, lastUse := s.nextUse }
  let s := { s with nextUse := s.nextUse + 1 }
  let isFull := match s.capacity with
    | some capacity => (s.find? key).isNone && capacity ≤ s.size
    | none => false
  let s := if isFull then s.makeRoom now else s
  { s with entries := without s.entries key ++ [(key, entry)], insertions := s.insertions + 1 }

/-- **Take a value out**, even one that has expired. -/
def remove (s : Store K V) (key : K) : Store K V × Option V :=
  ({ s with entries := without s.entries key }, (s.find? key).map (·.value))

end Store

end HttpBench
