import HttpBench.Url.Basic

/-!
# Idle connections

A pool keeps connections that are idle, by number, for whoever asks for the
same scheme, host and port next. The last one that came is the first that goes.
A connection that has closed meanwhile stays until somebody comes across it.
-/

namespace HttpBench

/-- **Where a connection goes.** -/
structure PoolKey where
  scheme : Scheme
  host : Host
  port : Nat
deriving DecidableEq, Repr

/-- The key of the connections for a URL. -/
def Url.poolKey (u : Url) : PoolKey := { scheme := u.scheme, host := u.host, port := u.effectivePort }

/-- **A pool**, the last connection that came in front. -/
structure Pool where
  /-- the most connections with one key -/
  room : Nat
  idle : List (PoolKey × Nat) := []
deriving Repr

namespace Pool

/-- The number of connections, closed ones among them. -/
def size (p : Pool) : Nat := p.idle.length

/-- The number of connections with a key. -/
def count (p : Pool) (key : PoolKey) : Nat := p.idle.countP (·.1 == key)

/-- Take the first connection with a key that is open, and drop those before
it that are closed. -/
def takeFrom (isClosed : Nat → Bool) (key : PoolKey) : List (PoolKey × Nat) → Option Nat × List (PoolKey × Nat)
  | [] => (none, [])
  | entry :: rest =>
    if entry.1 = key then
      if isClosed entry.2 then takeFrom isClosed key rest else (some entry.2, rest)
    else
      let (found, others) := takeFrom isClosed key rest
      (found, entry :: others)

/-- **Take a connection** with a key that is open. -/
def take (p : Pool) (isClosed : Nat → Bool) (key : PoolKey) : Option Nat × Pool :=
  let (found, idle) := takeFrom isClosed key p.idle
  (found, { p with idle })

/-- **Give a connection back**, if there is room. -/
def give (p : Pool) (key : PoolKey) (link : Nat) : Option Pool :=
  if p.count key < p.room then some { p with idle := (key, link) :: p.idle } else none

end Pool

end HttpBench
