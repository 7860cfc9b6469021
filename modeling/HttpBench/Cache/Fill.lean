/-!
# Who fetches what is missing

When several callers miss the same key, one of them fetches and the others
wait. The first to claim a key leads: it gets a slot for the key and holds the
lock of the slot until its fetch has ended, however it ends. Whoever claims the
key meanwhile follows, by waiting for the lock of that slot.

The lock is fair: it is handed to the first who waits, who on its turn hands it
on at once. A slot leaves the table of keys when its leader ends, so a new
leader may already fetch into a new slot while the followers of the old one are
still on their way out.
-/

namespace HttpBench

/-- A caller, by its number. -/
abbrev Caller := Nat

/-- **Who has the lock** of a slot. -/
inductive LockState where
  | free
  /-- the leader, while it fetches -/
  | held (leader : Caller)
  /-- a caller that waited and has been handed the lock, but has not run since -/
  | handed (next : Caller)
deriving DecidableEq, Repr, Inhabited

/-- **A slot**: one fetch of one key, and who waits for its end. -/
structure FillSlot (K : Type) where
  number : Nat
  key : K
  lock : LockState := .free
  /-- who waits, the first in front -/
  queue : List Caller := []
deriving DecidableEq, Repr

namespace FillSlot
variable {K : Type}

/-- Take the lock if it is free. -/
def tryHold (s : FillSlot K) (c : Caller) : Option (FillSlot K) :=
  if s.lock = .free then some { s with lock := .held c } else none

/-- **Give the lock up**: the first who waits gets it. -/
def release (s : FillSlot K) : FillSlot K :=
  match s.queue with
  | c :: rest => { s with lock := .handed c, queue := rest }
  | [] => { s with lock := .free }

end FillSlot

/-- **What a claim gives.** -/
inductive Claim where
  /-- the caller fetches, and holds the slot meanwhile -/
  | leads (slot : Nat)
  /-- another one fetches into the slot -/
  | follows (slot : Nat)
deriving DecidableEq, Repr

/-- **All fetches that somebody still cares about.** A slot that is not there
is one whose lock is free. -/
structure Fills (K : Type) where
  /-- the slots whose lock somebody has -/
  slots : List (FillSlot K) := []
  /-- the slot of each key that is being fetched -/
  current : List (K × Nat) := []
  /-- the number of the next slot -/
  next : Nat := 0
deriving DecidableEq, Repr

namespace Fills
variable {K : Type}

instance : Inhabited (Fills K) := ⟨{}⟩

/-- The slot of a number. -/
def slot? (f : Fills K) (number : Nat) : Option (FillSlot K) := f.slots.find? (·.number == number)

/-- Put a slot back after a change, or drop it when its lock is free. -/
def update (f : Fills K) (s : FillSlot K) : Fills K :=
  let others := f.slots.filter (·.number != s.number)
  { f with slots := if s.lock = .free then others else others ++ [s] }

/-- Give up the lock of a slot. -/
def release (f : Fills K) (number : Nat) : Fills K :=
  match f.slot? number with
  | some s => f.update s.release
  | none => f

/-- **Wait for the end of a fetch**: whether the lock is free, so that there is
nothing to wait for. A caller that has to wait queues up. -/
def settle (f : Fills K) (number : Nat) (c : Caller) : Fills K × Bool :=
  match f.slot? number with
  | some s => if s.lock = .free then (f, true) else (f.update { s with queue := s.queue ++ [c] }, false)
  | none => (f, true)

/-- The caller has been handed the lock that it waited for. -/
def hasTurn (f : Fills K) (number : Nat) (c : Caller) : Bool :=
  match f.slot? number with
  | some s => s.lock = .handed c
  | none => false

/-- The callers that have been handed a lock and have not run since. -/
def onTurn (f : Fills K) : List Caller :=
  f.slots.filterMap fun s =>
    match s.lock with
    | .handed c => some c
    | _ => none

/-- **Stop waiting**: a caller that has been handed the lock hands it on, one
that is still in the queue leaves it. -/
def abandon (f : Fills K) (number : Nat) (c : Caller) : Fills K :=
  match f.slot? number with
  | some s =>
    if s.lock = .handed c then f.update s.release
    else f.update { s with queue := s.queue.filter (· != c) }
  | none => f

variable [DecidableEq K]

/-- The slot of a key that is being fetched. -/
def slotOf? (f : Fills K) (key : K) : Option Nat := (f.current.find? fun e => e.1 = key).map (·.2)

/-- **Claim the fetch of a key.** -/
def claim (f : Fills K) (key : K) (c : Caller) : Fills K × Claim :=
  match f.slotOf? key with
  | some number => (f, .follows number)
  | none =>
    let fresh : FillSlot K := { number := f.next, key }
    let f := { f with next := f.next + 1 }
    match fresh.tryHold c with
    | some s => ({ f.update s with current := f.current ++ [(key, s.number)] }, .leads s.number)
    | none => (f, .follows fresh.number)

/-- **Take a slot off the table of keys**: its key is free to claim again. The
lock stays with the leader. -/
def unlist (f : Fills K) (number : Nat) : Fills K :=
  match f.slot? number with
  | some s => { f with current := f.current.filter fun e => ¬(e.1 = s.key ∧ e.2 = number) }
  | none => f

/-- **The leader ends**: the key is free to claim, and then the lock goes to the
first who waits. -/
def finish (f : Fills K) (number : Nat) : Fills K := (f.unlist number).release number

end Fills

end HttpBench
