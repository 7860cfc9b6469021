import HttpBench.Cache.Store
import HttpBench.Proofs.History

/-!
# Histories of a store

A store serves one request after another, each at its moment; that of the task which purges it is
one of them. Time does not go back. Between two requests the entries may get into any other order,
so what holds of every history holds for every way of laying them out.
-/

namespace HttpBench

/-- **What a store can be asked.** -/
inductive StoreRequest (K V : Type) where
  | put (key : K) (value : V) (ttl : Duration)
  | get (key : K)
  | remove (key : K)
  | purge
  | clear

/-- **Serve a request**: the store afterwards, and the value that was handed out. -/
def Store.serve {K V : Type} [DecidableEq K] (s : Store K V) (now : Instant) :
    StoreRequest K V → Store K V × Option V
  | .put key value ttl => (s.put key value ttl now, none)
  | .get key => s.get key now
  | .remove key => s.remove key
  | .purge => ((s.purge now).1, none)
  | .clear => (s.clear, none)

/-- **A request that was served**, when it was, and the value that was handed out. -/
structure StoreUse (K V : Type) where
  request : StoreRequest K V
  now : Instant
  answer : Option V

/-- **A store in use**, and when it was used last. -/
structure TimedStore (K V : Type) where
  store : Store K V
  now : Instant

namespace TimedStore

variable {K V : Type}

/-- A store that has not been used, bounded or not. -/
def empty (capacity : Option Nat) : TimedStore K V where
  store := match capacity with
    | some n => Store.bounded n
    | none => Store.unbounded
  now := ⟨0⟩

/-- **A use of a store**: it has any order of the entries to work on. -/
def Next [DecidableEq K] (s : TimedStore K V) (use : StoreUse K V) (s' : TimedStore K V) : Prop :=
  s.now.nanos ≤ use.now.nanos ∧ s'.now = use.now ∧
    ∃ entries, entries.Perm s.store.entries ∧
      { s.store with entries }.serve use.now use.request = (s'.store, use.answer)

end TimedStore

end HttpBench
