import HttpBench.Cache.Fill
import HttpBench.Cache.Key
import HttpBench.Cache.Store
import HttpBench.Http.Response

/-!
# The response cache

Responses by the identity of their requests, with the fetches that are under
way for those that are missing.
-/

namespace HttpBench

/-- **A cache of responses**, shared by everybody who may use it. -/
structure ResponseCache where
  store : Store CacheKey Response := {}
  fills : Fills CacheKey := {}

namespace ResponseCache

instance : Inhabited ResponseCache := ⟨{}⟩

/-- An empty cache of the given capacity. -/
def empty (capacity : Option Nat) : ResponseCache :=
  match capacity with
  | some n => { store := .bounded n }
  | none => {}

end ResponseCache

end HttpBench
