import HttpBench.Http.Method

/-!
# Cache keys

Two requests share a cached response when they agree in method, URL and body
and have the same header fields, names compared without regard to case, in
any order. A key holds the fields in a canonical order, so equal keys and
requests that may share a response are the same thing.
-/

namespace HttpBench

open Json

/-- **The identity of a request** for the cache. -/
structure CacheKey where
  method : Method
  url : String
  /-- names in lower case, in ascending order -/
  headers : List (String × String)
  body : Option (List UInt8)
deriving DecidableEq, Repr, Inhabited

namespace CacheKey

/-- Fields in the order of their names, then of their values. -/
def fieldLe (a b : String × String) : Bool :=
  decide (a.1 < b.1) || (a.1 == b.1 && decide (a.2 ≤ b.2))

/-- **The canonical form of header fields.** -/
def canonical (headers : List (String × String)) : List (String × String) :=
  (headers.map fun h => (h.1.toLower, h.2)).mergeSort fieldLe

/-- The key of a request. -/
def ofRequest (method : Method) (url : String) (headers : List (String × String))
    (body : Option (List UInt8)) : CacheKey :=
  { method, url, headers := canonical headers, body }

/-- The written form. -/
def toJson {R : Type} (k : CacheKey) : Value R :=
  .object [("method", .string k.method.name), ("url", .string k.url),
    ("headers", .ofList (fun h => .array [.string h.1, .string h.2]) k.headers),
    ("body", .ofOption (.ofList fun b => .nat b.toNat) k.body)]

end CacheKey

end HttpBench
