import HttpBench.Cache.Key
import HttpBench.Http.Header
import HttpBench.Setup.Error
import HttpBench.Url.Basic

/-!
# Targets

A target is one request, checked and complete: where it goes, with which
method, header fields and body, and whether its connection may be kept alive
afterwards. A target that cannot be built is a `SetupError`.
-/

namespace HttpBench

/-- **A request**, ready to be sent any number of times. -/
structure Target where
  url : Url
  method : Method
  headers : List (String × String) := []
  body : Option (List UInt8) := none
  keepAlive : Bool := true
deriving DecidableEq, Repr, Inhabited

namespace Target

/-- **A target without header fields or body**, for an absolute URL of the web. -/
def parse (url : String) (method : Method) : Except SetupError Target :=
  match Url.parse url with
  | .ok parsed => .ok { url := parsed, method }
  | .error (.otherScheme scheme) => .error (.unsupportedScheme scheme)
  | .error e => .error (.invalidTarget url e.message)

/-- **Add a header field.** The name is checked first. -/
def withHeader (t : Target) (name value : String) : Except SetupError Target :=
  if !Header.isName name then .error (.invalidHeader name "invalid HTTP header name")
  else if !Header.isValue value then .error (.invalidHeader name "failed to parse header value")
  else .ok { t with headers := t.headers ++ [(name, value)] }

/-- Add header fields in their order. -/
def withHeaders (t : Target) (headers : List (String × String)) : Except SetupError Target :=
  headers.foldlM (fun t h => t.withHeader h.1 h.2) t

/-- Append pairs to the query. -/
def withQuery (t : Target) (pairs : List (String × String)) : Target :=
  { t with url := t.url.appendQuery pairs }

/-- Set the body. -/
def withBody (t : Target) (body : String) : Target := { t with body := some body.toUTF8.toList }

/-- **The cache key** of the request. -/
def cacheKey (t : Target) : CacheKey := .ofRequest t.method t.url.text t.headers t.body

/-- The request for a reader. -/
def text (t : Target) : String := t.method.name ++ " " ++ t.url.text

end Target

end HttpBench
