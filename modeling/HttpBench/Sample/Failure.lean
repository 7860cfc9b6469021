import HttpBench.Json.Decode

/-!
# Transport failures

Why a request ended without a complete response, each cause with the facts
that explain it. A failure has a short stable kind, under which failures are
counted, and a text for a reader.
-/

namespace HttpBench

open Json Number

/-- **A transport failure.** -/
inductive Failure where
  | dns (detail : String)
  | connect (detail : String)
  | tls (detail : String)
  | timeout (millis : Nat)
  | protocol (detail : String)
  | body (detail : String)
  | request (detail : String)
deriving DecidableEq, Repr, Inhabited

namespace Failure

/-- The kind under which a failure is counted. -/
def kind : Failure → String
  | .dns _ => "dns"
  | .connect _ => "connect"
  | .tls _ => "tls"
  | .timeout _ => "timeout"
  | .protocol _ => "protocol"
  | .body _ => "body"
  | .request _ => "request"

/-- The text for a reader. -/
def message : Failure → String
  | .dns detail => "DNS resolution failed: " ++ detail
  | .connect detail => "Connection failed: " ++ detail
  | .tls detail => "TLS handshake failed: " ++ detail
  | .timeout millis => "Request timed out after " ++ Nat.repr millis ++ "ms"
  | .protocol detail => "HTTP protocol error: " ++ detail
  | .body detail => "Response body error: " ++ detail
  | .request detail => "Request could not be built: " ++ detail

section
variable {R : Type}

/-- The written form: the kind, and the detail of that kind. -/
def toJson (f : Failure) : Value R :=
  let detail : Value R := match f with
    | .dns text | .connect text | .tls text | .protocol text | .body text | .request text => .string text
    | .timeout millis => .object [("timeout_ms", .nat millis)]
  .object [("kind", .string f.kind), ("detail", detail)]

/-- Read the detail of a failure of the given kind. -/
def ofKind? (kind : String) (detail : Value R) : Option Failure :=
  match kind with
  | "dns" => (asString detail).map .dns
  | "connect" => (asString detail).map .connect
  | "tls" => (asString detail).map .tls
  | "timeout" => (record (field "timeout_ms" asNat) detail).map .timeout
  | "protocol" => (asString detail).map .protocol
  | "body" => (asString detail).map .body
  | "request" => (asString detail).map .request
  | _ => none

/-- Read the written form. -/
def ofJson? : Decoder R Failure := record do
  let kind ← field "kind" asString
  field "detail" (ofKind? kind)

end

end Failure

end HttpBench
