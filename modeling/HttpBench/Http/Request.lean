import HttpBench.Http.Framing
import HttpBench.Http.Target

/-!
# Requests on the wire

A target is sent as a request line, a table of header fields and a body. The
fields are `host`, then those of the target, then `connection` if the
connection shall close. Sending adds what frames the body, unless the target
frames it already; what the target says about the length of its body is
believed.

A peer whose last response was of version 1.0 gets a request of that version,
which has to ask for the connection to stay open and knows no chunks.
-/

namespace HttpBench

open Framing

/-- **A request as it is sent.** -/
structure WrittenRequest where
  bytes : List UInt8
  /-- the body is as long as the peer was told, so that another request may
  follow -/
  complete : Bool
  /-- the peer was asked to close the connection -/
  closes : Bool
deriving DecidableEq, Repr

namespace Target

/-- The longest path with query that can be asked for. -/
def longestPath : Nat := 65534

/-- The request can be sent at all. -/
def isSendable (t : Target) : Bool := t.url.pathAndQuery.utf8ByteSize ≤ longestPath

/-- **The header fields of a request**, before those that frame its body. -/
def requestFields (t : Target) : List (String × String) :=
  ("host", t.url.authority) :: t.headers ++ (if t.keepAlive then [] else [("connection", "close")])

end Target

namespace WrittenRequest

/-- The bytes of a text. -/
def bytesOf (s : String) : List UInt8 := s.toUTF8.toList

/-- **A body as it is sent**: its fields changed, its bytes, and whether these
are all that the fields promise. -/
abbrev FramedBody := FieldTable FieldBytes × List UInt8 × Bool

/-- A body of a length that the fields give. -/
def counted (fields : FieldTable FieldBytes) (length : Nat) (body : List UInt8) : FramedBody :=
  (fields, body.take length, length ≤ body.length)

/-- A body whose length nobody has given yet. -/
def measured (fields : FieldTable FieldBytes) (body : List UInt8) : FramedBody :=
  (fields.set "content-length" (bytesOf (Nat.repr body.length)), body, true)

/-- A body in one chunk. The coding becomes chunked if it is not. -/
def chunked (fields : FieldTable FieldBytes) (body : List UInt8) : FramedBody :=
  let fields :=
    if isChunked (fields.values "transfer-encoding") then fields
    else fields.change "transfer-encoding" fun vs =>
      vs.dropLast ++ (vs.getLast?.map (· ++ bytesOf ", chunked")).toList
  let fields := fields.remove "content-length"
  let size := String.ofList ((Nat.toDigits 16 body.length).map Char.toUpper)
  (fields, bytesOf (size ++ "\r\n") ++ body ++ bytesOf "\r\n0\r\n\r\n", true)

/-- **Frame a body** for a peer of version 1.0 or a newer one. No body at all
needs no frame, and no coding. -/
def frame (old : Bool) (fields : FieldTable FieldBytes) (body : List UInt8) : FramedBody :=
  if body.isEmpty then (fields.remove "transfer-encoding", [], true)
  else if fields.has "transfer-encoding" && !old then chunked fields body
  else
    let fields := fields.remove "transfer-encoding"
    match contentLength? (fields.values "content-length") with
    | some length => counted fields length body
    | none => measured fields body

/-- Some value of `connection` is this word. -/
def asks (fields : FieldTable FieldBytes) (word : String) : Bool := (fields.values "connection").any (names · word)

/-- Ask a peer of version 1.0 to keep the connection open, unless it shall close. -/
def askToStay (fields : FieldTable FieldBytes) : FieldTable FieldBytes :=
  if asks fields "close" || asks fields "keep-alive" then fields
  else fields.add "connection" (bytesOf "keep-alive")

/-- **Write a request** for a peer of version 1.0 or a newer one. -/
def ofTarget (t : Target) (old : Bool) : WrittenRequest :=
  let fields := FieldTable.ofList (t.requestFields.map fun f => (f.1, bytesOf f.2))
  let fields := if old then askToStay fields else fields
  let (fields, body, complete) := frame old fields (t.body.getD [])
  let line := t.method.name ++ " " ++ t.url.pathAndQuery ++ (if old then " HTTP/1.0\r\n" else " HTTP/1.1\r\n")
  let header := fields.toList.flatMap fun f => bytesOf (f.1 ++ ": ") ++ f.2 ++ bytesOf "\r\n"
  { bytes := bytesOf line ++ header ++ bytesOf "\r\n" ++ body, complete, closes := asks fields "close" }

end WrittenRequest

end HttpBench
