import HttpBench.Http.Framing
import HttpBench.Http.Header
import HttpBench.Http.Method
import HttpBench.Text.Utf8

/-!
# Response heads

The head of a response is its status line and its header fields, up to an
empty line. Lines end with a line feed, with or without a carriage return, and
empty lines may come first. A head is read from the bytes that have come so
far: they hold all of it, or a part, or something that no head starts with.

The head says how the body is framed and whether the connection may go on.
Responses that are only informational are passed over.
-/

namespace HttpBench

open Framing

/-- **What is wrong with a head.** -/
inductive HeadError where
  | version
  | status
  | field
  | tooMany
  | contentLength
  | transferEncoding
deriving DecidableEq, Repr

namespace HeadError

/-- The text for a reader. -/
def message : HeadError → String
  | .version => "invalid HTTP version parsed"
  | .status => "invalid HTTP status-code parsed"
  | .field => "invalid HTTP header parsed"
  | .tooMany => "message head is too large"
  | .contentLength => "invalid content-length parsed"
  | .transferEncoding => "unexpected transfer-encoding parsed"

end HeadError

/-- **How a body is framed.** -/
inductive BodyFrame where
  | counted (length : Nat)
  | chunked
  /-- it ends with the connection -/
  | open
deriving DecidableEq, Repr

/-- **The head of a response.** -/
structure ResponseHead where
  old : Bool
  status : Nat
  fields : FieldTable FieldBytes
  frame : BodyFrame
  /-- the connection may carry another request after the body -/
  goesOn : Bool
deriving DecidableEq, Repr

namespace ResponseHead

/-- The version of the response. -/
def protocol (h : ResponseHead) : String := if h.old then "HTTP/1.0" else "HTTP/1.1"

/-- The fields of the response as texts. -/
def headers (h : ResponseHead) : List (String × String) :=
  h.fields.toList.map fun f => (f.1, Utf8.decode f.2)

end ResponseHead

/-! ## Reading -/

/-- **What some bytes hold**: a part of something, or all of it and more bytes. -/
inductive Reading (A : Type) where
  | incomplete
  | malformed (e : HeadError)
  | done (a : A) (rest : List UInt8)

/-- **A reader** of bytes that may still be coming. -/
def HeadReader (A : Type) := List UInt8 → Reading A

namespace HeadReader
variable {A B : Type}

instance : Monad HeadReader where
  pure a := fun bytes => .done a bytes
  bind r f := fun bytes =>
    match r bytes with
    | .incomplete => .incomplete
    | .malformed e => .malformed e
    | .done a rest => f a rest

/-- Give up. -/
def refuse (e : HeadError) : HeadReader A := fun _ => .malformed e

/-- The next byte. -/
def next : HeadReader UInt8
  | [] => .incomplete
  | b :: rest => .done b rest

/-- The next byte has to be this one. -/
def expect (b : UInt8) (e : HeadError) : HeadReader Unit := do
  if (← next) != b then refuse e

/-- The rest of a line end that starts with this byte; anything else is
refused. -/
def lineEnd (b : UInt8) (e : HeadError) : HeadReader Unit :=
  if b == 10 then pure ()
  else if b == 13 then expect 10 e
  else refuse e

/-- Pass over empty lines. -/
def skipLines : HeadReader Unit
  | 13 :: 10 :: rest => skipLines rest
  | 10 :: rest => skipLines rest
  | [13] => .incomplete
  | 13 :: _ => .malformed .field
  | bytes => .done () bytes

/-- **The version**: 1.0 or not. -/
def version : HeadReader Bool := fun bytes =>
  let old := "HTTP/1.0".toUTF8.toList
  let new := "HTTP/1.1".toUTF8.toList
  let given := bytes.take 8
  if given == new then .done false (bytes.drop 8)
  else if given == old then .done true (bytes.drop 8)
  else if given.length < 8 && given == new.take given.length then .incomplete
  else .malformed .version

/-- A digit of the status. -/
def digit : HeadReader Nat := do
  let b ← next
  if 48 ≤ b && b ≤ 57 then pure (b.toNat - 48) else refuse .status

/-- A byte of a field value or a reason. -/
def isTextByte (b : UInt8) : Bool := b == 9 || (0x20 ≤ b && b != 0x7F)

/-- The bytes up to the end of a line. -/
def line (e : HeadError) : HeadReader FieldBytes := fun bytes =>
  match bytes.span isTextByte with
  | (_, []) => .incomplete
  | (text, b :: rest) => (do lineEnd b e; pure text) rest

/-- What follows the status in its line. -/
def reason : HeadReader Unit := do
  let b ← next
  if b == 32 then discard (line .status) else lineEnd b .status

/-- The bytes of a field name, up to its colon. -/
def fieldName : HeadReader String := fun bytes =>
  match bytes.span fun b => Header.isTokenChar (Char.ofNat b.toNat) with
  | (_, []) => .incomplete
  | (name, b :: rest) =>
    if name.isEmpty || b != 58 then .malformed .field
    else .done (String.ofList (name.map fun b => Char.ofNat b.toNat)) rest

/-- A blank byte. -/
def isBlankByte (b : UInt8) : Bool := b == 32 || b == 9

/-- A field value without the blanks around it, to the end of its line. -/
def fieldValue : HeadReader FieldBytes := do
  let text ← line .field
  pure ((text.dropWhile isBlankByte).reverse.dropWhile isBlankByte).reverse

/-- Whether the next line is empty; it is passed over then. -/
def emptyLine : HeadReader Bool
  | [] => .incomplete
  | b :: rest =>
    if b == 10 || b == 13 then (do lineEnd b .field; pure true) rest else .done false (b :: rest)

/-- One header field. -/
def field : HeadReader (String × FieldBytes) := do
  let name ← fieldName
  let value ← fieldValue
  pure (name, value)

/-- **Header fields** up to the empty line, at most so many. One more has to be
there completely before it is too many. -/
def fields : Nat → HeadReader (List (String × FieldBytes))
  | 0 => do
    if ← emptyLine then pure []
    else
      discard field
      refuse .tooMany
  | room + 1 => do
    if ← emptyLine then pure []
    else
      let first ← field
      let others ← fields room
      pure (first :: others)

/-- The most fields that a head may have. -/
def mostFields : Nat := 100

end HeadReader

namespace ResponseHead

/-- The longest body that can be announced. -/
def longestBody : Nat := Number.range64 - 3

/-- **How the body is framed**, of a response to a method. -/
def frameOf (method : Method) (old : Bool) (status : Nat) (fields : FieldTable FieldBytes) :
    Except HeadError BodyFrame :=
  if status = 101 || status = 204 || status = 304 || method = .head then .ok (.counted 0)
  else if fields.has "transfer-encoding" then
    if old then .error .transferEncoding
    else if isChunked (fields.values "transfer-encoding") then .ok .chunked
    else .ok .open
  else
    match contentLength? (fields.values "content-length") with
    | some length => if length ≤ longestBody then .ok (.counted length) else .error .contentLength
    | none => if fields.has "content-length" then .error .contentLength else .ok .open

/-- **The connection may go on**, by the values of `connection`: none of them
closes it, and for version 1.0 one keeps it. -/
def goesOnAfter (old : Bool) (status : Nat) (values : List FieldBytes) : Bool :=
  status != 101 && !values.any (names · "close") && (!old || values.any (names · "keep-alive"))

/-- **One head**, of whatever status. -/
def readOne : HeadReader (Bool × Nat × FieldTable FieldBytes) := do
  HeadReader.skipLines
  let old ← HeadReader.version
  HeadReader.expect 32 .version
  let a ← HeadReader.digit
  let b ← HeadReader.digit
  let c ← HeadReader.digit
  let status := a * 100 + b * 10 + c
  HeadReader.reason
  let fields ← HeadReader.fields HeadReader.mostFields
  if status < 100 then HeadReader.refuse .status
  pure (old, status, .ofList fields)

/-- The response only says that another one follows. -/
def isInformational (status : Nat) : Bool := status < 200 && status != 101

/-- **The head of the response to a method**, after at most so many that are
only informational, and the bytes behind those. -/
def read (method : Method) : Nat → List UInt8 → Reading ResponseHead × List UInt8
  | 0, bytes => (.incomplete, bytes)
  | fuel + 1, bytes =>
    match readOne bytes with
    | .incomplete => (.incomplete, bytes)
    | .malformed e => (.malformed e, bytes)
    | .done (old, status, fields) rest =>
      if isInformational status then read method fuel rest
      else
        match frameOf method old status fields with
        | .error e => (.malformed e, bytes)
        | .ok frame =>
          let goesOn := goesOnAfter old status (fields.values "connection")
          (.done { old, status, fields, frame, goesOn } rest, bytes)

/-- **What some bytes hold of the head of the response to a method**, and the
bytes behind all that is only informational. -/
def parse (method : Method) (bytes : List UInt8) : Reading ResponseHead × List UInt8 :=
  read method (bytes.length + 1) bytes

/-- An empty line is somewhere behind another line. -/
def hasEmptyLine : List UInt8 → Bool
  | 13 :: 10 :: 13 :: 10 :: _ => true
  | 10 :: 10 :: _ => true
  | _ :: rest => hasEmptyLine rest
  | [] => false

/-- **A head that was incomplete is worth another look** now that there are
more bytes: an empty line ends among them. -/
def mayBeComplete (before : Nat) (bytes : List UInt8) : Bool :=
  before = 0 || hasEmptyLine (bytes.drop (before - 3))

end ResponseHead

end HttpBench
