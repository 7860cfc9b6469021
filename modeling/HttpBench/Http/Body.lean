import HttpBench.Http.ResponseHead
import HttpBench.Url.Percent

/-!
# Response bodies

A body is read byte by byte, as its frame says: so many bytes, or chunks up to
an empty one, or whatever comes until the connection ends. Bytes that come
behind a complete body are left alone.

A chunk is its size in hexadecimal digits, perhaps an extension, a line end,
so many bytes and a line end. Behind the empty chunk there may be more header
fields, a line each, up to an empty line. They have to be well formed, and are
passed over.
-/

namespace HttpBench

/-- **What is wrong with a body.** -/
inductive BodyError where
  | incomplete
  | badChunk
deriving DecidableEq, Repr

namespace BodyError

/-- The text for a reader. -/
def message : BodyError → String
  | .incomplete => "error reading a body from connection: end of file before message length reached"
  | .badChunk => "error reading a body from connection: Invalid chunk"

end BodyError

/-- **Where a reader of chunks is**: what it expects next. -/
inductive ChunkPlace where
  /-- the first digit of a size -/
  | size
  | sizeRest (n : Nat)
  /-- blanks behind a size -/
  | blanks (n : Nat)
  | extension (n : Nat)
  /-- the line feed of the line with the size -/
  | sizeEnd (n : Nat)
  /-- so many bytes of a chunk -/
  | data (left : Nat)
  | dataReturn
  | dataEnd
  /-- the first byte of a line behind the chunks -/
  | line
  | lineRest
  | lineEnd
  /-- the last line feed -/
  | lastEnd
  | complete
deriving DecidableEq, Repr

/-- **The lines behind the chunks**, as far as they have come. -/
structure Trailer where
  count : Nat := 0
  /-- the number of the bytes -/
  size : Nat := 0
  /-- the bytes, in reverse -/
  taken : List UInt8 := []
deriving DecidableEq, Repr

/-- **A reader of chunks.** -/
structure ChunkReader where
  place : ChunkPlace := .size
  /-- the bytes of extensions so far -/
  extensions : Nat := 0
  trailer : Trailer := {}
deriving DecidableEq, Repr

/-- **A place in a body.** -/
inductive BodyPlace where
  | counted (left : Nat)
  | chunked (chunks : ChunkReader)
  | open
deriving DecidableEq, Repr

/-- **A reader of a body**: where it is, and what it has read, in reverse. -/
structure BodyReader where
  place : BodyPlace
  taken : List UInt8 := []
deriving DecidableEq, Repr

namespace ChunkPlace

/-- The next byte is data. -/
def isData : ChunkPlace → Bool
  | .data _ => true
  | _ => false

end ChunkPlace

namespace Trailer

/-- The bytes have to be fewer than this. -/
def sizeLimit : Nat := 16384

/-- One more byte. -/
def push (t : Trailer) (b : UInt8) : Trailer := { t with size := t.size + 1, taken := b :: t.taken }

/-- One more byte, if there is room. -/
def push? (t : Trailer) (b : UInt8) : Option Trailer :=
  let t := t.push b
  if t.size < sizeLimit then some t else none

/-- A line has ended, if there may be so many. -/
def endLine? (t : Trailer) (b : UInt8) : Option Trailer :=
  if t.count < HeadReader.mostFields then { t with count := t.count + 1 }.push? b else none

/-- **The lines are header fields**, all of them up to the empty line. -/
def isWellFormed (t : Trailer) : Bool :=
  match HeadReader.fields t.count t.taken.reverse with
  | .done .. => true
  | .incomplete | .malformed _ => false

end Trailer

namespace ChunkReader

/-- The size of a chunk has to be below this. -/
def sizeLimit : Nat := Number.range64

/-- The bytes of all extensions have to be fewer than this. -/
def extensionLimit : Nat := 16384

/-- The reader moved to another place. -/
def moved (r : ChunkReader) (place : ChunkPlace) : ChunkReader := { r with place }

/-- Behind a size: blanks, an extension or the end of the line. -/
def afterSize (r : ChunkReader) (n : Nat) (b : UInt8) : Option ChunkReader :=
  if b == 13 then some (r.moved (.sizeEnd n))
  else if b == 32 || b == 9 then some (r.moved (.blanks n))
  else if b == 59 then some (r.moved (.extension n))
  else none

/-- In an extension, which may not hold a line feed. -/
def afterExtension (r : ChunkReader) (n : Nat) (b : UInt8) : Option ChunkReader :=
  if b == 13 then some (r.moved (.sizeEnd n))
  else if b == 10 || extensionLimit ≤ r.extensions + 1 then none
  else some { r with place := .extension n, extensions := r.extensions + 1 }

/-- At the first byte of a line behind the chunks. -/
def afterLine (r : ChunkReader) (b : UInt8) : Option ChunkReader :=
  if r.trailer.size = 0 then
    some (if b == 13 then r.moved .lastEnd else { r with place := .lineRest, trailer := r.trailer.push b })
  else
    (r.trailer.push? b).map fun trailer => { r with place := if b == 13 then .lastEnd else .lineRest, trailer }

/-- At the last line feed. -/
def afterLines (r : ChunkReader) (b : UInt8) : Option ChunkReader :=
  if b != 10 then none
  else if r.trailer.size = 0 then some (r.moved .complete)
  else do
    let trailer ← r.trailer.push? b
    if trailer.isWellFormed then some { r with place := .complete, trailer } else none

/-- **Behind one more byte.** Bytes of chunks are data, all others are not. -/
def after (r : ChunkReader) (b : UInt8) : Option ChunkReader :=
  let isReturn := b == 13
  let isFeed := b == 10
  match r.place with
  | .size => (Url.hexValue? b).map fun d => r.moved (.sizeRest d)
  | .sizeRest n =>
    match Url.hexValue? b with
    | some d => if n * 16 + d < sizeLimit then some (r.moved (.sizeRest (n * 16 + d))) else none
    | none => r.afterSize n b
  | .blanks n => r.afterSize n b
  | .extension n => r.afterExtension n b
  | .sizeEnd n => if !isFeed then none else some (r.moved (if n = 0 then .line else .data n))
  | .data left => some (r.moved (if left ≤ 1 then .dataReturn else .data (left - 1)))
  | .dataReturn => if isReturn then some (r.moved .dataEnd) else none
  | .dataEnd => if isFeed then some (r.moved .size) else none
  | .line => r.afterLine b
  | .lineRest =>
    (r.trailer.push? b).map fun trailer => { r with place := if isReturn then .lineEnd else .lineRest, trailer }
  | .lineEnd =>
    if isFeed then (r.trailer.endLine? b).map fun trailer => { r with place := .line, trailer } else none
  | .lastEnd => r.afterLines b
  | .complete => none

end ChunkReader

namespace BodyReader

/-- A reader at the start of a body. -/
def start : BodyFrame → BodyReader
  | .counted length => { place := .counted length }
  | .chunked => { place := .chunked {} }
  | .open => { place := .open }

/-- The body is complete. -/
def isComplete (r : BodyReader) : Bool :=
  match r.place with
  | .counted left => left = 0
  | .chunked chunks => chunks.place = .complete
  | .open => false

/-- The body. -/
def body (r : BodyReader) : List UInt8 := r.taken.reverse

/-- Take one byte of an incomplete body. -/
def take (r : BodyReader) (b : UInt8) : Except BodyError BodyReader :=
  match r.place with
  | .counted left => .ok { place := .counted (left - 1), taken := b :: r.taken }
  | .open => .ok { r with taken := b :: r.taken }
  | .chunked chunks =>
    match chunks.after b with
    | some next => .ok { place := .chunked next, taken := if chunks.place.isData then b :: r.taken else r.taken }
    | none => .error .badChunk

/-- **Take bytes** until the body is complete; what is behind it is left. -/
def read (r : BodyReader) : List UInt8 → Except BodyError (BodyReader × List UInt8)
  | [] => .ok (r, [])
  | b :: rest =>
    if r.isComplete then .ok (r, b :: rest)
    else
      match r.take b with
      | .ok r => r.read rest
      | .error e => .error e

/-- **The body, now that the connection has ended.** -/
def atEnd (r : BodyReader) : Except BodyError (List UInt8) :=
  match r.place with
  | .open => .ok r.body
  | _ => if r.isComplete then .ok r.body else .error .incomplete

end BodyReader

end HttpBench
