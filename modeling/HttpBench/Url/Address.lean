import HttpBench.Number.Places
import HttpBench.Text.Split

/-!
# Internet addresses in URLs

A host whose last label is a number is an address of four bytes, which may be
written with fewer parts and in octal or hexadecimal; a host in brackets is an
address of eight pieces of 16 bits.

An address of eight pieces is written with its longest run of zero pieces
left out. A URL always writes the pieces in hexadecimal; on its own, an
address that maps one of four bytes is written with those bytes.
-/

namespace HttpBench.Url

open Number Text

/-- The value of a digit in any base up to sixteen. -/
def digit? (c : Char) : Option Nat :=
  if c.isDigit then some (c.toNat - 48)
  else if 'a' ≤ c && c ≤ 'f' then some (c.toNat - 87)
  else if 'A' ≤ c && c ≤ 'F' then some (c.toNat - 55)
  else none

/-- The number that digits of a base write. -/
def numeral? (base : Nat) (digits : List Char) : Option Nat :=
  digits.foldlM (fun n c => do
    let d ← digit? c
    if d < base then some (n * base + d) else none) 0

/-- **A part of an address of four bytes**: hexadecimal after `0x`, octal after
`0`, else decimal. -/
def addressPart? (part : List Char) : Option Nat :=
  match part with
  | [] => none
  | '0' :: 'x' :: rest => numeral? 16 rest
  | '0' :: 'X' :: rest => numeral? 16 rest
  | '0' :: d :: rest => numeral? 8 (d :: rest)
  | _ => numeral? 10 part

/-- The last label of a host, not counting one trailing point. -/
def lastLabel (host : List Char) : List Char :=
  match (splitAt '.' host).reverse with
  | [] :: label :: _ => label
  | label :: _ => label
  | [] => []

/-- **The host is meant as an address of four bytes**: its last label is a
number, or all digits. -/
def endsInNumber (host : List Char) : Bool :=
  let label := lastLabel host
  !label.isEmpty && (label.all Char.isDigit || (addressPart? label).isSome)

/-- **An address of four bytes.** The last part fills the bytes that the parts
before it leave. -/
def ipv4? (host : List Char) : Option Nat := do
  let parts := splitAt '.' host
  let parts := if parts.getLast? == some [] then parts.dropLast else parts
  if 4 < parts.length then none
  let numbers ← parts.mapM addressPart?
  let last ← numbers.getLast?
  let front := numbers.dropLast
  if last < Nat.pow 256 (4 - front.length) && front.all (· < 256) then
    some (front.zipIdx.foldr (fun (n, i) total => n * Nat.pow 256 (3 - i) + total) last)
  else none

/-- The text of an address of four bytes. -/
def ipv4Text (address : Nat) : String :=
  ".".intercalate ([3, 2, 1, 0].map fun i => Nat.repr (address / Nat.pow 256 i % 256))

/-- One byte of four in an address of eight pieces: decimal without leading
zeros. -/
def plainByte? (part : List Char) : Option Nat :=
  if part.isEmpty || 3 < part.length || !part.all Char.isDigit || (part.length > 1 && part.head? == some '0')
  then none
  else (numeral? 10 part).bind fun n => if n < 256 then some n else none

/-- One piece: one to four hexadecimal digits. -/
def piece? (part : List Char) : Option Nat :=
  if part.isEmpty || 4 < part.length then none else numeral? 16 part

/-- The pieces of one side of the gap. Where `last` holds, the final part may
be four bytes that make two pieces. -/
def pieces? (last : Bool) (parts : List (List Char)) : Option (List Nat) :=
  match parts with
  | [] => some []
  | [part] =>
    if last && part.contains '.' then do
      let bytes ← (splitAt '.' part).mapM plainByte?
      match bytes with
      | [a, b, c, d] => some [a * 256 + b, c * 256 + d]
      | _ => none
    else (piece? part).map ([·])
  | part :: rest => do
    let p ← piece? part
    let ps ← pieces? last rest
    some (p :: ps)

/-- Split at the first `::`. -/
def splitGap : List Char → Option (List Char × List Char)
  | ':' :: ':' :: rest => some ([], rest)
  | c :: rest => (splitGap rest).map fun (a, b) => (c :: a, b)
  | [] => none

/-- The parts between single colons; none in an empty text. -/
def colonParts (cs : List Char) : List (List Char) :=
  if cs.isEmpty then [] else splitAt ':' cs

/-- **An address of eight pieces**, of which one run may be left out. -/
def ipv6? (cs : List Char) : Option (List Nat) :=
  match splitGap cs with
  | none => do
    let pieces ← pieces? true (colonParts cs)
    if pieces.length == 8 then some pieces else none
  | some (before, behind) => do
    let front ← pieces? false (colonParts before)
    let back ← pieces? true (colonParts behind)
    if front.length + back.length < 8 then
      some (front ++ List.replicate (8 - front.length - back.length) 0 ++ back)
    else none

/-- The length of the run of zeros at the front. -/
def zeroRun (pieces : List Nat) : Nat := (pieces.takeWhile (· == 0)).length

/-- **The longest run of at least two zero pieces**, the first of equal ones. -/
def longestGap? (pieces : List Nat) : Option (Nat × Nat) :=
  let runs := (List.range pieces.length).map fun i => (i, zeroRun (pieces.drop i))
  let best := runs.foldl (fun best run => if best.2 < run.2 then run else best) (0, 0)
  if 2 ≤ best.2 then some best else none

/-- A piece in hexadecimal without leading zeros. -/
def pieceText (n : Nat) : String := String.ofList (Nat.toDigits 16 n)

/-- The text of an address of eight pieces. -/
def ipv6Text (pieces : List Nat) : String :=
  let join := fun ps : List Nat => ":".intercalate (ps.map pieceText)
  match longestGap? pieces with
  | some (start, length) => join (pieces.take start) ++ "::" ++ join (pieces.drop (start + length))
  | none => join pieces

/-- **The text of an address of eight pieces on its own**, with the bytes of an
address of four that it maps. -/
def ipv6PlainText (pieces : List Nat) : String :=
  match pieces with
  | [0, 0, 0, 0, 0, 0xFFFF, high, low] => "::ffff:" ++ ipv4Text (high * 65536 + low)
  | _ => ipv6Text pieces

/-- The zeros that may be left out are written as a gap. -/
example : ipv6Text [0x2001, 0xdb8, 0, 0, 0, 0, 0, 1] = "2001:db8::1" := by decide +kernel

end HttpBench.Url
