/-!
# Reading bytes as text

Bytes that are meant as UTF-8 but are not well formed are still read: every
longest run that starts a character and does not go on as one is replaced by
U+FFFD. Well-formed bytes read as the characters that they encode.
-/

namespace HttpBench.Utf8

/-- What stands for bytes that are no character. -/
def replacement : Char := '\uFFFD'

/-- **An unfinished character**: the bits so far, how many bytes are still to
come, and which bytes the next one may be. -/
structure Pending where
  bits : Nat
  owed : Nat
  low : Nat := 0x80
  high : Nat := 0xBF
deriving DecidableEq, Repr

/-- What the first byte of a character says; nothing if no character starts
with it. -/
def lead? (b : Nat) : Option Pending :=
  if b < 0x80 then some { bits := b, owed := 0 }
  else if b < 0xC2 then none
  else if b < 0xE0 then some { bits := b - 0xC0, owed := 1 }
  else if b = 0xE0 then some { bits := 0, owed := 2, low := 0xA0 }
  else if b = 0xED then some { bits := 0xD, owed := 2, high := 0x9F }
  else if b < 0xF0 then some { bits := b - 0xE0, owed := 2 }
  else if b = 0xF0 then some { bits := 0, owed := 3, low := 0x90 }
  else if b < 0xF4 then some { bits := b - 0xF0, owed := 3 }
  else if b = 0xF4 then some { bits := 4, owed := 3, high := 0x8F }
  else none

/-- Start a character with a byte, after some text. -/
def begin (text : List Char) (b : Nat) : List Char × Option Pending :=
  match lead? b with
  | none => (replacement :: text, none)
  | some { owed := 0, .. } => (Char.ofNat b :: text, none)
  | some p => (text, some p)

/-- Take one more byte; the text so far is in reverse. -/
def take (text : List Char) (pending : Option Pending) (b : Nat) : List Char × Option Pending :=
  match pending with
  | none => begin text b
  | some p =>
    if p.low ≤ b && b ≤ p.high then
      let bits := p.bits * 64 + (b - 0x80)
      if p.owed ≤ 1 then (Char.ofNat bits :: text, none) else (text, some { bits, owed := p.owed - 1 })
    else begin (replacement :: text) b

/-- Take all bytes; a character that they leave unfinished is replaced. -/
def takeAll (text : List Char) (pending : Option Pending) : List UInt8 → List Char
  | [] => if pending.isSome then replacement :: text else text
  | b :: rest =>
    let (text, pending) := take text pending b.toNat
    takeAll text pending rest

/-- **The text of some bytes.** -/
def decode (bytes : List UInt8) : String := String.ofList (takeAll [] none bytes).reverse

end HttpBench.Utf8
