/-!
# Percent encoding

Bytes of a URL that may not stand for themselves are written as `%` and two
hexadecimal digits. Which bytes these are depends on the part of the URL, so
the encoder takes that part's `Reserved` set; bytes outside ASCII and control
characters are encoded everywhere.
-/

namespace HttpBench.Url

/-- An upper-case hexadecimal digit. -/
def hexUpper (n : Nat) : Char := if n < 10 then Char.ofNat (48 + n) else Char.ofNat (55 + n)

/-- The written form of one encoded byte. -/
def encodedByte (b : UInt8) : List Char := ['%', hexUpper (b.toNat / 16), hexUpper (b.toNat % 16)]

/-- **The characters a part of a URL encodes**, beyond control characters and
what lies outside ASCII. -/
abbrev Reserved := List Char

namespace Reserved

/-- In a fragment. -/
def fragment : Reserved := [' ', '"', '<', '>', '\x60']

/-- In a path. -/
def path : Reserved := fragment ++ ['#', '?', '\x7b', '\x7d']

/-- In a user name or password. -/
def credentials : Reserved := path ++ ['/', ':', ';', '=', '@', '[', '\\', ']', '^', '|']

/-- In a query. -/
def query : Reserved := [' ', '"', '#', '<', '>', '\x27']

end Reserved

/-- **Encode one character** for a part of a URL. -/
def encodeChar (reserved : Reserved) (c : Char) : List Char :=
  if 0x20 ≤ c.toNat && c.toNat < 0x7F && !reserved.contains c then [c]
  else (String.ofList [c]).toUTF8.toList.flatMap encodedByte

/-- **Encode a text** for a part of a URL. -/
def encode (reserved : Reserved) (cs : List Char) : String :=
  String.ofList (cs.flatMap (encodeChar reserved))

/-- The value of a hexadecimal digit. -/
def hexValue? (b : UInt8) : Option Nat :=
  let n := b.toNat
  if 48 ≤ n && n ≤ 57 then some (n - 48)
  else if 65 ≤ n && n ≤ 70 then some (n - 55)
  else if 97 ≤ n && n ≤ 102 then some (n - 87)
  else none

/-- **Decode bytes**: `%` with two hexadecimal digits stands for one byte, any
other `%` for itself. -/
def decodeBytes : List UInt8 → List UInt8
  | [] => []
  | b :: rest =>
    match rest with
    | x :: y :: more =>
      match hexValue? x, hexValue? y with
      | some high, some low =>
        if b == 0x25 then UInt8.ofNat (high * 16 + low) :: decodeBytes more
        else b :: decodeBytes (x :: y :: more)
      | _, _ => b :: decodeBytes (x :: y :: more)
    | [x] => [b, x]
    | [] => [b]

/-- **Form encoding** of a name or value of a query: letters, digits and
`*-._` stand for themselves, a space becomes `+`. -/
def formEncode (s : String) : String :=
  String.ofList (s.toUTF8.toList.flatMap fun b =>
    let c := Char.ofNat b.toNat
    if b < 0x80 && (c.isAlphanum || c == '*' || c == '-' || c == '.' || c == '_') then [c]
    else if c == ' ' then ['+']
    else encodedByte b)

end HttpBench.Url
