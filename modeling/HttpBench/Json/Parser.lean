import HttpBench.Json.Value

/-!
# Reading JSON

`Document.parse?` reads one value and accepts white space around it, nothing
else. An integer between `-2 ^ 63` and `2 ^ 64` keeps its exact value; every
other number, and `-0`, is the nearest double, and one beyond the largest
double is refused. Arrays and objects nest at most 127 deep.

Every reader takes the characters that are left and returns what it read
with what is left after it.
-/

namespace HttpBench.Json

open Number

/-- White space between tokens. -/
def isSpace (c : Char) : Bool := c == ' ' || c == '\n' || c == '\t' || c == '\r'

/-- Drop white space. -/
def skipSpace (cs : List Char) : List Char := cs.dropWhile isSpace

/-- The value of a hexadecimal digit. -/
def hexDigit? (c : Char) : Option Nat :=
  if '0' ≤ c && c ≤ '9' then some (c.toNat - 48)
  else if 'a' ≤ c && c ≤ 'f' then some (c.toNat - 87)
  else if 'A' ≤ c && c ≤ 'F' then some (c.toNat - 55)
  else none

/-- Four hexadecimal digits. -/
def hexUnit? : List Char → Option (Nat × List Char)
  | a :: b :: c :: d :: rest => do
    let a ← hexDigit? a
    let b ← hexDigit? b
    let c ← hexDigit? c
    let d ← hexDigit? d
    some (((a * 16 + b) * 16 + c) * 16 + d, rest)
  | _ => none

/-- **The character of a `\u` escape**: a unit of its own, or a high and a low
surrogate in a row. A surrogate without its partner stands for nothing. -/
def escapedUnit? (cs : List Char) : Option (Char × List Char) := do
  let (unit, rest) ← hexUnit? cs
  if 0xDC00 ≤ unit && unit ≤ 0xDFFF then none
  else if 0xD800 ≤ unit && unit ≤ 0xDBFF then
    match rest with
    | '\\' :: 'u' :: more => do
      let (low, rest) ← hexUnit? more
      if 0xDC00 ≤ low && low ≤ 0xDFFF then
        some (Char.ofNat (0x10000 + (unit - 0xD800) * 0x400 + (low - 0xDC00)), rest)
      else none
    | _ => none
  else some (Char.ofNat unit, rest)

/-- The character that a one-letter escape stands for. -/
def escapedLetter? : Char → Option Char
  | '"' => some '"'
  | '\\' => some '\\'
  | '/' => some '/'
  | 'b' => some '\x08'
  | 'f' => some '\x0c'
  | 'n' => some '\n'
  | 'r' => some '\r'
  | 't' => some '\t'
  | _ => none

/-- **The rest of a string** after its opening quote, with the characters read
so far in reverse. -/
def readString : Nat → List Char → List Char → Option (String × List Char)
  | 0, _, _ => none
  | _ + 1, _, [] => none
  | fuel + 1, acc, c :: rest =>
    if c == '"' then some (String.ofList acc.reverse, rest)
    else if c == '\\' then
      match rest with
      | 'u' :: more => do
        let (c, rest) ← escapedUnit? more
        readString fuel (c :: acc) rest
      | l :: more => do
        let c ← escapedLetter? l
        readString fuel (c :: acc) more
      | [] => none
    else if c.toNat < 0x20 then none
    else readString fuel (c :: acc) rest

/-- The natural number that decimal digits write. -/
def digitsValue (digits : List Char) : Nat :=
  digits.foldl (fun n c => n * 10 + (c.toNat - 48)) 0

/-- The number of an integer token: exact within the range of 64-bit words,
else the nearest double if there is one. -/
def integerValue (negative : Bool) (digits : List Char) : Option Document :=
  let n := digitsValue digits
  if negative then
    if n == 0 then some (.real (-0.0))
    else if n ≤ range63 then some (.integer (-(n : Int)))
    else some (.real (-(Decimal.mk n 0).toDouble))
  else if n < range64 then some (.integer n)
  else
    let x := (Decimal.mk n 0).toDouble
    if isFiniteDouble x then some (.real x) else none

/-- **A number**: an integer part without leading zeros, then perhaps a
fraction and an exponent. -/
def readNumber (cs : List Char) : Option (Document × List Char) := do
  let (negative, cs) := match cs with
    | '-' :: rest => (true, rest)
    | _ => (false, cs)
  let whole := cs.takeWhile Char.isDigit
  let cs := cs.dropWhile Char.isDigit
  if whole.isEmpty || (whole.length > 1 && whole.head? == some '0') then none
  let (fraction, cs, hasFraction) := match cs with
    | '.' :: rest => (rest.takeWhile Char.isDigit, rest.dropWhile Char.isDigit, true)
    | _ => ([], cs, false)
  if hasFraction && fraction.isEmpty then none
  let (exponent, cs, hasExponent) := match cs with
    | e :: rest =>
      if e == 'e' || e == 'E' then
        let (sign, rest) := match rest with
          | '+' :: r => ((1 : Int), r)
          | '-' :: r => (-1, r)
          | _ => (1, rest)
        let digits := rest.takeWhile Char.isDigit
        (if digits.isEmpty then none else some (sign * digitsValue digits), rest.dropWhile Char.isDigit, true)
      else (some 0, cs, false)
    | [] => (some 0, cs, false)
  let exponent ← exponent
  if hasFraction || hasExponent then
    let magnitude := (Decimal.mk (digitsValue (whole ++ fraction)) (exponent - fraction.length)).toDouble
    if isFiniteDouble magnitude then
      some (.real (if negative then -magnitude else magnitude), cs)
    else none
  else do
    let v ← integerValue negative whole
    some (v, cs)

/-- A keyword at the front of the text. -/
def keyword? (word : String) (cs : List Char) : Option (List Char) :=
  if word.toList.isPrefixOf cs then some (cs.drop word.length) else none

mutual

/-- **One value**, `depth` levels of nesting being left. Every call takes at
least one character, so `fuel` beyond their number is never used up. -/
def readValue : Nat → Nat → List Char → Option (Document × List Char)
  | 0, _, _ => none
  | fuel + 1, depth, cs =>
    match skipSpace cs with
    | [] => none
    | '"' :: rest => (readString (rest.length + 1) [] rest).map fun (s, r) => (.string s, r)
    | '[' :: rest =>
      match depth with
      | 0 => none
      | depth + 1 =>
        match skipSpace rest with
        | ']' :: r => some (.array [], r)
        | r => (readItems fuel depth [] r).map fun (items, r) => (.array items, r)
    | '\x7b' :: rest =>
      match depth with
      | 0 => none
      | depth + 1 =>
        match skipSpace rest with
        | '\x7d' :: r => some (.object [], r)
        | r => (readMembers fuel depth [] r).map fun (members, r) => (.ofMembers members, r)
    | 'n' :: rest => (keyword? "ull" rest).map fun r => (.null, r)
    | 't' :: rest => (keyword? "rue" rest).map fun r => (.bool true, r)
    | 'f' :: rest => (keyword? "alse" rest).map fun r => (.bool false, r)
    | cs => readNumber cs

/-- The items of an array from the first on, those read so far in reverse. -/
def readItems : Nat → Nat → List Document → List Char → Option (List Document × List Char)
  | 0, _, _, _ => none
  | fuel + 1, depth, acc, cs => do
    let (v, rest) ← readValue fuel depth cs
    match skipSpace rest with
    | ',' :: r => readItems fuel depth (v :: acc) r
    | ']' :: r => some ((v :: acc).reverse, r)
    | _ => none

/-- The members of an object from the first on, those read so far in reverse. -/
def readMembers : Nat → Nat → List (String × Document) → List Char →
    Option (List (String × Document) × List Char)
  | 0, _, _, _ => none
  | fuel + 1, depth, acc, cs =>
    match skipSpace cs with
    | '"' :: rest => do
      let (name, rest) ← readString (rest.length + 1) [] rest
      match skipSpace rest with
      | ':' :: rest => do
        let (v, rest) ← readValue fuel depth rest
        match skipSpace rest with
        | ',' :: r => readMembers fuel depth ((name, v) :: acc) r
        | '\x7d' :: r => some (((name, v) :: acc).reverse, r)
        | _ => none
      | _ => none
    | _ => none

end

/-- **Read one JSON document.** -/
def Document.parse? (text : String) : Option Document :=
  let cs := text.toList
  match readValue (cs.length + 1) 127 cs with
  | some (v, rest) => if (skipSpace rest).isEmpty then some v else none
  | none => none

end HttpBench.Json
