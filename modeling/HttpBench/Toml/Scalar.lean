import HttpBench.Number.Places
import HttpBench.Number.Shortest
import HttpBench.Number.Word
import HttpBench.Toml.Node

/-!
# Keys and scalar values of TOML

Every reader takes the characters that are left and returns what it read with
what is left after it, or refuses.
-/

namespace HttpBench.Toml

open Number

/-- A space or a tab. -/
def isBlank (c : Char) : Bool := c == ' ' || c == '\t'

/-- Drop spaces and tabs. -/
def skipBlank (cs : List Char) : List Char := cs.dropWhile isBlank

/-- A character of a comment or of text outside escapes. -/
def isPlain (c : Char) : Bool := c == '\t' || (0x20 ≤ c.toNat && c.toNat != 0x7F)

/-- Drop a comment, if one starts here. -/
def skipComment (cs : List Char) : List Char :=
  match cs with
  | '#' :: rest => rest.dropWhile isPlain
  | _ => cs

/-- A line break: a line feed, perhaps behind a carriage return. -/
def lineBreak? : List Char → Option (List Char)
  | '\n' :: rest => some rest
  | '\r' :: '\n' :: rest => some rest
  | _ => none

/-- Drop blanks, comments and line breaks. -/
def skipLines : Nat → List Char → List Char
  | 0, cs => cs
  | fuel + 1, cs =>
    let cs := skipComment (skipBlank cs)
    match lineBreak? cs with
    | some rest => skipLines fuel rest
    | none => cs

/-! ## Strings -/

/-- The value of a hexadecimal digit. -/
def hex? (c : Char) : Option Nat :=
  if c.isDigit then some (c.toNat - 48)
  else if 'a' ≤ c && c ≤ 'f' then some (c.toNat - 87)
  else if 'A' ≤ c && c ≤ 'F' then some (c.toNat - 55)
  else none

/-- The character that `count` hexadecimal digits name. -/
def readCodePoint (count : Nat) (cs : List Char) : Option (Char × List Char) := do
  let digits ← (cs.take count).mapM hex?
  let n := digits.foldl (fun n d => n * 16 + d) 0
  if digits.length == count && n < 0x110000 && !(0xD800 ≤ n && n < 0xE000) then
    some (Char.ofNat n, cs.drop count)
  else none

/-- **An escape** behind its backslash. -/
def readEscape : List Char → Option (Char × List Char)
  | 'b' :: rest => some ('\x08', rest)
  | 't' :: rest => some ('\t', rest)
  | 'n' :: rest => some ('\n', rest)
  | 'f' :: rest => some ('\x0c', rest)
  | 'r' :: rest => some ('\r', rest)
  | '"' :: rest => some ('"', rest)
  | '\\' :: rest => some ('\\', rest)
  | 'u' :: rest => readCodePoint 4 rest
  | 'U' :: rest => readCodePoint 8 rest
  | _ => none

/-- The rest of a basic string on one line. -/
def readBasic : Nat → List Char → List Char → Option (String × List Char)
  | 0, _, _ => none
  | _ + 1, _, [] => none
  | fuel + 1, acc, c :: rest =>
    if c == '"' then some (String.ofList acc.reverse, rest)
    else if c == '\\' then do
      let (c, rest) ← readEscape rest
      readBasic fuel (c :: acc) rest
    else if isPlain c then readBasic fuel (c :: acc) rest
    else none

/-- The single quote. -/
def apostrophe : Char := '\x27'

/-- A literal string on one line, behind its opening quote. -/
def readLiteral (cs : List Char) : Option (String × List Char) :=
  let body := cs.takeWhile fun c => isPlain c && c != apostrophe
  match cs.drop body.length with
  | c :: rest => if c == apostrophe then some (String.ofList body, rest) else none
  | [] => none

/-- Three or more quotes in a row: all beyond the last three belong to the
string, at most two. -/
def closing? (quote : Char) (cs : List Char) : Option (List Char × List Char) :=
  let run := (cs.takeWhile (· == quote)).length
  if 3 ≤ run && run ≤ 5 then some (List.replicate (run - 3) quote, cs.drop run) else none

/-- A backslash at the end of a line drops the blanks and line breaks behind it. -/
def continuation? (cs : List Char) : Option (List Char) :=
  match lineBreak? (skipBlank cs) with
  | some rest => some (rest.dropWhile fun c => isBlank c || c == '\n' || c == '\r')
  | none => none

/-- **The rest of a string over several lines**, basic or literal. -/
def readLong (quote : Char) : Nat → List Char → List Char → Option (String × List Char)
  | 0, _, _ => none
  | _ + 1, _, [] => none
  | fuel + 1, acc, c :: rest =>
    if c == quote then
      match closing? quote (c :: rest) with
      | some (extra, rest) => some (String.ofList (acc.reverse ++ extra), rest)
      | none =>
        if ((c :: rest).takeWhile (· == quote)).length < 3 then readLong quote fuel (c :: acc) rest
        else none
    else if c == '\\' && quote == '"' then
      match continuation? rest with
      | some rest => readLong quote fuel acc rest
      | none => do
        let (c, rest) ← readEscape rest
        readLong quote fuel (c :: acc) rest
    else
      match lineBreak? (c :: rest) with
      | some rest => readLong quote fuel ('\n' :: acc) rest
      | none => if isPlain c then readLong quote fuel (c :: acc) rest else none

/-- A string over several lines behind its opening quotes; a line break right
there is no part of it. -/
def readLongBody (quote : Char) (cs : List Char) : Option (String × List Char) :=
  readLong quote (cs.length + 1) [] ((lineBreak? cs).getD cs)

/-- **A string** of any of the four kinds. -/
def readString : List Char → Option (String × List Char)
  | '"' :: '"' :: '"' :: rest => readLongBody '"' rest
  | '"' :: rest => readBasic (rest.length + 1) [] rest
  | a :: b :: c :: rest =>
    if a == apostrophe && b == apostrophe && c == apostrophe then readLongBody apostrophe rest
    else if a == apostrophe then readLiteral (b :: c :: rest)
    else none
  | a :: rest => if a == apostrophe then readLiteral rest else none
  | [] => none

/-! ## Keys -/

/-- A character of a bare key. -/
def isBare (c : Char) : Bool := c.isAlphanum || c == '_' || c == '-'

/-- One part of a key: bare, or a string on one line. -/
def readKeyPart (cs : List Char) : Option (String × List Char) :=
  match cs with
  | '"' :: rest => readBasic (rest.length + 1) [] rest
  | c :: rest =>
    if c == apostrophe then readLiteral rest
    else
      let bare := cs.takeWhile isBare
      if bare.isEmpty then none else some (String.ofList bare, cs.drop bare.length)
  | [] => none

/-- The deepest nesting of values, and the greatest number of parts of a key. -/
def maxDepth : Nat := 79

/-- **A dotted key**, blanks being allowed around its points. -/
def readKey : Nat → List Char → Option (List String × List Char)
  | 0, _ => none
  | fuel + 1, cs => do
    let (part, rest) ← readKeyPart (skipBlank cs)
    match skipBlank rest with
    | '.' :: more => do
      let (parts, rest) ← readKey fuel more
      some (part :: parts, rest)
    | rest => some ([part], rest)

/-! ## Numbers -/

/-- Further digits, each perhaps behind an underscore. -/
def moreDigits (isDigit : Char → Bool) : List Char → List Char × List Char
  | [] => ([], [])
  | [c] => if isDigit c then ([c], []) else ([], [c])
  | c :: d :: rest =>
    if isDigit c then
      let (digits, rest) := moreDigits isDigit (d :: rest)
      (c :: digits, rest)
    else if c == '_' && isDigit d then
      let (digits, rest) := moreDigits isDigit rest
      (d :: digits, rest)
    else ([], c :: d :: rest)

/-- **Digits with single underscores between them.** -/
def readDigits (isDigit : Char → Bool) : List Char → Option (List Char × List Char)
  | [] => none
  | c :: rest =>
    if isDigit c then
      let (digits, rest) := moreDigits isDigit rest
      some (c :: digits, rest)
    else none

/-- The number that digits of a base write. -/
def digitsValue (base : Nat) (digits : List Char) : Nat :=
  digits.foldl (fun n c => n * base + (hex? c).getD 0) 0

/-- Split a sign off. -/
def splitSign : List Char → Bool × List Char
  | '-' :: rest => (true, rest)
  | '+' :: rest => (false, rest)
  | cs => (false, cs)

/-- A sign and an integer part without leading zeros. -/
def readWhole (cs : List Char) : Option ((Bool × List Char) × List Char) := do
  let (negative, cs) := splitSign cs
  match cs with
  | '0' :: rest => some ((negative, ['0']), rest)
  | _ => do
    let (digits, rest) ← readDigits Char.isDigit cs
    some ((negative, digits), rest)

/-- An integer within the range of 64 bits. -/
def boundedInteger (negative : Bool) (n : Nat) : Option Node :=
  if negative then if n ≤ range63 then some (.integer (-(n : Int))) else none
  else if n < range63 then some (.integer n) else none

/-- An integer of a base with a letter for it. -/
def readBased (base : Nat) (cs : List Char) : Option (Node × List Char) := do
  let inBase := fun c => match hex? c with
    | some d => decide (d < base)
    | none => false
  let (digits, rest) ← readDigits inBase cs
  let node ← boundedInteger false (digitsValue base digits)
  some (node, rest)

/-- **An integer.** -/
def readInteger (cs : List Char) : Option (Node × List Char) :=
  match cs with
  | '0' :: 'x' :: rest => readBased 16 rest
  | '0' :: 'o' :: rest => readBased 8 rest
  | '0' :: 'b' :: rest => readBased 2 rest
  | _ => do
    let ((negative, digits), rest) ← readWhole cs
    let node ← boundedInteger negative (digitsValue 10 digits)
    some (node, rest)

/-- An exponent behind its letter. -/
def readExponent (cs : List Char) : Option (Int × List Char) := do
  let (negative, cs) := splitSign cs
  let (digits, rest) ← readDigits Char.isDigit cs
  let n : Int := digitsValue 10 digits
  some (if negative then -n else n, rest)

/-- **A float**: an integer part, then a fraction, an exponent or both. One
beyond the largest double is refused, unless it is negative. -/
def readFloat (cs : List Char) : Option (Node × List Char) := do
  let ((negative, whole), rest) ← readWhole cs
  let (fraction, rest, hasFraction) ← match rest with
    | '.' :: more => do
      let (digits, rest) ← readDigits Char.isDigit more
      some (digits, rest, true)
    | _ => some ([], rest, false)
  let (exponent, rest, hasExponent) ← match rest with
    | e :: more =>
      if e == 'e' || e == 'E' then do
        let (n, rest) ← readExponent more
        some (n, rest, true)
      else some (0, rest, false)
    | [] => some (0, rest, false)
  if !hasFraction && !hasExponent then none
  else
    let magnitude := (Decimal.mk (digitsValue 10 (whole ++ fraction)) (exponent - fraction.length)).toDouble
    if negative then some (.float (-magnitude), rest)
    else if isFiniteDouble magnitude then some (.float magnitude, rest)
    else none

/-- A word at the front of the text. -/
def word? (word : String) (cs : List Char) : Option (List Char) :=
  if word.toList.isPrefixOf cs then some (cs.drop word.length) else none

/-- Infinity or NaN, with a sign. -/
def readSpecial (cs : List Char) : Option (Node × List Char) :=
  let (negative, cs) := splitSign cs
  match word? "inf" cs, word? "nan" cs with
  | some rest, _ => some (.float (if negative then -1.0 / 0.0 else 1.0 / 0.0), rest)
  | _, some rest => some (.float (0.0 / 0.0), rest)
  | _, _ => none

/-! ## Dates and times -/

/-- A number of a fixed number of digits within bounds. -/
def readFixed (count low high : Nat) (cs : List Char) : Option (Nat × List Char) :=
  let digits := cs.take count
  let n := digitsValue 10 digits
  if digits.length == count && digits.all Char.isDigit && low ≤ n && n ≤ high then
    some (n, cs.drop count)
  else none

/-- One given character. -/
def skipChar (c : Char) : List Char → Option (List Char)
  | d :: rest => if c == d then some rest else none
  | [] => none

/-- The days of a month. -/
def daysIn (year month : Nat) : Nat :=
  if month == 2 then
    if year % 4 == 0 && (year % 100 != 0 || year % 400 == 0) then 29 else 28
  else if month == 4 || month == 6 || month == 9 || month == 11 then 30
  else 31

/-- A number of so many digits at least. -/
def figures (count n : Nat) : String := padLeft '0' count (Nat.repr n)

/-- A date. -/
def readDate (cs : List Char) : Option (String × List Char) := do
  let (year, cs) ← readFixed 4 0 9999 cs
  let (month, cs) ← readFixed 2 1 12 (← skipChar '-' cs)
  let (day, cs) ← readFixed 2 1 (daysIn year month) (← skipChar '-' cs)
  some (figures 4 year ++ "-" ++ figures 2 month ++ "-" ++ figures 2 day, cs)

/-- The places of a second. Nine of them count, and no zeros behind the others. -/
def fractionText (digits : List Char) : String :=
  match ((digits.take 9).reverse.dropWhile (· == '0')).reverse with
  | [] => ""
  | places => "." ++ String.ofList places

/-- A time of day. -/
def readTime (cs : List Char) : Option (String × List Char) := do
  let (hour, cs) ← readFixed 2 0 23 cs
  let (minute, cs) ← readFixed 2 0 59 (← skipChar ':' cs)
  let (second, cs) ← readFixed 2 0 60 (← skipChar ':' cs)
  let text := figures 2 hour ++ ":" ++ figures 2 minute ++ ":" ++ figures 2 second
  match cs with
  | '.' :: rest =>
    let digits := rest.takeWhile Char.isDigit
    some (if digits.isEmpty then (text, cs) else (text ++ fractionText digits, rest.drop digits.length))
  | _ => some (text, cs)

/-- An offset from universal time. No offset is a positive one. -/
def readOffset (cs : List Char) : Option (String × List Char) :=
  match cs with
  | 'Z' :: rest | 'z' :: rest => some ("Z", rest)
  | sign :: rest =>
    if sign == '+' || sign == '-' then do
      let (hours, cs) ← readFixed 2 0 23 rest
      let (minutes, cs) ← readFixed 2 0 59 (← skipChar ':' cs)
      let sign := if hours = 0 && minutes = 0 then "+" else sign.toString
      some (sign ++ figures 2 hours ++ ":" ++ figures 2 minutes, cs)
    else none
  | [] => none

/-- A time of day, perhaps with an offset, behind a date. -/
def readTimeAfter (date : String) (cs : List Char) : Option (String × List Char) := do
  let (time, cs) ← readTime cs
  let (offset, cs) := (readOffset cs).getD ("", cs)
  some (date ++ "T" ++ time ++ offset, cs)

/-- **A date, a time or both**, in the one way to write it. -/
def readMoment (cs : List Char) : Option (Node × List Char) := do
  let (text, rest) ← match readDate cs with
    | some (date, rest) =>
      match rest with
      | mark :: more =>
        if mark == 'T' || mark == 't' then readTimeAfter date more
        else if mark == ' ' then some ((readTimeAfter date more).getD (date, rest))
        else some (date, rest)
      | [] => some (date, rest)
    | none => readTime cs
  some (.moment text, rest)

/-- **A value that starts like a number.** -/
def readNumeric (cs : List Char) : Option (Node × List Char) :=
  (readMoment cs).orElse fun _ => (readFloat cs).orElse fun _ =>
    (readSpecial cs).orElse fun _ => readInteger cs

end HttpBench.Toml
