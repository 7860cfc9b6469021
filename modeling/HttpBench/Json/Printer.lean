import HttpBench.Json.Value

/-!
# Writing JSON

`Document.compact` writes a document on one line without spaces,
`Document.pretty` with one member or item a line, indented by two spaces. A
number that is not finite is written as `null`.
-/

namespace HttpBench.Json

open Number

/-- A hexadecimal digit, in lower case. -/
def hexChar (n : Nat) : Char := if n < 10 then Char.ofNat (48 + n) else Char.ofNat (87 + n)

/-- **The written form of one character** in a string: quotes, backslashes and
control characters are escaped, all else stands for itself. -/
def escapeChar (c : Char) : List Char :=
  match c with
  | '"' => ['\\', '"']
  | '\\' => ['\\', '\\']
  | '\n' => ['\\', 'n']
  | '\r' => ['\\', 'r']
  | '\t' => ['\\', 't']
  | '\x08' => ['\\', 'b']
  | '\x0c' => ['\\', 'f']
  | c =>
    if c.toNat < 0x20 then ['\\', 'u', '0', '0', hexChar (c.toNat / 16), hexChar (c.toNat % 16)]
    else [c]

/-- A string in quotes. -/
def quote (s : String) : String :=
  "\"" ++ String.ofList (s.toList.flatMap escapeChar) ++ "\""

/-- The text of a number. -/
def realText (x : Float) : String :=
  if isFiniteDouble x then doubleText x else "null"

mutual

/-- **A document on one line.** -/
def Document.compact : Document → String
  | .null => "null"
  | .bool b => if b then "true" else "false"
  | .integer n => toString n
  | .real x => realText x
  | .string s => quote s
  | .array items => "[" ++ ",".intercalate (compactItems items) ++ "]"
  | .object members => "\x7b" ++ ",".intercalate (compactMembers members) ++ "\x7d"

/-- The items of an array, each on one line. -/
def compactItems : List Document → List String
  | [] => []
  | v :: rest => Document.compact v :: compactItems rest

/-- The members of an object, each on one line. -/
def compactMembers : List (String × Document) → List String
  | [] => []
  | (name, v) :: rest => (quote name ++ ":" ++ Document.compact v) :: compactMembers rest

end

/-- The line break before an item at a level of nesting. -/
def lineBreak (level : Nat) : String := "\n" ++ String.ofList (List.replicate (2 * level) ' ')

/-- Brackets around blocks, one a line; nothing between them when there is none. -/
def bracketed (opening closing : String) (level : Nat) (blocks : List String) : String :=
  if blocks.isEmpty then opening ++ closing
  else opening ++ lineBreak (level + 1) ++ ("," ++ lineBreak (level + 1)).intercalate blocks
    ++ lineBreak level ++ closing

mutual

/-- A document over several lines, at a level of nesting. -/
def prettyAt (level : Nat) : Document → String
  | .array items => bracketed "[" "]" level (prettyItems level items)
  | .object members => bracketed "\x7b" "\x7d" level (prettyMembers level members)
  | .null => "null"
  | .bool b => if b then "true" else "false"
  | .integer n => toString n
  | .real x => realText x
  | .string s => quote s

/-- The items of an array, one level deeper. -/
def prettyItems (level : Nat) : List Document → List String
  | [] => []
  | v :: rest => prettyAt (level + 1) v :: prettyItems level rest

/-- The members of an object, one level deeper. -/
def prettyMembers (level : Nat) : List (String × Document) → List String
  | [] => []
  | (name, v) :: rest => (quote name ++ ": " ++ prettyAt (level + 1) v) :: prettyMembers level rest

end

/-- **A document over several lines.** -/
def Document.pretty (v : Document) : String := prettyAt 0 v

end HttpBench.Json
