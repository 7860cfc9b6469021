import HttpBench.Http.Fields
import HttpBench.Number.Word
import HttpBench.Text.Split

/-!
# The fields that frame a message

Where a message ends is said by its `transfer-encoding` and `content-length`,
and whether its connection goes on by `connection`. Their values are lists of
words between commas, in visible ASCII; a value with any other byte says
nothing.
-/

namespace HttpBench.Framing

/-- A value in bytes. -/
abbrev FieldBytes := List UInt8

/-- The text of a value, if all of it is visible. -/
def visible? (value : FieldBytes) : Option (List Char) :=
  if value.all fun b => b == 9 || (0x20 ≤ b && b ≤ 0x7E) then some (value.map fun b => Char.ofNat b.toNat)
  else none

/-- A blank between words. -/
def isBlank (c : Char) : Bool := c == ' ' || c == '\t'

/-- A word without the blanks around it. -/
def trim (cs : List Char) : List Char :=
  ((cs.dropWhile isBlank).reverse.dropWhile isBlank).reverse

/-- **The words of a value**, if all of it is visible. -/
def words? (value : FieldBytes) : Option (List (List Char)) :=
  (visible? value).map fun cs => (Text.splitAt ',' cs).map trim

/-- Two words are the same but for the case of letters. -/
def sameWord (word : List Char) (text : String) : Bool := (String.ofList word).toLower == text

/-- **A value names a word.** -/
def names (value : FieldBytes) (text : String) : Bool :=
  match words? value with
  | some words => words.any (sameWord · text)
  | none => false

/-- **The last coding is chunked**, of a `transfer-encoding` with these values. -/
def isChunked (values : List FieldBytes) : Bool :=
  match values.getLast?.bind words? with
  | some words => (words.getLast?.map (sameWord · "chunked")).getD false
  | none => false

/-- The most that a length may be, and one more. -/
def lengthLimit : Nat := Number.range64

/-- The length that a word says. -/
def length? (word : List Char) : Option Nat :=
  if word.isEmpty || !word.all Char.isDigit then none
  else
    let n := word.foldl (fun n c => n * 10 + (c.toNat - 48)) 0
    if n < lengthLimit then some n else none

/-- **The length that all words of all values agree on**, of a
`content-length` with these values. -/
def contentLength? (values : List FieldBytes) : Option Nat := do
  let words ← values.mapM words?
  match ← words.flatten.mapM length? with
  | [] => none
  | n :: rest => if rest.all (· == n) then some n else none

end HttpBench.Framing
