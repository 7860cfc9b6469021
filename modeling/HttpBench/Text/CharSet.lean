import HttpBench.Text.Split

/-!
# Sets of characters

A set of characters is given by **stretches** of numbers, both ends included,
and a table of it is written as lines of stretches in hexadecimal digits, such
as `30-39 5F`. A character is in the set if its number lies in a stretch.
-/

namespace HttpBench.Text

/-- The value of a hexadecimal digit, in upper case. -/
def digitValue (c : Char) : Nat := if c.isDigit then c.toNat - 48 else c.toNat - 55

/-- **The number that digits of a base write.** -/
def numberOf (base : Nat) (digits : List Char) : Nat := digits.foldl (fun n c => n * base + digitValue c) 0

/-- The words of lines. -/
def wordsOf (lines : List String) : List (List Char) := lines.flatMap fun line => splitAt ' ' line.toList

/-- **A set of characters.** -/
structure CharSet where
  stretches : Array (Nat × Nat)

namespace CharSet

/-- A stretch as it is written: both ends, or one number alone. -/
def stretch (word : List Char) : Nat × Nat :=
  match splitAt '-' word with
  | [first, last] => (numberOf 16 first, numberOf 16 last)
  | _ => (numberOf 16 word, numberOf 16 word)

/-- **The set that lines describe.** -/
def ofLines (lines : List String) : CharSet := { stretches := ((wordsOf lines).map stretch).toArray }

/-- **The set has a character.** -/
def contains (s : CharSet) (c : Char) : Bool := s.stretches.any fun r => r.1 ≤ c.toNat && c.toNat ≤ r.2

/-- Digits and the line below. -/
example : (ofLines ["30-39 5F"]).contains '7' = true := by decide +kernel

end CharSet

end HttpBench.Text
