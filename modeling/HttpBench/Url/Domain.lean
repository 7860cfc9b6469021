import HttpBench.Text.Mark
import HttpBench.Url.Joiner
import HttpBench.Url.Percent
import HttpBench.Url.PlainForm
import HttpBench.Url.Refused

/-!
# Domain names

A host name in a URL is written in ASCII: upper case becomes lower case, and
a label with characters beyond ASCII becomes `xn--` with its encoded form,
which sorts the extra characters by code point and writes the distance from
one to the next in digits of a base of 36 that adapts as it goes.

What is encoded is the plain form of a label, and a label that already comes
encoded is taken only if it is what encoding gives. Labels that start with a
mark, that hold a joiner without effect or that are too long, and domains that
mix directions are refused.
-/

namespace HttpBench.Url

/-! ## The encoded form of a label -/

/-- A digit: `a` to `z`, then `0` to `9`. -/
def labelDigit (d : Nat) : Char := if d < 26 then Char.ofNat (97 + d) else Char.ofNat (22 + d)

/-- The value of a digit. -/
def labelDigit? (c : Char) : Option Nat :=
  if 'a' ≤ c && c ≤ 'z' then some (c.toNat - 97)
  else if '0' ≤ c && c ≤ '9' then some (c.toNat - 22)
  else none

/-- The threshold of a digit: digits below it end a number. -/
def threshold (place bias : Nat) : Nat :=
  if place ≤ bias then 1 else min (place - bias) 26

theorem threshold_pos (place bias : Nat) : 0 < threshold place bias := by
  unfold threshold
  split <;> omega

/-- Divide by 35 until at most 455 is left; `step` counts 36 for each time. -/
def settleBias (delta step : Nat) : Nat :=
  if 455 < delta then settleBias (delta / 35) (step + 36)
  else step + 36 * delta / (delta + 38)
termination_by delta
decreasing_by exact Nat.div_lt_self (by omega) (by omega)

/-- **The bias after a distance**: small distances move the thresholds up. -/
def nextBias (delta points : Nat) (first : Bool) : Nat :=
  let scaled := if first then delta / 700 else delta / 2
  settleBias (scaled + scaled / points) 0

/-- **The digits of a distance**, least significant first. -/
def distanceDigits (bias place q : Nat) : List Char :=
  let t := threshold place bias
  if q < t then [labelDigit q]
  else labelDigit (t + (q - t) % (36 - t)) :: distanceDigits bias (place + 36) ((q - t) / (36 - t))
termination_by q
decreasing_by
  have hpos := threshold_pos place bias
  exact Nat.lt_of_le_of_lt (Nat.div_le_self _ _) (by omega)

/-- The state of an encoder: the output, the distance so far, the bias and the
number of characters that are written. -/
structure LabelEncoder where
  output : List Char
  delta : Nat
  bias : Nat
  written : Nat

/-- Pass one character of the label while the code point `point` is inserted. -/
def LabelEncoder.pass (basic point : Nat) (s : LabelEncoder) (c : Char) : LabelEncoder :=
  if c.toNat < point then { s with delta := s.delta + 1 }
  else if c.toNat == point then
    { output := s.output ++ distanceDigits s.bias 36 s.delta
      delta := 0
      bias := nextBias s.delta (s.written + 1) (s.written == basic)
      written := s.written + 1 }
  else s

/-- **The encoded form of a label** without its mark. -/
def encodeLabel (label : List Char) : List Char :=
  let basic := label.filter (·.toNat < 0x80)
  let extra := ((label.filter (0x80 ≤ ·.toNat)).map (·.toNat)).eraseDups.mergeSort (· ≤ ·)
  let start : LabelEncoder :=
    { output := basic ++ (if basic.isEmpty then [] else ['-']), delta := 0, bias := 72, written := basic.length }
  let step := fun (state : LabelEncoder × Nat) (point : Nat) =>
    let s := { state.1 with delta := state.1.delta + (point - state.2) * (state.1.written + 1) }
    let s := label.foldl (LabelEncoder.pass basic.length point) s
    ({ s with delta := s.delta + 1 }, point + 1)
  (extra.foldl step (start, 0x80)).1.output

/-- Read one distance: its value and the digits behind it. -/
def readDistance (bias : Nat) : List Char → Nat → Nat → Nat → Option (Nat × List Char)
  | [], _, _, _ => none
  | c :: rest, place, weight, sum => do
    let d ← labelDigit? c
    let t := threshold place bias
    if d < t then some (sum + d * weight, rest)
    else readDistance bias rest (place + 36) (weight * (36 - t)) (sum + d * weight)

/-- Insert the characters that the distances stand for. -/
def insertPoints : Nat → List Char → List Char → Nat → Nat → Nat → Option (List Char)
  | 0, _, _, _, _, _ => none
  | fuel + 1, digits, label, point, position, bias =>
    if digits.isEmpty then some label
    else do
      let (distance, rest) ← readDistance bias digits 36 1 position
      let length := label.length + 1
      let bias := nextBias (distance - position) length (position == 0 && point == 0x80)
      let point := point + distance / length
      let index := distance % length
      if 0x110000 ≤ point || (0xD800 ≤ point && point < 0xE000) then none
      else
        insertPoints fuel rest (label.take index ++ Char.ofNat point :: label.drop index) point (index + 1) bias

/-- **The label of an encoded form** without its mark. -/
def decodeLabel? (text : List Char) : Option (List Char) :=
  let reversed := text.reverse
  let digits := (reversed.takeWhile (· != '-')).reverse
  let basic := ((reversed.dropWhile (· != '-')).drop 1).reverse
  if digits.isEmpty || basic.any (0x80 ≤ ·.toNat) then none
  else insertPoints (text.length + 1) digits basic 0x80 0 72

/-! ## From a host text to a domain -/

/-- The mark in front of an encoded label. -/
def encodedMark : List Char := ['x', 'n', '-', '-']

/-- The most characters of a label that is encoded. -/
def longestLabel : Nat := 1000

/-- The most characters of an encoded label, behind its mark. -/
def longestEncoded : Nat := 2000

/-- **The label that a text stands for**: an encoded label is decoded, and what
comes out has to need encoding, be in plain form and give the same text again.
No label starts with a mark. -/
def shownLabel? (text : List Char) : Option (List Char) := do
  let label ←
    if encodedMark.isPrefixOf text then do
      if longestEncoded < text.length - 4 then none
      let decoded ← decodeLabel? (text.drop 4)
      if decoded.all (·.toNat < 0x80) || decoded.any isForbidden || plainLabel decoded != decoded
          || encodeLabel decoded != text.drop 4
      then none else some decoded
    else some text
  let isAscii := label.all (·.toNat < 0x80)
  let isWellFormed := !(label.head?.map Text.isMark).getD false && joinersAgree label && label.length ≤ longestLabel
  if isAscii || isWellFormed then some label else none

/-- **A label in ASCII.** -/
def asciiLabel (label : List Char) : List Char :=
  if label.all (·.toNat < 0x80) then label else encodedMark ++ encodeLabel label

/-- **A domain in ASCII** from the text of a host. -/
def asciiDomain? (host : List Char) : Option (List Char) := do
  let plain := plainLabel host
  if plain.any isForbidden then none
  let shown ← (Text.splitAt '.' plain).mapM shownLabel?
  if directionsAgree shown then some (['.'].intercalate (shown.map asciiLabel)) else none

end HttpBench.Url
