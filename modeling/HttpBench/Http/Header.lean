/-!
# Header fields

A field name is a token: letters, digits and a few marks. A field value is any
text without control characters other than the tab. Names compare without
regard to the case of ASCII letters.
-/

namespace HttpBench.Header

/-- **A character of a field name.** -/
def isTokenChar (c : Char) : Bool :=
  c.isAlphanum || "!#$%&'*+-.^_\x60|~".toList.contains c

/-- The name is a token. A name has fewer than `2 ^ 16` characters. -/
def isName (s : String) : Bool :=
  !s.isEmpty && s.toList.all isTokenChar && s.utf8ByteSize < 65536

/-- **A character of a field value.** -/
def isValueChar (c : Char) : Bool := (0x20 ≤ c.toNat && c.toNat != 0x7F) || c == '\t'

/-- The value holds no control characters. -/
def isValue (s : String) : Bool := s.toList.all isValueChar

/-- Two names are the same field. -/
def sameName (a b : String) : Bool := a.toLower == b.toLower

end HttpBench.Header
