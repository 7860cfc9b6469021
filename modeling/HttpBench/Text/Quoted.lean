import HttpBench.Text.Unseen

/-!
# Texts between quotes

A text that is shown between quotes shows its quotes and backslashes behind a
backslash, and whatever cannot be seen on its own by its number.
-/

namespace HttpBench.Text

/-- A character by its number. -/
def numbered (c : Char) : String :=
  "\\u\x7b" ++ String.ofList (Nat.toDigits 16 c.toNat) ++ "\x7d"

/-- **A character** inside quotes. -/
def quotedChar (c : Char) : String :=
  match c with
  | '\x00' => "\\0"
  | '\t' => "\\t"
  | '\n' => "\\n"
  | '\r' => "\\r"
  | '"' => "\\\""
  | '\\' => "\\\\"
  | c => if (c.toNat < 0x20 || 0x7F ≤ c.toNat) && isUnseen c then numbered c else String.singleton c

/-- **A text between quotes.** -/
def quoted (text : String) : String := "\"" ++ String.join (text.toList.map quotedChar) ++ "\""

/-- A quote and the end of a line. -/
example : quoted "e\"\n" = "\"e\\\"\\n\"" := by decide +kernel

end HttpBench.Text
