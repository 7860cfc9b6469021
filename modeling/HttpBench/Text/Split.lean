/-!
# Parts of a text

A text splits at every occurrence of a character into parts without it. There is
at least one part, which is empty where the text is.
-/

namespace HttpBench.Text

/-- **Split a text** at every occurrence of a character. -/
def splitAt (mark : Char) (cs : List Char) : List (List Char) :=
  cs.foldr (fun c parts =>
    match parts with
    | [] => [[c]]
    | part :: rest => if c == mark then [] :: part :: rest else (c :: part) :: rest) [[]]

end HttpBench.Text
