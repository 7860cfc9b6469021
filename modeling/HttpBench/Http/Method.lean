import HttpBench.Json.Decode
import HttpBench.Setup.Error

/-!
# Request methods
-/

namespace HttpBench

open Json

/-- **A request method.** -/
inductive Method where
  | get
  | post
  | put
  | delete
  | patch
  | head
  | options
deriving DecidableEq, Repr, Inhabited

namespace Method

/-- The name of a method on the wire. -/
def name : Method → String
  | .get => "GET"
  | .post => "POST"
  | .put => "PUT"
  | .delete => "DELETE"
  | .patch => "PATCH"
  | .head => "HEAD"
  | .options => "OPTIONS"

/-- The methods by name. -/
def names : List (String × Method) :=
  [("GET", .get), ("POST", .post), ("PUT", .put), ("DELETE", .delete), ("PATCH", .patch), ("HEAD", .head),
    ("OPTIONS", .options)]

/-- A method by its name in any case of letters. -/
def named? (name : String) : Option Method :=
  (names.find? (·.1 == name.toUpper)).map (·.2)

/-- **A method by its name**, or what is wrong with it. -/
def parse (name : String) : Except SetupError Method :=
  match named? name with
  | some method => .ok method
  | none => .error (.unknownValue "method" name)

/-- Read the written form. -/
def ofJson? {R : Type} : Decoder R Method := asChoice names

end Method

end HttpBench
