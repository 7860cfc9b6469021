import HttpBench.Number.Scalar

/-!
# JSON values

A value over a number system `R` for its fractional numbers. Integers stand
apart from fractional numbers: `1` and `1.0` are different values, and an
integer field takes only the first.
-/

namespace HttpBench.Json

/-- **A JSON value.** The names in an object are distinct; `Value.ofMembers`
builds one from members that may repeat a name. -/
inductive Value (R : Type) where
  | null
  | bool (b : Bool)
  | integer (n : Int)
  | real (x : R)
  | string (s : String)
  | array (items : List (Value R))
  | object (members : List (String × Value R))

instance {R : Type} : Inhabited (Value R) := ⟨.null⟩

/-- A document whose fractional numbers are doubles. -/
abbrev Document := Value Float

/-- Set a member: a name that is there keeps its place and takes the new value. -/
def setMember {A : Type} (members : List (String × A)) (name : String) (value : A) : List (String × A) :=
  match members with
  | [] => [(name, value)]
  | (n, v) :: rest => if n == name then (n, value) :: rest else (n, v) :: setMember rest name value

namespace Value
variable {R : Type}

/-- An object of the given members; of several with one name the last counts. -/
def ofMembers (members : List (String × Value R)) : Value R :=
  .object (members.foldl (fun kept m => setMember kept m.1 m.2) [])

/-- A member of an object by name. -/
def get? (v : Value R) (name : String) : Option (Value R) :=
  match v with
  | .object members => (members.find? (·.1 == name)).map (·.2)
  | _ => none

/-- A natural number. -/
def nat (n : Nat) : Value R := .integer n

/-- An optional value, `null` where there is none. -/
def ofOption {A : Type} (encode : A → Value R) : Option A → Value R
  | some a => encode a
  | none => .null

/-- A list of values. -/
def ofList {A : Type} (encode : A → Value R) (items : List A) : Value R :=
  .array (items.map encode)

/-- A table of values by name. -/
def ofTable {A : Type} (encode : A → Value R) (entries : List (String × A)) : Value R :=
  .object (entries.map fun e => (e.1, encode e.2))

end Value

end HttpBench.Json
