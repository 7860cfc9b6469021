import HttpBench.Json.Value

/-!
# Decoding JSON into types

A `Decoder` reads a value as something of a type or refuses it. A record is
read field by field with a `Reader`, which takes its fields by name from an
object or, in the order in which it asks for them, from an array.

Fields that the reader does not ask for are ignored in an object, while an
array must be used up, except for an open record.
-/

namespace HttpBench.Json

open Number

/-- **A decoder** refuses a value by answering nothing. -/
abbrev Decoder (R A : Type) := Value R → Option A

/-- The fields that are left to read. -/
inductive Fields (R : Type) where
  | named (members : List (String × Value R))
  | listed (items : List (Value R))

/-- **A reader of fields.** -/
abbrev Reader (R A : Type) := StateT (Fields R) Option A

section
variable {R A : Type}

/-- Take the next field, if it is there. -/
def takeField (name : String) : Reader R (Option (Value R)) := do
  match ← get with
  | .named members => pure ((members.find? (·.1 == name)).map (·.2))
  | .listed [] => pure none
  | .listed (v :: rest) => do
    set (Fields.listed rest)
    pure (some v)

/-- **A field that must be there.** -/
def field (name : String) (decode : Decoder R A) : Reader R A := do
  match ← takeField name with
  | some v => StateT.lift (decode v)
  | none => failure

/-- **A field with a default** for when it is missing. -/
def fieldOr (name : String) (decode : Decoder R A) (default : A) : Reader R A := do
  match ← takeField name with
  | some v => StateT.lift (decode v)
  | none => pure default

/-- `null` is nothing, all else must be a value. -/
def nullable (decode : Decoder R A) : Decoder R (Option A)
  | .null => some none
  | v => (decode v).map some

/-- **A field that an object may leave out** or set to `null`; in an array it
has its place. -/
def optionalField (name : String) (decode : Decoder R A) : Reader R (Option A) := do
  match ← get with
  | .named _ => fieldOr name (nullable decode) none
  | .listed _ => field name (nullable decode)

/-- **A record** from an object, or from an array that holds its fields and
nothing else. -/
def record (reader : Reader R A) : Decoder R A
  | .object members => (reader (.named members)).map (·.1)
  | .array items =>
    match reader (.listed items) with
    | some (a, .listed []) => some a
    | _ => none
  | _ => none

/-- **An open record**: an array may hold more than its fields. -/
def openRecord (reader : Reader R A) : Decoder R A
  | .object members => (reader (.named members)).map (·.1)
  | .array items => (reader (.listed items)).map (·.1)
  | _ => none

/-- A truth value. -/
def asBool : Decoder R Bool
  | .bool b => some b
  | _ => none

/-- A text. -/
def asString : Decoder R String
  | .string s => some s
  | _ => none

/-- **A natural number below a bound**, written as an integer. -/
def asNatBelow (bound : Nat) : Decoder R Nat
  | .integer n => if 0 ≤ n && n < bound then some n.toNat else none
  | _ => none

/-- A natural number that fits 64 bits. -/
def asNat : Decoder R Nat := asNatBelow range64

/-- A response status or other number of 16 bits. -/
def asNat16 : Decoder R Nat := asNatBelow range16

/-- **A figure**: any number, an integer taken into the number system. -/
def asReal [Scalar R] : Decoder R R
  | .integer n => some (ofInt n)
  | .real x => some x
  | _ => none

/-- A list. -/
def asList (decode : Decoder R A) : Decoder R (List A)
  | .array items => items.mapM decode
  | _ => none

/-- **A choice among names**, as a text or as the only name of an object
around a value that stands for nothing. -/
def asChoiceAround (isNothing : Value R → Bool) (choices : List (String × A)) : Decoder R A
  | .string s => (choices.find? (·.1 == s)).map (·.2)
  | .object [(s, v)] => if isNothing v then (choices.find? (·.1 == s)).map (·.2) else none
  | _ => none

/-- A choice among names, `null` standing for nothing. -/
def asChoice (choices : List (String × A)) : Decoder R A :=
  asChoiceAround (fun v => match v with
    | .null => true
    | _ => false) choices

/-- **A table** from names to values, in the order of the names. -/
def asTable (decode : Decoder R A) : Decoder R (List (String × A))
  | .object members => do
    let entries ← members.mapM fun m => (decode m.2).map fun a => (m.1, a)
    some (entries.mergeSort fun a b => decide (a.1 ≤ b.1))
  | _ => none

end

/-- **The canonical decimal numeral** of a natural number below a bound. -/
def numeralBelow? (bound : Nat) (text : String) : Option Nat :=
  let digits := text.toList
  if digits.isEmpty || !digits.all Char.isDigit || (digits.length > 1 && digits.head? == some '0') then none
  else
    let n := digits.foldl (fun n c => n * 10 + (c.toNat - 48)) 0
    if n < bound then some n else none

end HttpBench.Json
