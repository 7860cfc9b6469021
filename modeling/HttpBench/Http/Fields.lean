/-!
# Tables of header fields

The header of a message holds every field name once, in lower case, in the
order of first appearance, each with its values in order. A name that is taken
out leaves its place to the last name of the table.

`V` is the type of values: texts in requests, bytes in responses.
-/

namespace HttpBench

/-- **A table of header fields.** -/
structure FieldTable (V : Type) where
  groups : List (String × List V) := []
deriving DecidableEq, Repr

namespace FieldTable
variable {V : Type}

instance : Inhabited (FieldTable V) := ⟨{}⟩

/-- The values of a field, its name in lower case. -/
def values (t : FieldTable V) (name : String) : List V :=
  ((t.groups.find? (·.1 == name)).map (·.2)).getD []

/-- The table has the field. -/
def has (t : FieldTable V) (name : String) : Bool := t.groups.any (·.1 == name)

/-- Change the values of a field that is there. -/
def change (t : FieldTable V) (name : String) (f : List V → List V) : FieldTable V :=
  { groups := t.groups.map fun g => if g.1 == name then (g.1, f g.2) else g }

/-- **Add a value** behind those that its field has. -/
def add (t : FieldTable V) (name : String) (value : V) : FieldTable V :=
  let name := name.toLower
  if t.has name then t.change name (· ++ [value]) else { groups := t.groups ++ [(name, [value])] }

/-- **Set a field** to one value, where it is or at the end. -/
def set (t : FieldTable V) (name : String) (value : V) : FieldTable V :=
  if t.has name then t.change name fun _ => [value] else { groups := t.groups ++ [(name, [value])] }

/-- **Take a field out.** The last field of the table takes its place. -/
def remove (t : FieldTable V) (name : String) : FieldTable V :=
  if t.has name then
    match t.groups.getLast? with
    | some last =>
      let others := t.groups.dropLast
      { groups := if last.1 == name then others else others.map fun g => if g.1 == name then last else g }
    | none => t
  else t

/-- A table of fields in their order. -/
def ofList (fields : List (String × V)) : FieldTable V :=
  fields.foldl (fun t f => t.add f.1 f.2) {}

/-- **The fields one by one**, those of one name together. -/
def toList (t : FieldTable V) : List (String × V) :=
  t.groups.flatMap fun g => g.2.map fun v => (g.1, v)

end FieldTable

end HttpBench
