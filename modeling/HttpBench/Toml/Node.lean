import HttpBench.Json.Value

/-!
# TOML documents

A document is a tree of tables. How a table came to be decides what may still
be added to it:

- a table under a header of its own is complete after its section;
- a table that only lies on the way to such a header may still get one;
- a table made by a dotted key takes further dotted keys of the same section;
- an inline table takes nothing.

`insertHeader`, `insertItem` and `insertPair` add to a tree and refuse what
would define something twice.
-/

namespace HttpBench.Toml

/-- **How a table came to be.** -/
inductive Origin where
  /-- under a header of its own, or the document itself -/
  | header
  /-- on the way to a header -/
  | passed
  /-- by a dotted key -/
  | dotted
  /-- written as a value -/
  | inlined
deriving DecidableEq, Repr

/-- **A part of a document.** -/
inductive Node where
  | string (s : String)
  | integer (n : Int)
  | float (x : Float)
  | boolean (b : Bool)
  /-- a date, a time or both -/
  | moment (text : String)
  | array (items : List Node)
  | table (origin : Origin) (entries : List (String × Node))
  /-- the tables of a repeated header -/
  | tables (items : List (List (String × Node)))

instance : Inhabited Node := ⟨.boolean false⟩

/-- **The entries of a table** with its origin. -/
abbrev Table := Origin × List (String × Node)

/-- Look up an entry. -/
def find? (entries : List (String × Node)) (key : String) : Option Node :=
  (entries.find? (·.1 == key)).map (·.2)

/-- **Change the table at a path**, making tables that are missing on the way.
A dotted path does not pass through tables that have a header. -/
def changeAt (dotted : Bool) (change : Table → Option Table) : List String → Table → Option Table
  | [], table => change table
  | key :: path, (origin, entries) =>
    let store := fun node : Node => (origin, Json.setMember entries key node)
    match find? entries key with
    | none => do
      let (o, es) ← changeAt dotted change path (if dotted then .dotted else .passed, [])
      some (store (.table o es))
    | some (.table o es) =>
      if o == .inlined || (dotted && o == .header) then none
      else do
        let (o, es) ← changeAt dotted change path (o, es)
        some (store (.table o es))
    | some (.tables items) =>
      match items.getLast? with
      | some last => do
        let (_, es) ← changeAt dotted change path (.header, last)
        some (store (.tables (items.dropLast ++ [es])))
      | none => none
    | some _ => none

/-- **A header of its own** for the table `key` of a table: new, or so far only
passed on the way. -/
def openTable (key : String) (table : Table) : Option Table :=
  match find? table.2 key with
  | none => some (table.1, table.2 ++ [(key, .table .header [])])
  | some (.table .passed entries) => some (table.1, Json.setMember table.2 key (.table .header entries))
  | some _ => none

/-- **A further table** of the repeated header `key`. -/
def openItem (key : String) (table : Table) : Option Table :=
  match find? table.2 key with
  | none => some (table.1, table.2 ++ [(key, .tables [[]])])
  | some (.tables items) => some (table.1, Json.setMember table.2 key (.tables (items ++ [[]])))
  | some _ => none

/-- **A new pair.** Only a dotted key adds to a table made by dotted keys. -/
def addPair (dotted : Bool) (key : String) (value : Node) (table : Table) : Option Table :=
  if (table.1 == .dotted) != dotted then none
  else if (find? table.2 key).isSome then none
  else some (table.1, table.2 ++ [(key, value)])

/-- A header for one table. -/
def insertHeader (path : List String) (document : Table) : Option Table :=
  match path.getLast? with
  | some key => changeAt false (openTable key) path.dropLast document
  | none => none

/-- A header for one more of several tables. -/
def insertItem (path : List String) (document : Table) : Option Table :=
  match path.getLast? with
  | some key => changeAt false (openItem key) path.dropLast document
  | none => none

/-- A pair with a dotted key, relative to a table. -/
def insertPair (path : List String) (value : Node) (table : Table) : Option Table :=
  match path.getLast? with
  | some key => changeAt true (addPair (1 < path.length) key value) path.dropLast table
  | none => none

/-- The member under which a date or time stands in a document of values. -/
def momentMember : String := "$__toml_private_datetime"

mutual

/-- **A part of a document as a JSON value**, to be decoded into types. -/
def Node.toJson : Node → Json.Document
  | .string s => .string s
  | .integer n => .integer n
  | .float x => .real x
  | .boolean b => .bool b
  | .moment text => .object [(momentMember, .string text)]
  | .array items => .array (itemsToJson items)
  | .table _ entries => .object (entriesToJson entries)
  | .tables items => .array (tablesToJson items)

/-- The items of an array. -/
def itemsToJson : List Node → List Json.Document
  | [] => []
  | n :: rest => n.toJson :: itemsToJson rest

/-- The entries of a table. -/
def entriesToJson : List (String × Node) → List (String × Json.Document)
  | [] => []
  | (key, n) :: rest => (key, n.toJson) :: entriesToJson rest

/-- The tables of a repeated header. -/
def tablesToJson : List (List (String × Node)) → List Json.Document
  | [] => []
  | entries :: rest => .object (entriesToJson entries) :: tablesToJson rest

end

end HttpBench.Toml
