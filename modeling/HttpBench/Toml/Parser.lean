import HttpBench.Toml.Scalar

/-!
# Reading TOML

`parse?` reads a document line by line: a header names the table that the
pairs after it go into. Whatever is not well formed, or defines something
twice, is refused.
-/

namespace HttpBench.Toml

mutual

/-- **A value**, `depth` levels of nesting being left. -/
def readValue : Nat → Nat → List Char → Option (Node × List Char)
  | 0, _, _ => none
  | fuel + 1, depth, cs =>
    match cs with
    | [] => none
    | '[' :: rest =>
      match depth with
      | 0 => none
      | depth + 1 => readItems fuel depth [] rest
    | '\x7b' :: rest =>
      match depth with
      | 0 => none
      | depth + 1 =>
        match skipBlank rest with
        | '\x7d' :: rest => some (.table .inlined [], rest)
        | rest => readPairs fuel depth (.header, []) rest
    | 't' :: _ => (word? "true" cs).map fun rest => (.boolean true, rest)
    | 'f' :: _ => (word? "false" cs).map fun rest => (.boolean false, rest)
    | 'i' :: _ | 'n' :: _ => readSpecial cs
    | c :: _ =>
      if c == '"' || c == apostrophe then (readString cs).map fun (s, rest) => (.string s, rest)
      else readNumeric cs

/-- The items of an array, those read so far in reverse. -/
def readItems : Nat → Nat → List Node → List Char → Option (Node × List Char)
  | 0, _, _, _ => none
  | fuel + 1, depth, acc, cs =>
    match skipLines (cs.length + 1) cs with
    | ']' :: rest => some (.array acc.reverse, rest)
    | cs => do
      let (value, rest) ← readValue fuel depth cs
      match skipLines (rest.length + 1) rest with
      | ',' :: rest => readItems fuel depth (value :: acc) rest
      | ']' :: rest => some (.array (value :: acc).reverse, rest)
      | _ => none

/-- The pairs of an inline table, into the table so far. -/
def readPairs : Nat → Nat → Table → List Char → Option (Node × List Char)
  | 0, _, _, _ => none
  | fuel + 1, depth, table, cs => do
    let (path, rest) ← readKey maxDepth cs
    let rest ← skipChar '=' (skipBlank rest)
    let (value, rest) ← readValue fuel depth (skipBlank rest)
    let table ← insertPair path value table
    match skipBlank rest with
    | ',' :: rest => readPairs fuel depth table rest
    | '\x7d' :: rest => some (.table .inlined table.2, rest)
    | _ => none

end

/-- **The document so far**, and the table that pairs go into. -/
structure Draft where
  root : Table
  current : List String

/-- The end of a line behind blanks and a comment. -/
def endLine (cs : List Char) : Option (List Char) :=
  match skipComment (skipBlank cs) with
  | [] => some []
  | cs => lineBreak? cs

/-- **One line** of the document. -/
def readLine (draft : Draft) (cs : List Char) : Option (Draft × List Char) :=
  match skipBlank cs with
  | '[' :: '[' :: rest => do
    let (path, rest) ← readKey maxDepth rest
    let rest ← skipChar ']' rest
    let rest ← skipChar ']' rest
    let root ← insertItem path draft.root
    some ({ root, current := path }, ← endLine rest)
  | '[' :: rest => do
    let (path, rest) ← readKey maxDepth rest
    let rest ← skipChar ']' rest
    let root ← insertHeader path draft.root
    some ({ root, current := path }, ← endLine rest)
  | cs =>
    match endLine cs with
    | some rest => some (draft, rest)
    | none => do
      let (path, rest) ← readKey maxDepth cs
      let rest ← skipChar '=' rest
      let (value, rest) ← readValue (rest.length + 1) maxDepth (skipBlank rest)
      let root ← changeAt false (insertPair path value) draft.current draft.root
      some ({ draft with root }, ← endLine rest)

/-- The lines of the document. -/
def readLines : Nat → Draft → List Char → Option Draft
  | 0, _, _ => none
  | fuel + 1, draft, cs =>
    if cs.isEmpty then some draft
    else do
      let (draft, rest) ← readLine draft cs
      readLines fuel draft rest

/-- **Read a document** as one table. A byte order mark in front is no part of it. -/
def parse? (text : String) : Option Node :=
  let cs := match text.toList with
    | '\ufeff' :: rest => rest
    | cs => cs
  (readLines (cs.length + 1) { root := (.header, []), current := [] } cs).map fun draft =>
    .table draft.root.1 draft.root.2

end HttpBench.Toml
