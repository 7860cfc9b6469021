import HttpBench.Logging.Files
import HttpBench.Text.Split

/-!
# Stored files

Files and the directories around them, below one directory. That is the one
that paths start from, or the root of everything if it is known where the paths
start below it. A path is followed name by name: every name but the last has to
be that of a directory, the empty name and `.` stand for the directory itself,
and `..` for the one around it. What lies outside is not known; whatever is
looked for there is taken to be a directory.

A directory is there if a file is below it, or if it was made.
-/

namespace HttpBench

/-- **A file.** -/
structure StoredFile where
  path : List String
  bytes : ByteArray
  /-- the time since it was last changed -/
  age : Duration

/-- **What is stored.** -/
structure Storage where
  files : List StoredFile := []
  /-- the directories that were made -/
  directories : List (List String) := []
  /-- where paths start below the root of everything, if what is stored is
  known from there -/
  start : Option (List String) := none

/-- **Why something cannot be stored or read.** -/
inductive StorageError where
  | missing
  | isDirectory
  | exists
  | notDirectory
  | tooLong
  | zeroByte
deriving DecidableEq, Repr

/-- The text of an error. -/
def StorageError.message : StorageError → String
  | .missing => "No such file or directory (os error 2)"
  | .isDirectory => "Is a directory (os error 21)"
  | .exists => "File exists (os error 17)"
  | .notDirectory => "Not a directory (os error 20)"
  | .tooLong => "File name too long (os error 36)"
  | .zeroByte => "file name contained an unexpected NUL byte"

/-- **Where a path leads.** -/
inductive Place where
  /-- names from the directory that the paths start from -/
  | inside (path : List String)
  | outside
deriving DecidableEq, Repr

namespace Storage

/-! ## Paths -/

/-- The parts of a path, the empty ones too. -/
def parts (path : String) : List String := (Text.splitAt '/' path.toList).map String.ofList

/-- **The names of a path**, without those that stand for the directory itself. -/
def names (path : String) : List String := (parts path).filter fun name => !(name.isEmpty || name == ".")

/-- The path of names. -/
def pathText (names : List String) : String := "/".intercalate names

/-- The path starts from the root of everything. -/
def isAbsolute (path : String) : Bool := path.toList.head? == some '/'

/-- The place that a path starts from. -/
def startOf (s : Storage) (path : String) : Place :=
  match s.start with
  | none => if isAbsolute path then .outside else .inside []
  | some start => .inside (if isAbsolute path then [] else start)

/-- The place around the directory that all is stored below: the root of
everything is around itself. -/
def aroundAll (s : Storage) : Place := if s.start.isSome then .inside [] else .outside

/-- A path behind another one. -/
def join (directory name : String) : String :=
  if directory.isEmpty || directory.toList.getLast? == some '/' then directory ++ name else directory ++ "/" ++ name

/-- The longest name of a file, in bytes. -/
def longestName : Nat := 255

/-- The longest path, in bytes. -/
def longestPath : Nat := 4095

/-- The file at a path. -/
def file? (s : Storage) (path : List String) : Option StoredFile := s.files.find? (·.path == path)

/-- There is a directory at a path. -/
def isDirectory (s : Storage) (path : List String) : Bool :=
  path.isEmpty || s.directories.any (path.isPrefixOf ·) || s.files.any fun f => path.isPrefixOf f.path && f.path != path

/-- There is a directory at a place. -/
def isDirectoryAt (s : Storage) : Place → Bool
  | .inside path => s.isDirectory path
  | .outside => true

/-- There is something at a place. -/
def isTaken (s : Storage) (place : Place) : Bool :=
  s.isDirectoryAt place ||
    match place with
    | .inside path => (s.file? path).isSome
    | .outside => true

/-- **One name further** from a place, which has to be a directory. -/
def enter (s : Storage) (place : Place) (name : String) : Except StorageError Place :=
  if !s.isDirectoryAt place then .error (if s.isTaken place then .notDirectory else .missing)
  else if name.isEmpty || name == "." then .ok place
  else if longestName < name.utf8ByteSize then .error .tooLong
  else
    match place with
    | .outside => .ok .outside
    | .inside path =>
      if name != ".." then .ok (.inside (path ++ [name]))
      else if path.isEmpty then .ok s.aroundAll
      else .ok (.inside path.dropLast)

/-- **Follow a path.** There may be nothing at its end. -/
def follow (s : Storage) (path : String) : Except StorageError Place :=
  if path.toList.contains '\x00' then .error .zeroByte
  else if path.isEmpty then .error .missing
  else if longestPath < path.utf8ByteSize then .error .tooLong
  else (parts path).foldlM s.enter (s.startOf path)

/-! ## Files and directories -/

/-- **Read a file.** -/
def read (s : Storage) (path : String) : Except StorageError ByteArray :=
  match s.follow path with
  | .error e => .error e
  | .ok .outside => .error .missing
  | .ok (.inside path) =>
    match s.file? path with
    | some f => .ok f.bytes
    | none => .error (if s.isDirectory path then .isDirectory else .missing)

/-- There is a directory at the end of a path. -/
def leadsToDirectory (s : Storage) (path : String) : Bool :=
  match s.follow path with
  | .ok place => s.isDirectoryAt place
  | .error _ => false

/-- A path without the strokes at its end. -/
def trimPath (path : String) : String :=
  let cs := (path.toList.reverse.dropWhile (· == '/')).reverse
  if cs.isEmpty && !path.isEmpty then "/" else String.ofList cs

/-- Make one directory. -/
def makeOne (s : Storage) (path : String) : Except StorageError Storage := do
  let place ← s.follow (trimPath path)
  if s.isTaken place then throw .exists
  match place with
  | .inside path => pure { s with directories := path :: s.directories }
  | .outside => pure s

/-- Make a directory that may be there; if one around it is missing, make that
first. -/
def ensure (path : String) (makeAround : Storage → Except StorageError Storage) (s : Storage) :
    Except StorageError Storage :=
  let orThere := fun (s : Storage) (made : Except StorageError Storage) =>
    match made with
    | .ok s => .ok s
    | .error e => if s.leadsToDirectory path then .ok s else .error e
  match s.makeOne path with
  | .error .missing => do
    let s ← makeAround s
    orThere s (s.makeOne path)
  | made => orThere s made

/-- Make the directories of names in reverse, one below the other. -/
def ensureAll (absolute : Bool) : List String → Storage → Except StorageError Storage
  | [], s => .ok s
  | name :: around, s =>
    ensure ((if absolute then "/" else "") ++ pathText (name :: around).reverse) (ensureAll absolute around) s

/-- **Make a directory**, with those around it. -/
def makeDirectory (s : Storage) (path : String) : Except StorageError Storage :=
  if path.isEmpty then .ok s
  else
    let inFront := if (parts path).head? == some "." then ["."] else []
    ensure path (ensureAll (isAbsolute path) (inFront ++ names path).dropLast.reverse) s

/-- **The entries of a directory.** -/
def entries (s : Storage) (directory : String) : List DirectoryEntry :=
  match s.follow directory with
  | .ok (.inside path) =>
    let inside := s.files.filter fun f => f.path.dropLast == path && !f.path.isEmpty
    inside.map fun f => { name := f.path.getLastD "", isFile := true, age := f.age }
  | _ => []

/-- Something that was changed just now was changed a moment ago. -/
def moment : Duration := ⟨1⟩

/-- Make a file, unless it is there. -/
def touch (s : Storage) (path : List String) : Storage :=
  if (s.file? path).isSome then s
  else { s with files := s.files ++ [{ path, bytes := .empty, age := moment }] }

/-- **Write at the end of a file.** What is written to a file that has been
removed is lost. -/
def append (s : Storage) (path : List String) (text : String) : Storage :=
  { s with files := s.files.map fun f =>
      if f.path == path then { f with bytes := f.bytes ++ text.toUTF8, age := moment } else f }

/-- **Remove a file.** -/
def remove (s : Storage) (path : String) : Storage :=
  match s.follow path with
  | .ok (.inside path) => { s with files := s.files.filter (·.path != path) }
  | _ => s

end Storage

end HttpBench
