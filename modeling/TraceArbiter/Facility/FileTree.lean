import TraceArbiter.Text.Bytes

/-!
# File trees

Directories and regular files as a value. A directory holds its entries in the order in which it
happens to list them, and of two entries with one name the first is found. Paths are walked one name
at a time: an empty name and `.` stay where they are, `..` goes up and stays at the top, and only a
directory can be walked through, so a path that ends in a slash names a directory.
-/

namespace TraceArbiter

inductive FileTree where
  | file (content : ByteArray)
  | directory (entries : List (String × FileTree))

/-- Why a file cannot be used. -/
inductive FileError where
  | notFound
  | notADirectory
  | isADirectory
  | nameTooLong
  | nulInName
  | notText
  deriving DecidableEq

namespace FileError

def message : FileError → String
  | .notFound => "No such file or directory (os error 2)"
  | .notADirectory => "Not a directory (os error 20)"
  | .isADirectory => "Is a directory (os error 21)"
  | .nameTooLong => "File name too long (os error 36)"
  | .nulInName => "file name contained an unexpected NUL byte"
  | .notText => "stream did not contain valid UTF-8"

end FileError

namespace FileTree

instance : Inhabited FileTree :=
  ⟨.directory []⟩

def empty : FileTree :=
  .directory []

/-! ### Places

A place is the list of names on the way from the top. -/

def entry? (name : String) : FileTree → Option FileTree
  | .directory entries => entries.lookup name
  | .file _ => none

/-- What is at a place. -/
def at? : FileTree → List String → Option FileTree
  | t, [] => some t
  | t, name :: names => (t.entry? name).bind (·.at? names)

/-- Sets the entry of a name, in its old position if there is one. -/
def setEntry (name : String) (t : FileTree) : List (String × FileTree) → List (String × FileTree)
  | [] => [(name, t)]
  | (n, old) :: entries =>
    if n = name then (n, t) :: entries else (n, old) :: setEntry name t entries

/-- Puts a tree at a place. What is missing on the way becomes a directory. -/
def put (t : FileTree) : List String → FileTree → FileTree
  | [], new => new
  | name :: names, new =>
    let entries := match t with
      | .directory entries => entries
      | .file _ => []
    .directory (setEntry name (((entries.lookup name).getD empty).put names new) entries)

/-- Makes a directory, unless there is one. -/
def makeDirectory (t : FileTree) (place : List String) : FileTree :=
  if (t.at? place).isSome then t else t.put place empty

/-- Takes away what is at a place. -/
def remove : FileTree → List String → FileTree
  | .directory entries, [name] => .directory (entries.filter (·.1 ≠ name))
  | .directory entries, name :: names =>
    match entries.lookup name with
    | some t => .directory (setEntry name (t.remove names) entries)
    | none => .directory entries
  | t, _ => t

/-- Every regular file with the names that lead to it. -/
def files : FileTree → List (List String × ByteArray)
  | .file content => [([], content)]
  | .directory entries => entryFiles entries
where
  entryFiles : List (String × FileTree) → List (List String × ByteArray)
    | [] => []
    | (name, t) :: entries =>
      t.files.map (fun (names, content) => (name :: names, content)) ++ entryFiles entries

/-! ### Paths -/

/-- The names that a path is made of. -/
def names (path : String) : List String :=
  (path.toList.splitOn '/').map String.ofList

/-- A path below another; one that starts with a slash stands for itself. -/
def join (root path : String) : String :=
  if path.toList.head? = some '/' then path
  else if root.isEmpty || root.toList.getLast? = some '/' then root ++ path
  else root ++ "/" ++ path

/-- Names are at most this many bytes long. -/
def nameLimit : Nat :=
  255

/-- Paths are at most this many bytes long, wherever they lead. -/
def pathLimit : Nat :=
  4095

/-- Walks from a place along names. -/
def walk (t : FileTree) (place : List String) : List String → Except FileError (List String)
  | [] => .ok place
  | name :: names =>
    match t.at? place with
    | some (.directory entries) =>
      if name.isEmpty || name = "." then t.walk place names
      else if name = ".." then t.walk place.dropLast names
      else if nameLimit < name.utf8ByteSize then .error .nameTooLong
      else if (entries.lookup name).isSome then t.walk (place ++ [name]) names
      else .error .notFound
    | some (.file _) => .error .notADirectory
    | none => .error .notFound

/-- The place that a path leads to. -/
def locate (t : FileTree) (path : String) : Except FileError (List String) :=
  if path.toList.contains '\x00' then .error .nulInName
  else if path.isEmpty then .error .notFound
  else if pathLimit < path.utf8ByteSize then .error .nameTooLong
  else t.walk [] (names path)

/-- The regular file that a path leads to. -/
def openFile (t : FileTree) (path : String) : Except FileError (List String × ByteArray) := do
  let place ← t.locate path
  match t.at? place with
  | some (.file content) => pure (place, content)
  | some (.directory _) => throw .isADirectory
  | none => throw .notFound

/-- The text of a regular file. -/
def readText (t : FileTree) (path : String) : Except FileError String := do
  let (_, content) ← t.openFile path
  match Text.ofBytes? content with
  | some text => pure text
  | none => throw .notText

/-- The names in a directory, in the order in which it lists them. -/
def listDirectory (t : FileTree) (path : String) : Except FileError (List String) := do
  let place ← t.locate path
  match t.at? place with
  | some (.directory entries) => pure (entries.map (·.1))
  | some (.file _) => throw .notADirectory
  | none => throw .notFound

def isDirectory (t : FileTree) (path : String) : Bool :=
  (t.listDirectory path).toOption.isSome

def isFile (t : FileTree) (path : String) : Bool :=
  (t.openFile path).toOption.isSome

end FileTree

end TraceArbiter
