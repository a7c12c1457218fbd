import TraceArbiter.Facility.Basic
import TraceArbiter.Facility.FileTree
import TraceArbiter.Text.Bytes

/-!
# A mounted facility

Control files in a directory of a file tree. A write replaces the contents of a file that is already
there, and an appended entry is ended by a newline. Annotations are started and stopped by a helper
program, and a file with a bit mask tells whether somebody holds them.
-/

namespace TraceArbiter

/-- What a helper program does when it is run: how it exits, and what it prints as its error. -/
structure HelperProgram where
  exitStatus : UInt8
  errorOutput : ByteArray

structure Helper where
  path : String
  /-- The program at the path, if there is one. -/
  program : Option HelperProgram

structure Mounted where
  files : FileTree
  /-- The path of the directory with the control files. -/
  root : String
  helper : Option Helper := none
  /-- The path of the file with the mask of held annotations, if it is known. -/
  annotationFlags : Option String := none
  /-- The arguments of each run of the helper, oldest first. -/
  helperRuns : List (List String) := []

namespace Mounted

/-- Opens the directory at a path. It has to hold the switch for tracing. -/
def openAt (files : FileTree) (root : String) : Except FacilityError Mounted :=
  let switch := FileTree.join root Control.tracingOn
  match files.locate switch with
  | .ok _ => .ok { files, root }
  | .error e => .error (.readFailed switch e.message)

/-- Opens the directory that the environment names. The environment may also name the file with the
mask of held annotations. Without a directory nothing is mounted. -/
def openFromEnvironment (files : FileTree) (env : String → Option String) :
    Except FacilityError Mounted := do
  match env "TRACEMUX_TRACEFS_ROOT" with
  | some root =>
    let facility ← openAt files root
    pure { facility with annotationFlags := env "TRACEMUX_ANNOTATION_FLAGS" }
  | none => throw .notMounted

/-! ### Control files -/

/-- Changes the contents of the file at a path below the root. -/
def update (path : String) (change : ByteArray → ByteArray) : Access Mounted Unit := do
  let m ← get
  match m.files.openFile (FileTree.join m.root path) with
  | .ok (place, content) => set { m with files := m.files.put place (.file (change content)) }
  | .error e => throw (.writeFailed path e.message)

def write (path value : String) : Access Mounted Unit :=
  update path fun _ => value.toUTF8

def append (path value : String) : Access Mounted Unit :=
  update path fun content => content ++ (value ++ "\n").toUTF8

def read (m : Mounted) (path : String) : Except FacilityError String :=
  match m.files.readText (FileTree.join m.root path) with
  | .ok text => .ok text
  | .error e => .error (.readFailed path e.message)

/-! ### Annotations -/

/-- The mask that a text spells, in hexadecimal behind `0x` and in decimal otherwise. -/
def mask? (text : String) : Option UInt64 :=
  match (Text.trim text).toList with
  | '0' :: 'x' :: digits => Text.readHexadecimal (String.ofList digits)
  | digits => Text.readDecimal (String.ofList digits)

/-- Somebody holds annotations when the mask is there and is not 0. -/
def externalAgentActive (m : Mounted) : Bool :=
  match m.annotationFlags with
  | some path =>
    match m.files.readText path with
    | .ok text => (mask? text).any (· ≠ 0)
    | .error _ => false
  | none => false

/-- An argument is at most this many bytes long. -/
def argumentLimit : Nat :=
  131071

/-- Runs the helper. An argument cannot hold the character that ends it. -/
def runHelper (arguments : List String) : Access Mounted Unit := do
  let m ← get
  match m.helper with
  | none => throw (.unsupported "userspace annotations")
  | some helper =>
    if arguments.any (·.toList.contains '\x00') then
      throw (.writeFailed helper.path "nul byte found in provided data")
    match helper.program with
    | none => throw (.writeFailed helper.path FileError.notFound.message)
    | some program =>
      if arguments.any (argumentLimit < ·.utf8ByteSize) then
        throw (.writeFailed helper.path "Argument list too long (os error 7)")
      set { m with helperRuns := m.helperRuns ++ [arguments] }
      if program.exitStatus ≠ 0 then
        throw (.writeFailed helper.path (Text.trim (Text.ofBytesLenient program.errorOutput)))

def startAnnotations (apps categories : List String) : Access Mounted Unit :=
  let appArguments := if apps.isEmpty then [] else ["-a", ",".intercalate apps]
  runHelper (["--async_start", "--only_userspace"] ++ appArguments ++ categories)

def stopAnnotations : Access Mounted Unit :=
  runHelper ["--async_stop", "--only_userspace"]

instance : Facility Mounted where
  write := write
  append := append
  read := read
  externalAgentActive := externalAgentActive
  startAnnotations := startAnnotations
  stopAnnotations := stopAnnotations

end Mounted

end TraceArbiter
