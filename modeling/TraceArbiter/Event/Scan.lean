import TraceArbiter.Event.Table
import TraceArbiter.Facility.FileTree
import TraceArbiter.Text.Blank
import TraceArbiter.Text.Numeral

/-!
# Scanning for events

The kernel shows its events as directories: `events/<group>/<name>/id` holds the id of an event.
Directories are visited in the order of their names, whatever order the file tree lists them in, and
a directory without a readable id is no event.
-/

namespace TraceArbiter

open Std

/-- A directory that could not be listed. -/
structure ScanError where
  path : String
  cause : FileError
  deriving DecidableEq

def ScanError.message (e : ScanError) : String :=
  "I/O error reading " ++ e.path ++ ": " ++ e.cause.message

namespace FileTree

/-- The names of the directories in a directory, in order. -/
def subdirectories (t : FileTree) (path : String) : Except ScanError (List String) :=
  match t.listDirectory path with
  | .ok names => .ok ((ExtTreeSet.ofList names).toList.filter fun n => t.isDirectory (join path n))
  | .error cause => .error ⟨path, cause⟩

/-- The id of the event whose directory is at a path. -/
def eventId? (t : FileTree) (path : String) : Option EventId :=
  match t.readText (join path "id") with
  | .ok text => Text.readDecimal (Text.trim text)
  | .error _ => none

/-- The events of the group whose directory is at a path. -/
def eventsOfGroup (t : FileTree) (path group : String) : Except ScanError (List Event) :=
  (t.subdirectories path).map fun names =>
    names.filterMap fun name => (t.eventId? (join path name)).map (⟨·, group, name⟩)

/-- The events below the root of a tracing directory, by group and name. -/
def events (t : FileTree) (root : String) : Except ScanError (List Event) := do
  let path := join root "events"
  let groups ← t.subdirectories path
  let found ← groups.mapM fun group => t.eventsOfGroup (join path group) group
  pure found.flatten

end FileTree

/-- The table of the events below the root of a tracing directory. -/
def EventTable.scan (t : FileTree) (root : String) : Except ScanError EventTable :=
  (t.events root).map EventTable.ofList

end TraceArbiter
