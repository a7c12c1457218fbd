import Std.Data.ExtTreeMap
import TraceArbiter.Facility.Basic

/-!
# A simulated facility

Control files in memory, for trying things out without a kernel. Writes are logged, and writes,
reads and annotation starts can be made to fail. Three files behave as the kernel's do: the switch
for all events sets every event's switch, the clock listing takes only clocks that it lists and
moves its brackets, and an appended entry goes on a line of its own.
-/

namespace TraceArbiter

open Std

/-- The apps and categories whose annotations are being recorded. -/
structure AnnotationSession where
  apps : List String
  categories : List String
  deriving DecidableEq, Inhabited

structure Simulation where
  files : ExtTreeMap String String := ∅
  /-- Successful writes as path and value, oldest first. -/
  log : List (String × String) := []
  failingWrites : ExtTreeSet String := ∅
  failingReads : ExtTreeSet String := ∅
  externalAgent : Bool := false
  annotations : Option AnnotationSession := none
  /-- How often annotations have been started. -/
  annotationStarts : Nat := 0
  /-- Why annotations cannot be started, when they cannot. -/
  annotationFailure : Option String := none
  deriving DecidableEq

namespace Simulation

def defaultClocks : String :=
  "[local] global counter uptime perf mono mono_raw boot"

/-- A facility that nobody uses, with the clocks that a kernel usually has. -/
def idle : Simulation where
  files := ExtTreeMap.ofList
    [(Control.tracingOn, Control.off), (Control.currentTracer, Control.idleTracer),
      (Control.traceClock, defaultClocks), (Control.bufferSize, "1408"), (Control.trace, ""),
      (Control.functionFilter, ""), (Control.graphFilter, "")]

/-! ### What the simulation adds to a facility -/

/-- Writes a file as somebody else would, without a trace in the log. -/
def poke (s : Simulation) (path value : String) : Simulation :=
  { s with files := s.files.insert path value }

def value? (s : Simulation) (path : String) : Option String :=
  s.files[path]?

def tracingOn (s : Simulation) : Bool :=
  s.value? Control.tracingOn = some Control.on

def isEventEnabled (s : Simulation) (n : EventName) : Bool :=
  s.value? (Control.eventSwitch n) = some Control.on

/-- What stands between `events/` and `/enable` in the path of a switch. -/
def switchName? (path : String) : Option String :=
  let cs := path.toList
  let head := "events/".toList
  let tail := "/enable".toList
  if head.isPrefixOf cs && tail.isSuffixOf (cs.drop head.length) then
    some (String.ofList ((cs.drop head.length).take (cs.length - head.length - tail.length)))
  else none

/-- The full names of the events whose switches are on. -/
def enabledEvents (s : Simulation) : ExtTreeSet String :=
  ExtTreeSet.ofList <| s.files.toList.filterMap fun (path, value) =>
    if value = Control.on then switchName? path else none

def writesTo (s : Simulation) (path : String) : List String :=
  (s.log.filter (·.1 = path)).map (·.2)

def clearLog (s : Simulation) : Simulation :=
  { s with log := [] }

def failWritesTo (s : Simulation) (path : String) : Simulation :=
  { s with failingWrites := s.failingWrites.insert path }

def failReadsOf (s : Simulation) (path : String) : Simulation :=
  { s with failingReads := s.failingReads.insert path }

def failAnnotations (s : Simulation) (reason : String) : Simulation :=
  { s with annotationFailure := some reason }

def clearFailures (s : Simulation) : Simulation :=
  { s with failingWrites := ∅, failingReads := ∅, annotationFailure := none }

def setExternalAgent (s : Simulation) (active : Bool) : Simulation :=
  { s with externalAgent := active }

/-! ### Access -/

def injected : String :=
  "injected failure"

/-- Whether a path has the form of a switch, be it of one event or of several. -/
def isSwitch (path : String) : Bool :=
  "events/".toList.isPrefixOf path.toList && "/enable".toList.isSuffixOf path.toList

/-- The files after a write, or why the file does not take the value. -/
def stored (s : Simulation) (path value : String) : Except FacilityError Simulation :=
  if path = Control.allEvents then
    .ok { s with files := s.files.map fun file current => if isSwitch file then value else current }
  else if path = Control.traceClock then
    let listing := (s.value? Control.traceClock).getD ""
    if (Clock.available listing).contains value then
      .ok (s.poke path (Clock.select value listing))
    else .error (.writeFailed path ("clock " ++ value ++ " not available"))
  else .ok (s.poke path value)

def logged (s : Simulation) (path value : String) : Simulation :=
  { s with log := s.log ++ [(path, value)] }

def write (path value : String) : Access Simulation Unit := do
  let s ← get
  if s.failingWrites.contains path then throw (.writeFailed path injected)
  match s.stored path value with
  | .ok s => set (s.logged path value)
  | .error e => throw e

/-- The contents of a file with one more line. -/
def withLine (content line : String) : String :=
  if content.isEmpty then line else content ++ "\n" ++ line

def append (path value : String) : Access Simulation Unit := do
  let s ← get
  if s.failingWrites.contains path then throw (.writeFailed path injected)
  let content := (s.value? path).getD ""
  set ((s.poke path (withLine content value)).logged path value)

def read (s : Simulation) (path : String) : Except FacilityError String :=
  if s.failingReads.contains path then .error (.readFailed path injected)
  else match s.value? path with
    | some content => .ok content
    | none => .error (.readFailed path "no such file")

def startAnnotations (apps categories : List String) : Access Simulation Unit := do
  let s ← get
  match s.annotationFailure with
  | some reason => throw (.unsupported reason)
  | none =>
    set { s with
      annotations := some ⟨apps, categories⟩
      annotationStarts := s.annotationStarts + 1 }

def stopAnnotations : Access Simulation Unit :=
  modify ({ · with annotations := none })

instance : Facility Simulation where
  write := write
  append := append
  read := read
  externalAgentActive := externalAgent
  startAnnotations := startAnnotations
  stopAnnotations := stopAnnotations

end Simulation

end TraceArbiter
