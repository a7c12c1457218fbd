import TraceArbiter.Clock
import TraceArbiter.Event.Table
import TraceArbiter.Facility.Error
import TraceArbiter.Text.Numeral

/-!
# The tracing facility

A facility is a set of control files that everybody shares, and a hook for annotations that programs
write themselves. What stands here on top of the raw access says which file each kind of request
goes to and what is written there, so that every facility is driven in the same way. An access that
fails keeps whatever it had changed until then.
-/

namespace TraceArbiter

open Std

/-- An access to a facility, which may fail and may change it either way. -/
abbrev Access (σ α : Type) : Type :=
  ExceptT FacilityError (StateM σ) α

/-- Raw access to control files, by their paths below the facility's root. -/
class Facility (σ : Type) where
  /-- Replaces the contents of a file. -/
  write (path value : String) : Access σ Unit
  /-- Adds an entry at the end of a file. -/
  append (path value : String) : Access σ Unit
  read (facility : σ) (path : String) : Except FacilityError String
  /-- Whether somebody else holds the annotations. -/
  externalAgentActive (facility : σ) : Bool
  startAnnotations (apps categories : List String) : Access σ Unit
  stopAnnotations : Access σ Unit

namespace Control

/-! ### The files -/

def tracingOn : String :=
  "tracing_on"

def bufferSize : String :=
  "buffer_size_kb"

def traceClock : String :=
  "trace_clock"

def currentTracer : String :=
  "current_tracer"

def trace : String :=
  "trace"

def allEvents : String :=
  "events/enable"

def functionFilter : String :=
  "set_ftrace_filter"

def graphFilter : String :=
  "set_graph_function"

/-- The switch of one event. -/
def eventSwitch (n : EventName) : String :=
  "events/" ++ n.group ++ "/" ++ n.name ++ "/enable"

/-- The filters on entry to and exit from a system call. -/
def syscallFilters : List String :=
  ["events/raw_syscalls/sys_enter/filter", "events/raw_syscalls/sys_exit/filter"]

def on : String :=
  "1"

def off : String :=
  "0"

/-- The tracer of an idle facility. -/
def idleTracer : String :=
  "nop"

def functionGraphTracer : String :=
  "function_graph"

/-! ### Reading -/

variable {σ : Type} [Facility σ]

def isTracingOn (f : σ) : Except FacilityError Bool :=
  (Facility.read f tracingOn).map (Text.trim · = on)

/-- The selected clock, and the empty name when the listing selects none. -/
def clock (f : σ) : Except FacilityError String :=
  (Facility.read f traceClock).map fun listing => (Clock.selected? listing).getD ""

/-- The clocks to choose from; there are none when the listing cannot be read. -/
def availableClocks (f : σ) : ExtTreeSet String :=
  match Facility.read f traceClock with
  | .ok listing => Clock.available listing
  | .error _ => ∅

def tracer (f : σ) : Except FacilityError String :=
  (Facility.read f currentTracer).map Text.trim

/-! ### Writing -/

def enableEvent (n : EventName) : Access σ Unit :=
  Facility.write (eventSwitch n) on

def disableEvent (n : EventName) : Access σ Unit :=
  Facility.write (eventSwitch n) off

def disableAllEvents : Access σ Unit :=
  Facility.write allEvents off

def setTracingOn (value : Bool) : Access σ Unit :=
  Facility.write tracingOn (if value then on else off)

def setBufferSizeKb (kb : UInt64) : Access σ Unit :=
  Facility.write bufferSize (Text.writeDecimal kb)

/-- Empties the buffers. -/
def clearTrace : Access σ Unit :=
  Facility.write trace ""

def setClock (name : String) : Access σ Unit :=
  Facility.write traceClock name

def setTracer (name : String) : Access σ Unit :=
  Facility.write currentTracer name

def resetTracer : Access σ Unit :=
  setTracer idleTracer

/-- Runs an access on each item in turn, up to the first that fails. -/
def forEach {α : Type} (access : α → Access σ Unit) : List α → Access σ Unit
  | [] => pure ()
  | item :: items => do
    access item
    forEach access items

/-- Puts one expression on entry and on exit. -/
def setSyscallFilter (expression : String) : Access σ Unit :=
  forEach (Facility.write · expression) syscallFilters

def clearFunctionFilters : Access σ Unit :=
  Facility.write functionFilter ""

def appendFunctionFilters (filters : List String) : Access σ Unit :=
  forEach (Facility.append functionFilter) filters

def clearGraphFilters : Access σ Unit :=
  Facility.write graphFilter ""

def appendGraphFilters (roots : List String) : Access σ Unit :=
  forEach (Facility.append graphFilter) roots

end Control

end TraceArbiter
