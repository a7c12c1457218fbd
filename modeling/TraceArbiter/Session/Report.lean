import Std.Data.ExtTreeSet
import TraceArbiter.Facility.Error

/-!
# Setup reports

What went wrong while a session was set up. Most problems leave the session with less than it asked
for; a failure leaves no session.
-/

namespace TraceArbiter

open Std

/-- Why no session could be set up. -/
inductive SetupFailure where
  | tracingInUse
  | tracingDisabledExternally
  | tracerBusy (tracer : String)
  | facility (error : FacilityError)
  | idsExhausted
  deriving DecidableEq, Inhabited

namespace SetupFailure

def message : SetupFailure → String
  | .tracingInUse => "Tracing is already enabled by another agent"
  | .tracingDisabledExternally => "Tracing was disabled behind our back"
  | .tracerBusy tracer => "Current tracer is busy: " ++ tracer
  | .facility error => "Facility write failed: " ++ error.message
  | .idsExhausted => "Session id space exhausted"

/-- The word for the kind of failure, as it is written on the wire. -/
def kind : SetupFailure → String
  | .tracingInUse => "tracing_in_use"
  | .tracingDisabledExternally => "tracing_disabled_externally"
  | .tracerBusy _ => "tracer_busy"
  | .facility _ => "facility"
  | .idsExhausted => "ids_exhausted"

/-- The code under which the failure is documented. -/
def code (f : SetupFailure) : String :=
  "muxer::" ++ f.kind

/-- What to do about it, where there is something to do. -/
def help? : SetupFailure → Option String
  | .tracingInUse => some "Another tool owns tracing_on. Stop it before starting a session."
  | .tracingDisabledExternally =>
    some "An external agent wrote tracing_on while sessions were active."
  | .tracerBusy _ => some "function_graph needs the nop tracer. Reset the tracer first."
  | .facility _ => none
  | .idsExhausted => none

end SetupFailure

structure SetupReport where
  /-- Full names of events that the kernel does not have. -/
  unknownEvents : ExtTreeSet String := ∅
  /-- Full names of events that the kernel refused to enable. -/
  failedEvents : ExtTreeSet String := ∅
  /-- Syscall entries that are neither a name nor a number. -/
  unknownSyscalls : ExtTreeSet String := ∅
  annotationErrors : List String := []
  failure : Option SetupFailure := none
  deriving DecidableEq

def SetupReport.isEmpty (r : SetupReport) : Bool :=
  r.unknownEvents.isEmpty && r.failedEvents.isEmpty && r.unknownSyscalls.isEmpty &&
    r.annotationErrors.isEmpty && r.failure.isNone

end TraceArbiter
