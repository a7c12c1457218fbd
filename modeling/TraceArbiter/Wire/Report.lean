import TraceArbiter.Json.Storage
import TraceArbiter.Session.Report
import TraceArbiter.Wire.Basic

/-!
# Wire forms of reports

A facility error keeps its fields beside the name of its kind, so an object that may be one is
stored as a whole before the name is looked for. A failure keeps its payload under a key of its own.
Where a value is stored, what surrounds it counts towards the nesting limit: `level` is the number of
containers around the value.
-/

namespace TraceArbiter

open Json

namespace FacilityError

def toJson : FacilityError → Json
  | .writeFailed path reason => .ofFields
      [("error_type", .ofString "write_failed"), ("path", .ofString path),
        ("reason", .ofString reason)]
  | .readFailed path reason => .ofFields
      [("error_type", .ofString "read_failed"), ("path", .ofString path),
        ("reason", .ofString reason)]
  | .unsupported operation => .ofFields
      [("error_type", .ofString "unsupported"), ("operation", .ofString operation)]
  | .notMounted => .ofFields [("error_type", .ofString "not_mounted")]

/-- The error of the named kind whose fields are those of a record. -/
def ofKind? (kind : String) (fields : Json) : Option FacilityError :=
  if kind = "write_failed" then
    match record? false ["path", "reason"] fields with
    | some [path, reason] => do
      let path ← required? path
      let reason ← required? reason
      pure (.writeFailed path reason)
    | _ => none
  else if kind = "read_failed" then
    match record? false ["path", "reason"] fields with
    | some [path, reason] => do
      let path ← required? path
      let reason ← required? reason
      pure (.readFailed path reason)
    | _ => none
  else if kind = "unsupported" then
    match record? false ["operation"] fields with
    | some [operation] => (required? operation).map .unsupported
    | _ => none
  else if kind = "not_mounted" then (record? false [] fields).map fun _ => .notMounted
  else none

/-- The kinds of error, each at its number. -/
def kinds : List String :=
  ["write_failed", "read_failed", "unsupported", "not_mounted"]

/-- The kind that a value names. In a value that is taken from the store, a kind may also be given
by its number. -/
def kindOf? (stored : Bool) : Json → Option String
  | .string text => text
  | .number n => if stored then n.natural?.bind (kinds[·]?) else none
  | _ => none

def ofJsonAt? (level : Nat) (stored : Bool) (value : Json) : Option FacilityError :=
  if value.isStorable level then
    match value with
    | .object members => do
      let tag ← (← field? members "error_type")
      ofKind? (← kindOf? stored tag) value
    | .array (tag :: fields) => do
      ofKind? (← kindOf? stored tag) (.array fields)
    | _ => none
  else none

instance : Wire FacilityError where
  toJson := toJson
  ofJson? := ofJsonAt? 0 false

end FacilityError

namespace SetupFailure

def toJson (f : SetupFailure) : Json :=
  .ofFields <| ("error_type", .ofString f.kind) ::
    match f with
    | .tracerBusy tracer => [("details", .ofFields [("tracer", .ofString tracer)])]
    | .facility error => [("details", error.toJson)]
    | _ => []

/-- The failure that found a tracer, whose payload can only be an object. -/
def ofTracer? (level : Nat) (t : Tagged) : Option SetupFailure :=
  match t.content with
  | some (.object members) =>
    if t.stored && !(Json.object members).isStorable level then none
    else match record? false ["tracer"] (.object members) with
      | some [tracer] => (required? tracer).map .tracerBusy
      | _ => none
  | _ => none

def ofTagged? (level : Nat) (t : Tagged) : Option SetupFailure :=
  if t.name = "tracing_in_use" then if t.isBare then some .tracingInUse else none
  else if t.name = "tracing_disabled_externally" then
    if t.isBare then some .tracingDisabledExternally else none
  else if t.name = "tracer_busy" then ofTracer? level t
  else if t.name = "facility" then
    (t.content.bind (FacilityError.ofJsonAt? level t.stored)).map .facility
  else if t.name = "ids_exhausted" then if t.isBare then some .idsExhausted else none
  else none

def ofJsonAt? (level : Nat) (value : Json) : Option SetupFailure :=
  (tagged? "error_type" "details" value).bind (ofTagged? (level + 1))

instance : Wire SetupFailure where
  toJson := toJson
  ofJson? := ofJsonAt? 0

end SetupFailure

namespace SetupReport

def fieldNames : List String :=
  ["unknown_events", "failed_events", "unknown_syscalls", "annotation_errors", "fatal"]

/-- A failure that may be missing, or `null`. -/
def failureOf? : Option Json → Option (Option SetupFailure)
  | none => some none
  | some .null => some none
  | some value => (SetupFailure.ofJsonAt? 1 value).map some

instance : Wire SetupReport where
  toJson r := .ofFields <| fieldNames.zip
    [Wire.toJson r.unknownEvents, Wire.toJson r.failedEvents, Wire.toJson r.unknownSyscalls,
      Wire.toJson r.annotationErrors, Wire.toJson r.failure]
  ofJson? value :=
    match record? false fieldNames value with
    | some [unknownEvents, failedEvents, unknownSyscalls, annotationErrors, failure] => do
      let unknownEvents ← required? unknownEvents
      let failedEvents ← required? failedEvents
      let unknownSyscalls ← required? unknownSyscalls
      let annotationErrors ← required? annotationErrors
      let failure ← failureOf? failure
      pure { unknownEvents, failedEvents, unknownSyscalls, annotationErrors, failure }
    | _ => none

end SetupReport

end TraceArbiter
