import Std.Data.ExtTreeSet

/-!
# Requests

What one session asks of the tracing facility. An event entry is `group/name`, `group/*` or a bare
event name; syscalls are given by name or number.
-/

namespace TraceArbiter

structure CompactSched where
  enabled : Bool := false
  deriving DecidableEq, Inhabited

structure Request where
  events : List String := []
  syscalls : List String := []
  categories : List String := []
  apps : List String := []
  /-- Size of the buffer of each processor, 0 for the default size. -/
  bufferSizeKb : UInt64 := 0
  compactSched : CompactSched := {}
  symbolizeKernel : Bool := false
  useMonoRawClock : Bool := false
  functionGraph : Bool := false
  functionFilters : List String := []
  functionGraphRoots : List String := []
  deriving DecidableEq, Inhabited

/-- Whether annotations that programs write themselves are asked for. -/
def Request.wantsAnnotations (r : Request) : Bool :=
  !r.categories.isEmpty || !r.apps.isEmpty

theorem Request.wantsAnnotations_iff {r : Request} :
    r.wantsAnnotations ↔ r.apps ≠ [] ∨ r.categories ≠ [] := by
  simp [wantsAnnotations, or_comm]

theorem Request.wantsAnnotations_eq_false_iff {r : Request} :
    r.wantsAnnotations = false ↔ r.apps = [] ∧ r.categories = [] := by
  simp [wantsAnnotations, and_comm]

end TraceArbiter
