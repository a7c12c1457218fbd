import TraceArbiter.Arbiter.Basic

/-!
# Resetting the tracer

The kernel does not switch tracers while somebody reads the buffers, so removing a session leaves
the tracer engaged, and it is reset in a step of its own once the readers are gone.
-/

namespace TraceArbiter.Arbiter

variable {σ : Type} [Facility σ]

/-- Puts the idle tracer back, then drops the function filters, and tells whether all of it worked.
There is nothing to do when the function graph tracer is not engaged. -/
def resetTracer : ArbiterM σ Bool := do
  if !(← get).installed.functionGraph then pure true
  else
    match ← access Control.resetTracer with
    | .error _ => pure false
    | .ok () =>
      modify (note ({ · with functionGraph := false }))
      match ← access (do Control.clearFunctionFilters; Control.clearGraphFilters) with
      | .error _ => pure false
      | .ok () => pure true

end TraceArbiter.Arbiter
