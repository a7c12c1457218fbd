import TraceArbiter.Arbiter.Basic

/-!
# Activating a session

Everything was installed when the session was set up, so activating it only has to turn tracing on,
and only if no other session has done so.
-/

namespace TraceArbiter.Arbiter

variable {σ : Type} [Facility σ]

/-- Starts recording for a session, and tells whether that worked. -/
def activate (id : SessionId) : ArbiterM σ Bool := do
  let a ← get
  if !a.isRegistered id || a.active.contains id then pure false
  else
    let join : ArbiterM σ Unit := modify fun a => { a with active := a.active.insert id }
    if !a.active.isEmpty then
      join
      pure true
    else
      match ← access (Control.setTracingOn true) with
      | .ok () =>
        join
        pure true
      | .error _ => pure false

end TraceArbiter.Arbiter
