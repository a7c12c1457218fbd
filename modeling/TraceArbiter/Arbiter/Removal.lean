import TraceArbiter.Arbiter.Setup

/-!
# Removing a session

The session is gone whatever fails. What it alone wanted is taken back as far as that goes:
annotations that nobody left wants, the filter on system calls, the events that nobody left records,
and tracing itself when no session is recording any more. Buffer, clock and tracer stay as they are.
-/

namespace TraceArbiter.Arbiter

variable {σ : Type} [Facility σ]

def stopAnnotations : ArbiterM σ Unit := do
  let _ ← access Facility.stopAnnotations
  modify (note ({ · with annotationsOn := false, apps := [], categories := [] }))

/-- Reduces the running annotations to what the sessions want of them. What a session wanted and
never got is not started now. -/
def shrinkAnnotations : ArbiterM σ Unit := do
  let a ← get
  let i := a.installed
  let apps := (unionOfApps a.configs).filter (· ∈ i.apps)
  let categories := (unionOfCategories a.configs).filter (· ∈ i.categories)
  if i.annotationsOn &&
      (apps.length ≠ i.apps.length || categories.length ≠ i.categories.length) then
    if apps.isEmpty && categories.isEmpty then stopAnnotations
    else
      match ← access (Facility.startAnnotations apps categories) with
      | .ok () => modify (note ({ · with apps, categories }))
      | .error _ => pure ()

def shrinkSyscallFilter : ArbiterM σ Unit := do
  let _ ← (installSyscallFilter .none).run

def forgetEvent (id : EventId) : ArbiterM σ Unit :=
  modify (note fun i => { i with events := i.events.remove id })

/-- Turns an event off. It still counts as installed if that fails. -/
def disableEvent (id : EventId) : ArbiterM σ Unit := do
  match (← get).catalog.events.getById id with
  | none => forgetEvent id
  | some e =>
    if e.isAlwaysOn then forgetEvent id
    else
      match ← access (Control.disableEvent e.fullName) with
      | .ok () => forgetEvent id
      | .error _ => pure ()

def disableEvents : List EventId → ArbiterM σ Unit
  | [] => pure ()
  | id :: ids => do
    disableEvent id
    disableEvents ids

/-- Turns off the events that no session records. -/
def shrinkEvents : ArbiterM σ Unit := do
  let a ← get
  let wanted := unionOfEvents a.configs
  disableEvents (a.installed.events.toList.filter fun id => !wanted.isEnabled id)

/-- Stops recording for a session. The last one turns tracing off. -/
def deactivate (id : SessionId) : ArbiterM σ Unit := do
  let a ← get
  if a.active.contains id then
    let active := a.active.erase id
    set { a with active }
    if active.isEmpty then
      let _ ← access (Control.setTracingOn false)

/-- Removes a session, and tells whether there was one. -/
def remove (id : SessionId) : ArbiterM σ Bool := do
  let a ← get
  if !a.isRegistered id then pure false
  else
    set { a with sessions := a.sessions.erase id }
    shrinkAnnotations
    shrinkSyscallFilter
    shrinkEvents
    deactivate id
    pure true

end TraceArbiter.Arbiter
