import TraceArbiter.Arbiter.Basic
import TraceArbiter.Request.Plan

/-!
# Setting up a session

A setup first makes sure that nobody else is in the way, then does what the session cannot do
without: the filter on system calls, the function graph tracer if it is wanted, and the size of the
buffer. If one of these fails, what the setup wrote is undone and there is no session. The rest is
done as far as it goes, and what does not go is reported.
-/

namespace TraceArbiter.Arbiter

open Std

variable {σ : Type} [Facility σ]

/-! ### Before anything is written -/

/-- Without sessions tracing has to be off, and while sessions record it has to be on; anything else
is the work of somebody else. -/
def checkTracing : Essential σ Unit := do
  let tracingOn ← requireRead Control.isTracingOn
  let a ← get
  if a.sessions.isEmpty then
    if tracingOn then throw .tracingInUse
  else if !a.active.isEmpty && !tracingOn then throw .tracingDisabledExternally

/-- The function graph tracer can only be engaged in place of the idle one. -/
def checkTracer (r : Request) : Essential σ Unit := do
  let a ← get
  if r.functionGraph && !a.installed.functionGraph then
    let tracer ← requireRead Control.tracer
    if tracer ≠ Control.idleTracer then throw (.tracerBusy tracer)

def newId : Essential σ SessionId := do
  match (← get).lastId.next? with
  | some id => pure id
  | none => throw .idsExhausted

def preflight (r : Request) : Essential σ SessionId := do
  checkTracing
  checkTracer r
  newId

/-! ### The filter on system calls -/

/-- Installs the union of what the sessions record and `extra`, and tells whether that took a write.
Filters that restrict to the same calls are written alike, so going from one to the other takes
none. -/
def installSyscallFilter (extra : SyscallFilter) : Essential σ Bool := do
  let a ← get
  let union := (unionOfSyscalls a.configs).union extra
  if union.restriction = a.installed.syscallFilter.restriction then
    modify (note ({ · with syscallFilter := union }))
    pure false
  else
    require (Control.setSyscallFilter union.expression)
    modify (note ({ · with syscallFilter := union }))
    pure true

/-- Writes what the sessions record, whatever is installed. -/
def restoreSyscallFilter : ArbiterM σ Unit := do
  let union := unionOfSyscalls (← get).configs
  match ← access (Control.setSyscallFilter union.expression) with
  | .ok () => modify (note ({ · with syscallFilter := union }))
  | .error _ => pure ()

/-- Goes back to what the sessions record when no write was needed to leave it. -/
def recallSyscallFilter : ArbiterM σ Unit := do
  let union := unionOfSyscalls (← get).configs
  modify (note ({ · with syscallFilter := union }))

/-! ### The function graph tracer -/

def dropFunctionFilters : ArbiterM σ Unit := do
  let _ ← access (do Control.clearFunctionFilters; Control.clearGraphFilters)

def addFunctionFilters (r : Request) : Essential σ Unit := do
  require (Control.appendFunctionFilters r.functionFilters)
  require (Control.appendGraphFilters r.functionGraphRoots)

/-- Starts over with the filters of the request and switches tracers. -/
def switchToFunctionGraph (r : Request) : Essential σ Unit := do
  require Control.clearFunctionFilters
  require Control.clearGraphFilters
  addFunctionFilters r
  require (Control.setTracer Control.functionGraphTracer)
  modify (note ({ · with functionGraph := true }))

/-- Engages the tracer if it is wanted, and tells whether that took switching tracers. A tracer that
is engaged already gets the filters of the request in addition. -/
def engageFunctionGraph (r : Request) : Essential σ Bool := do
  if !r.functionGraph then pure false
  else if (← get).installed.functionGraph then
    addFunctionFilters r
    pure false
  else
    orUndo (switchToFunctionGraph r) dropFunctionFilters
    pure true

def disengageFunctionGraph : ArbiterM σ Unit := do
  modify (note ({ · with functionGraph := false }))
  let _ ← access Control.resetTracer
  dropFunctionFilters

/-! ### The buffer -/

/-- Sets the size of the buffer, unless an earlier session has. The size is worked out in a machine
word, and a product that does not fit is taken to wrap, as in a build without overflow checks. -/
def pinBuffer (r : Request) : Essential σ Unit := do
  let a ← get
  if a.installed.bufferPages = 0 then
    let pages := a.settings.bufferPages r.bufferSizeKb
    require (Control.setBufferSizeKb (pages * a.settings.pageSizeKb))
    modify (note ({ · with bufferPages := pages }))

/-- Engages the tracer and sets the size of the buffer. A buffer that cannot be set takes the tracer
with it. -/
def installTracerAndBuffer (r : Request) : Essential σ Unit := do
  let engaged ← engageFunctionGraph r
  orUndo (pinBuffer r) (if engaged then disengageFunctionGraph else pure ())

/-- What has to succeed for there to be a session. The filter goes first, so that it is never
narrower than what the session records. A filter write that failed may have left entry and exit
apart, so it is undone like one that succeeded. -/
def installEssentials (r : Request) (filter : SyscallFilter) : Essential σ Unit := do
  let written ← orUndo (installSyscallFilter filter) restoreSyscallFilter
  orUndo (installTracerAndBuffer r) (if written then restoreSyscallFilter else recallSyscallFilter)

/-! ### What is done as far as it goes -/

/-- The first session drops whatever was left enabled and recorded before it. -/
def startFresh : ArbiterM σ Unit := do
  if (← get).sessions.isEmpty then
    match ← access Control.disableAllEvents with
    | .ok () => modify (note ({ · with events := {} }))
    | .error _ => pure ()
    let _ ← access Control.clearTrace

/-- Selects a clock, unless an earlier session has. If the listing cannot be read or written, the
selected clock stays. -/
def selectClock (r : Request) : ArbiterM σ Unit := do
  let a ← get
  if a.installed.clock.isNone then
    let current := (Control.clock a.facility).toOption.getD ""
    let choice := Clock.choose (Control.availableClocks a.facility) a.settings.clockPriority
      r.useMonoRawClock
    let selected ← match choice.filter (· ≠ current) with
      | some name => do
        match ← access (Control.setClock name) with
        | .ok () => pure name
        | .error _ => pure current
      | none => pure current
    modify (note ({ · with clock := some (.ofName selected) }))

/-- Sees to it that an event is on, and tells whether it is. -/
def enableEvent (e : Event) : ArbiterM σ Bool := do
  if (← get).installed.events.isEnabled e.id then pure true
  else if e.isAlwaysOn then
    modify (note fun i => { i with events := i.events.add e.id })
    pure true
  else
    match ← access (Control.enableEvent e.fullName) with
    | .ok () =>
      modify (note fun i => { i with events := i.events.add e.id })
      pure true
    | .error _ => pure false

/-- Enables events in turn, and gives those that are on and those that are not. -/
def enableEvents : List Event → ArbiterM σ (EventFilter × List Event)
  | [] => pure ({}, [])
  | e :: events => do
    let isOn ← enableEvent e
    let (granted, refused) ← enableEvents events
    pure (if isOn then (granted.add e.id, refused) else (granted, e :: refused))

def heldElsewhere : String :=
  "Userspace annotations are in use by another agent; not enabling them"

/-- Starts annotations with what the request adds, if it adds anything, and gives what went wrong.
The additions count only once the start has succeeded. -/
def extendAnnotations (r : Request) : ArbiterM σ (List String) := do
  let i := (← get).installed
  let categories := mergeNames i.categories r.categories
  let apps := mergeNames i.apps r.apps
  if i.annotationsOn && apps.length = i.apps.length && categories.length = i.categories.length then
    pure []
  else
    match ← access (Facility.startAnnotations apps categories) with
    | .ok () =>
      modify (note ({ · with annotationsOn := true, apps, categories }))
      pure []
    | .error e => pure [e.message]

/-- Annotations that somebody else holds are left alone. -/
def joinAnnotations (r : Request) : ArbiterM σ (List String) := do
  let a ← get
  if !r.wantsAnnotations then pure []
  else if !a.installed.annotationsOn && Facility.externalAgentActive a.facility then
    pure [heldElsewhere]
  else extendAnnotations r

/-- The configuration of a session that was granted the given events. -/
def configFor (a : Arbiter σ) (r : Request) (granted : EventFilter) (filter : SyscallFilter) :
    SessionConfig where
  eventFilter := granted
  syscallFilter := filter
  compactSched := ⟨r.compactSched.enabled && a.catalog.events.supportsCompactSched⟩
  apps := r.apps
  categories := r.categories
  symbolizeKernel := r.symbolizeKernel
  functionGraph := r.functionGraph

def register (id : SessionId) (config : SessionConfig) : ArbiterM σ Unit :=
  modify fun a => { a with lastId := id, sessions := a.sessions.insert id config }

/-! ### The whole setup -/

/-- Completes a session whose essentials are installed, and gives the names of the events that were
refused and what went wrong with annotations. -/
def completeSetup (r : Request) (id : SessionId) (plan : Plan) :
    ArbiterM σ (List String × List String) := do
  startFresh
  selectClock r
  let (granted, refused) ← enableEvents plan.events
  let annotationErrors ← joinAnnotations r
  register id ((← get).configFor r granted plan.syscallFilter)
  pure (refused.map (toString ·.fullName), annotationErrors)

/-- Sets up a session, and adds to a report what went wrong. The id is invalid exactly if there is
no session. -/
def setup (r : Request) (report : SetupReport) : ArbiterM σ (SessionId × SetupReport) := do
  match ← (preflight r).run with
  | .error failure => pure (.invalid, { report with failure := some failure })
  | .ok id =>
    let plan := r.plan (← get).catalog
    let report := { report with
      unknownEvents := report.unknownEvents ∪ plan.unknownEvents
      unknownSyscalls := report.unknownSyscalls ∪ plan.unknownSyscalls }
    match ← (installEssentials r plan.syscallFilter).run with
    | .error failure => pure (.invalid, { report with failure := some failure })
    | .ok () =>
      let (refused, annotationErrors) ← completeSetup r id plan
      pure (id, { report with
        failedEvents := report.failedEvents.insertMany refused
        annotationErrors := report.annotationErrors ++ annotationErrors })

end TraceArbiter.Arbiter
