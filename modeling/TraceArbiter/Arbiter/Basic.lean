import TraceArbiter.Catalog
import TraceArbiter.Facility.Basic
import TraceArbiter.Session.Basic
import TraceArbiter.Session.Report
import TraceArbiter.Settings

/-!
# The arbiter

One tracing facility is shared by any number of sessions. The arbiter keeps the configuration of
every session, and what it believes to have installed; it installs the union of what the sessions
want, and writes only what that changes. Others may touch the same files, so what is wanted is always
worked out from the sessions, never from what was changed before.
-/

namespace TraceArbiter

open Std

/-- What the arbiter believes to have installed. -/
structure Installed where
  events : EventFilter := {}
  syscallFilter : SyscallFilter := .none
  /-- Whether the function graph tracer is engaged. -/
  functionGraph : Bool := false
  /-- Pages of the buffer of each processor, 0 until the first session pins them. -/
  bufferPages : UInt64 := 0
  clock : Option Clock := none
  annotationsOn : Bool := false
  apps : List String := []
  categories : List String := []
  deriving DecidableEq

structure Arbiter (σ : Type) where
  facility : σ
  catalog : Catalog
  settings : Settings := {}
  lastId : SessionId := .invalid
  installed : Installed := {}
  /-- Every session that is set up, recording or not. -/
  sessions : ExtTreeMap SessionId SessionConfig := ∅
  /-- The sessions that are recording. Tracing is on when there is one. -/
  active : ExtTreeSet SessionId := ∅

/-- A step of the arbiter. -/
abbrev ArbiterM (σ α : Type) : Type :=
  StateM (Arbiter σ) α

namespace Arbiter

variable {σ α : Type}

/-! ### Views -/

def session? (a : Arbiter σ) (id : SessionId) : Option SessionConfig :=
  a.sessions[id]?

def isRegistered (a : Arbiter σ) (id : SessionId) : Bool :=
  id.isValid && a.sessions.contains id

/-- The configurations of all sessions, in the order of their ids. -/
def configs (a : Arbiter σ) : List SessionConfig :=
  a.sessions.toList.map (·.2)

/-- The union of what the given sessions record of the kernel's events. -/
def unionOfEvents (configs : List SessionConfig) : EventFilter :=
  configs.foldl (fun f c => f.union c.eventFilter) {}

def unionOfSyscalls (configs : List SessionConfig) : SyscallFilter :=
  configs.foldl (fun f c => f.union c.syscallFilter) .none

/-- The first list, and behind it what the second adds, each entry once. -/
def mergeNames (names added : List String) : List String :=
  added.foldl (fun merged n => if n ∈ merged then merged else merged ++ [n]) names

def unionOfApps (configs : List SessionConfig) : List String :=
  configs.foldl (fun names c => mergeNames names c.apps) []

def unionOfCategories (configs : List SessionConfig) : List String :=
  configs.foldl (fun names c => mergeNames names c.categories) []

/-- Changes the beliefs about what is installed. -/
def note (change : Installed → Installed) (a : Arbiter σ) : Arbiter σ :=
  { a with installed := change a.installed }

/-! ### Steps -/

/-- An access to the facility, whose failure is for the caller to judge. -/
def access (m : Access σ α) : ArbiterM σ (Except FacilityError α) := fun a =>
  let (result, facility) := m.run.run a.facility
  (result, { a with facility })

/-- A step that setup cannot do without. -/
abbrev Essential (σ α : Type) : Type :=
  ExceptT SetupFailure (StateM (Arbiter σ)) α

/-- An access whose failure is the end of the setup. -/
def require (m : Access σ α) : Essential σ α := do
  match ← access m with
  | .ok value => pure value
  | .error e => throw (.facility e)

/-- What reading the facility gives, whose failure is the end of the setup. -/
def requireRead (read : σ → Except FacilityError α) : Essential σ α := do
  match read (← get).facility with
  | .ok value => pure value
  | .error e => throw (.facility e)

/-- Undoes a failed step before its failure goes on. -/
def orUndo (step : Essential σ α) (undo : ArbiterM σ Unit) : Essential σ α := fun a =>
  match step.run.run a with
  | (.ok value, a) => (.ok value, a)
  | (.error failure, a) => (.error failure, (undo.run a).2)

end Arbiter

end TraceArbiter
