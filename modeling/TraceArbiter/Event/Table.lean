import Std.Data.ExtTreeMap
import TraceArbiter.Event.Name

/-!
# The event table

The events a running kernel has, looked up by id, by group and name, or by bare name. The last event
inserted under an id or under a group and name is the one found there, while a bare name stays with
the first event that had it. All lookups end at the id, so an id that is inserted again takes its
earlier names along.
-/

namespace TraceArbiter

open Std

/-- The number under which the kernel records an event. -/
abbrev EventId := UInt64

structure Event where
  id : EventId
  group : String
  name : String
  deriving DecidableEq, Inhabited

def Event.fullName (e : Event) : EventName :=
  ⟨e.group, e.name⟩

/-- The group of the events that are always on and have no switch. -/
def alwaysOnGroup : String :=
  "ftrace"

def Event.isAlwaysOn (e : Event) : Bool :=
  e.group = alwaysOnGroup

structure EventTable where
  byId : ExtTreeMap EventId Event := ∅
  byGroup : ExtTreeMap String (ExtTreeMap String EventId) := ∅
  byName : ExtTreeMap String EventId := ∅

namespace EventTable

def insert (t : EventTable) (e : Event) : EventTable where
  byId := t.byId.insert e.id e
  byGroup := t.byGroup.insert e.group ((t.byGroup.getD e.group ∅).insert e.name e.id)
  byName := t.byName.insertIfNew e.name e.id

def ofList (events : List Event) : EventTable :=
  events.foldl insert {}

def getById (t : EventTable) (id : EventId) : Option Event :=
  t.byId[id]?

def get (t : EventTable) (n : EventName) : Option Event :=
  (t.byGroup[n.group]?.bind (·[n.name]?)).bind t.getById

def getByName (t : EventTable) (name : String) : Option Event :=
  t.byName[name]?.bind t.getById

/-- The events of a group, in the order of their names. -/
def eventsInGroup (t : EventTable) (group : String) : List Event :=
  match t.byGroup[group]? with
  | some ids => ids.toList.filterMap fun entry => t.getById entry.2
  | none => []

def size (t : EventTable) : Nat :=
  t.byId.size

def isEmpty (t : EventTable) : Bool :=
  t.byId.isEmpty

/-- Compact scheduling records need both of these events. -/
def compactSchedEvents : List EventName :=
  [⟨"sched", "sched_switch"⟩, ⟨"sched", "sched_waking"⟩]

def supportsCompactSched (t : EventTable) : Bool :=
  compactSchedEvents.all fun n => (t.get n).isSome

end EventTable

end TraceArbiter
