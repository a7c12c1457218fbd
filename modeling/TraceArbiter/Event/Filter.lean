import TraceArbiter.Event.Table

/-!
# Event filters

A set of enabled events, by id.
-/

namespace TraceArbiter

open Std

structure EventFilter where
  enabled : ExtTreeSet EventId := ∅
  deriving DecidableEq

namespace EventFilter

def ofList (ids : List EventId) : EventFilter :=
  ⟨ExtTreeSet.ofList ids⟩

/-- The enabled ids in increasing order. -/
def toList (f : EventFilter) : List EventId :=
  f.enabled.toList

def add (f : EventFilter) (id : EventId) : EventFilter :=
  ⟨f.enabled.insert id⟩

def remove (f : EventFilter) (id : EventId) : EventFilter :=
  ⟨f.enabled.erase id⟩

def isEnabled (f : EventFilter) (id : EventId) : Bool :=
  f.enabled.contains id

def union (f g : EventFilter) : EventFilter :=
  ⟨f.enabled ∪ g.enabled⟩

def isSubset (f g : EventFilter) : Bool :=
  f.toList.all g.isEnabled

def size (f : EventFilter) : Nat :=
  f.enabled.size

def isEmpty (f : EventFilter) : Bool :=
  f.enabled.isEmpty

/-- Whether an enabled event is in the group, as far as the table knows the ids. -/
def hasGroup (f : EventFilter) (table : EventTable) (group : String) : Bool :=
  (f.toList.filterMap table.getById).any (·.group = group)

end EventFilter

end TraceArbiter
