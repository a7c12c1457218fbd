import TraceArbiter.Category.Kernel
import TraceArbiter.Category.Vendor
import TraceArbiter.Event.Table
import TraceArbiter.Request

/-!
# Resolving requests

The kernel events that a request stands for. An entry for a whole group becomes the events that the
kernel has in it, a bare name becomes the event that owns it or nothing, and a full name stays as it
is whether the kernel has the event or not, so that a missing one can be reported. Categories add
their entries, and asking for annotations at all adds the event that carries them.
-/

namespace TraceArbiter

open Std

/-- The event through which annotations reach the buffer. -/
def printEvent : EventName :=
  ⟨"ftrace", "print"⟩

/-- The names that one entry stands for. -/
def EventTable.expand (t : EventTable) (entry : EventName) : List EventName :=
  if entry.isWildcard then (t.eventsInGroup entry.group).map Event.fullName
  else if entry.group.isEmpty then ((t.getByName entry.name).map Event.fullName).toList
  else [entry]

namespace Request

/-- The entries behind an annotation category, built-in ones first. -/
def categoryEntries (vendor : VendorCategories) (category : String) : List EventName :=
  (Category.entriesOf category).map EventName.parse ++ vendor.eventsOf category

/-- Every entry of a request, those behind its annotations included. -/
def entries (r : Request) (vendor : VendorCategories) : List EventName :=
  r.events.map EventName.parse ++
    if r.wantsAnnotations then printEvent :: r.categories.flatMap (categoryEntries vendor) else []

def resolve (r : Request) (table : EventTable) (vendor : VendorCategories) :
    ExtTreeSet EventName :=
  ExtTreeSet.ofList ((r.entries vendor).flatMap table.expand)

end Request

end TraceArbiter
