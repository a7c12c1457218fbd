import TraceArbiter.Catalog
import TraceArbiter.Event.Filter
import TraceArbiter.Request.Resolution

/-!
# Planning a request

What a request comes to on a given kernel, before anything is written: the events to enable, the
system calls to record, and the names that mean nothing here. System calls are recorded only when an
event of the raw syscall group is among the events; then all of them are, unless the request lists
some. Listed names that resolve to nothing never widen the filter.
-/

namespace TraceArbiter

open Std

/-- The group of the events that record every system call. -/
def rawSyscallGroup : String :=
  "raw_syscalls"

structure Plan where
  /-- The events that the kernel has, in the order of the names that lead to them. -/
  events : List Event
  unknownEvents : ExtTreeSet String
  syscallFilter : SyscallFilter
  unknownSyscalls : ExtTreeSet String

/-- The number of a system call given by name, or by the number itself. -/
def SyscallTable.resolve? (t : SyscallTable) (entry : String) : Option SyscallId :=
  (t.idOf? entry).or (Text.readDecimal entry)

namespace Request

/-- The filter for a request whose events are those with the given ids, and the syscall entries that
mean nothing. -/
def syscallPlan (r : Request) (catalog : Catalog) (events : EventFilter) :
    SyscallFilter × ExtTreeSet String :=
  if !events.hasGroup catalog.events rawSyscallGroup then (.none, ∅)
  else if r.syscalls.isEmpty then (.all, ∅)
  else
    let ids := r.syscalls.filterMap catalog.syscalls.resolve?
    let unknown := r.syscalls.filter fun entry => (catalog.syscalls.resolve? entry).isNone
    (.ofIds (ExtTreeSet.ofList ids), ExtTreeSet.ofList unknown)

def plan (r : Request) (catalog : Catalog) : Plan :=
  let names := (r.resolve catalog.events catalog.vendor).toList
  let events := names.filterMap catalog.events.get
  let unknown := names.filter fun n => (catalog.events.get n).isNone
  let syscalls := r.syscallPlan catalog (.ofList (events.map Event.id))
  { events
    unknownEvents := ExtTreeSet.ofList (unknown.map toString)
    syscallFilter := syscalls.1
    unknownSyscalls := syscalls.2 }

end Request

end TraceArbiter
