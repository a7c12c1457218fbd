import TraceArbiter.Event.Filter
import TraceArbiter.Request
import TraceArbiter.Syscall.Filter

/-!
# Sessions

A session is known by its id, and by the configuration that was settled when it was set up. Ids are
given out in increasing order and never again; 0 stands for no session.
-/

namespace TraceArbiter

open Std

structure SessionId where
  raw : UInt64
  deriving DecidableEq, Inhabited

namespace SessionId

def invalid : SessionId :=
  ⟨0⟩

def isValid (id : SessionId) : Bool :=
  id.raw ≠ 0

/-- The id after this one, unless the ids are used up. -/
def next? (id : SessionId) : Option SessionId :=
  if id.raw.toNat + 1 < UInt64.size then some ⟨id.raw + 1⟩ else none

instance : Ord SessionId where
  compare := compareOn raw

instance : TransOrd SessionId :=
  inferInstanceAs (TransCmp (compareOn raw))

instance : LawfulEqOrd SessionId where
  eq_of_compare {a b} h := by
    have hraw : a.raw = b.raw := LawfulEqOrd.eq_of_compare (h : compare a.raw b.raw = .eq)
    cases a
    cases b
    simp_all

end SessionId

/-- What a session records. It decides which records of the shared buffer belong to the session, and
never changes. -/
structure SessionConfig where
  eventFilter : EventFilter
  syscallFilter : SyscallFilter
  /-- Asked for, and supported by the kernel's scheduling events. -/
  compactSched : CompactSched
  apps : List String
  categories : List String
  symbolizeKernel : Bool
  functionGraph : Bool
  deriving DecidableEq

end TraceArbiter
