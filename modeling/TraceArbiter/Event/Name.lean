import Std.Data.ExtTreeSet

/-!
# Event names

A kernel event is known by its group and its name in the group, written `group/name`. Requests may
leave the group out, or ask for a whole group with `*` in place of the name. Names are ordered by
group first, which is not the order of their written forms.
-/

namespace TraceArbiter

open Std

structure EventName where
  group : String
  name : String
  deriving DecidableEq, Inhabited

namespace EventName

/-- Splits at the first slash; without one there is no group. -/
def parse (s : String) : EventName :=
  match s.toList.span (· ≠ '/') with
  | (group, _ :: name) => ⟨String.ofList group, String.ofList name⟩
  | (_, []) => ⟨"", s⟩

def isWildcard (n : EventName) : Bool :=
  n.name = "*"

protected def toString (n : EventName) : String :=
  n.group ++ "/" ++ n.name

instance : ToString EventName where
  toString := EventName.toString

instance : Ord EventName where
  compare := compareLex (compareOn group) (compareOn name)

instance : TransOrd EventName :=
  inferInstanceAs (TransCmp (compareLex (compareOn group) (compareOn name)))

instance : LawfulEqOrd EventName where
  eq_of_compare {a b} h := by
    have hboth : (compare a.group b.group).then (compare a.name b.name) = .eq := h
    obtain ⟨hgroup, hname⟩ := Ordering.then_eq_eq.mp hboth
    cases a
    cases b
    simp_all

end EventName

end TraceArbiter
