import Std.Data.ExtTreeSet
import TraceArbiter.Text.Numeral

/-!
# Syscall filters

Which system calls are wanted: none, the listed ones, or all. The union of two filters wants what
either wants. On the kernel's side a filter is an expression over the number of the call; only a
non-empty list restricts anything, and every other filter is written as the expression that clears.
-/

namespace TraceArbiter

open Std

/-- The number of a system call on the running architecture. -/
abbrev SyscallId := UInt64

inductive SyscallFilter where
  | none
  | explicit (ids : ExtTreeSet SyscallId)
  | all
  deriving DecidableEq

namespace SyscallFilter

instance : Inhabited SyscallFilter :=
  ⟨.none⟩

/-- Listing no call is wanting none. -/
def ofIds (ids : ExtTreeSet SyscallId) : SyscallFilter :=
  if ids.isEmpty then .none else .explicit ids

def union : SyscallFilter → SyscallFilter → SyscallFilter
  | .all, _ => .all
  | _, .all => .all
  | .none, g => g
  | f, .none => f
  | .explicit a, .explicit b => .explicit (a ∪ b)

/-- The calls that recording has to be restricted to, if it has to be restricted. -/
def restriction : SyscallFilter → Option (ExtTreeSet SyscallId)
  | .explicit ids => if ids.isEmpty then Option.none else some ids
  | _ => Option.none

/-- The expression that removes a filter. -/
def clearExpression : String :=
  "0"

def clause (id : SyscallId) : String :=
  "id == " ++ Text.writeDecimal id

def expression (f : SyscallFilter) : String :=
  match f.restriction with
  | some ids => " || ".intercalate (ids.toList.map clause)
  | Option.none => clearExpression

end SyscallFilter

end TraceArbiter
