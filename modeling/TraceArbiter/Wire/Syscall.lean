import TraceArbiter.Syscall.Filter
import TraceArbiter.Wire.Basic

/-!
# Wire form of syscall filters

A filter is a choice under `kind`, and the listed calls stand under `ids`.
-/

namespace TraceArbiter

open Json

namespace SyscallFilter

def toJson : SyscallFilter → Json
  | .none => .ofFields [("kind", .ofString "none")]
  | .explicit ids => .ofFields [("kind", .ofString "explicit"), ("ids", Wire.toJson ids)]
  | .all => .ofFields [("kind", .ofString "all")]

def ofTagged? (t : Tagged) : Option SyscallFilter :=
  if t.name = "none" then if t.isBare then some .none else Option.none
  else if t.name = "explicit" then (required? t.content).map .explicit
  else if t.name = "all" then if t.isBare then some .all else Option.none
  else Option.none

instance : Wire SyscallFilter where
  toJson := toJson
  ofJson? value := (tagged? "kind" "ids" value).bind ofTagged?

end SyscallFilter

end TraceArbiter
