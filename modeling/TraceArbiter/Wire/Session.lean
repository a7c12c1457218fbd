import TraceArbiter.Clock
import TraceArbiter.Session.Basic
import TraceArbiter.Wire.Event
import TraceArbiter.Wire.Request
import TraceArbiter.Wire.Syscall

/-!
# Wire forms of sessions and clocks
-/

namespace TraceArbiter

open Json

instance : Wire SessionId where
  toJson id := Wire.toJson id.raw
  ofJson? value := (Wire.ofJson? value).map SessionId.mk

instance : Wire Clock where
  toJson c := .ofString c.name
  ofJson? value := value.name?.bind fun name =>
    let clock := Clock.ofName name
    if clock.name = name then some clock else none

namespace SessionConfig

def fieldNames : List String :=
  ["event_filter", "syscall_filter", "compact_sched", "atrace_apps", "atrace_categories",
    "symbolize_ksyms", "function_graph"]

instance : Wire SessionConfig where
  toJson c := .ofFields <| fieldNames.zip
    [Wire.toJson c.eventFilter, Wire.toJson c.syscallFilter, Wire.toJson c.compactSched,
      Wire.toJson c.apps, Wire.toJson c.categories, Wire.toJson c.symbolizeKernel,
      Wire.toJson c.functionGraph]
  ofJson? value :=
    match record? false fieldNames value with
    | some [eventFilter, syscallFilter, compactSched, apps, categories, symbolizeKernel,
        functionGraph] => do
      let eventFilter ← required? eventFilter
      let syscallFilter ← required? syscallFilter
      let compactSched ← required? compactSched
      let apps ← required? apps
      let categories ← required? categories
      let symbolizeKernel ← required? symbolizeKernel
      let functionGraph ← required? functionGraph
      pure
        { eventFilter, syscallFilter, compactSched, apps, categories, symbolizeKernel,
          functionGraph }
    | _ => none

end SessionConfig

end TraceArbiter
