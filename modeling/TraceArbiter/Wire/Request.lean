import TraceArbiter.Request
import TraceArbiter.Settings
import TraceArbiter.Wire.Basic

/-!
# Wire forms of requests and settings

Every field of a request and of the settings has a default, so any of them may be left out.
-/

namespace TraceArbiter

open Json

instance : Wire CompactSched where
  toJson c := .ofFields [("enabled", Wire.toJson c.enabled)]
  ofJson? value :=
    match record? false ["enabled"] value with
    | some [enabled] => (required? enabled).map CompactSched.mk
    | _ => none

namespace Request

def fieldNames : List String :=
  ["ftrace_events", "syscall_events", "atrace_categories", "atrace_apps", "buffer_size_kb",
    "compact_sched", "symbolize_ksyms", "use_monotonic_raw_clock", "enable_function_graph",
    "function_filters", "function_graph_roots"]

instance : Wire Request where
  toJson r := .ofFields <| fieldNames.zip
    [Wire.toJson r.events, Wire.toJson r.syscalls, Wire.toJson r.categories, Wire.toJson r.apps,
      Wire.toJson r.bufferSizeKb, Wire.toJson r.compactSched, Wire.toJson r.symbolizeKernel,
      Wire.toJson r.useMonoRawClock, Wire.toJson r.functionGraph, Wire.toJson r.functionFilters,
      Wire.toJson r.functionGraphRoots]
  ofJson? value :=
    match record? true fieldNames value with
    | some [events, syscalls, categories, apps, bufferSizeKb, compactSched, symbolizeKernel,
        useMonoRawClock, functionGraph, functionFilters, functionGraphRoots] => do
      let events ← defaulted? [] events
      let syscalls ← defaulted? [] syscalls
      let categories ← defaulted? [] categories
      let apps ← defaulted? [] apps
      let bufferSizeKb ← defaulted? 0 bufferSizeKb
      let compactSched ← defaulted? {} compactSched
      let symbolizeKernel ← defaulted? false symbolizeKernel
      let useMonoRawClock ← defaulted? false useMonoRawClock
      let functionGraph ← defaulted? false functionGraph
      let functionFilters ← defaulted? [] functionFilters
      let functionGraphRoots ← defaulted? [] functionGraphRoots
      pure
        { events, syscalls, categories, apps, bufferSizeKb, compactSched, symbolizeKernel,
          useMonoRawClock, functionGraph, functionFilters, functionGraphRoots }
    | _ => none

end Request

namespace Settings

def fieldNames : List String :=
  ["page_size_kb", "default_buffer_kb", "max_buffer_pages", "clock_priority"]

instance : Wire Settings where
  toJson s := .ofFields <| fieldNames.zip
    [Wire.toJson s.pageSizeKb, Wire.toJson s.defaultBufferKb, Wire.toJson s.maxBufferPages,
      Wire.toJson s.clockPriority]
  ofJson? value :=
    match record? true fieldNames value with
    | some [pageSizeKb, defaultBufferKb, maxBufferPages, clockPriority] => do
      let base : Settings := {}
      let pageSizeKb ← defaulted? base.pageSizeKb pageSizeKb
      let defaultBufferKb ← defaulted? base.defaultBufferKb defaultBufferKb
      let maxBufferPages ← defaulted? base.maxBufferPages maxBufferPages
      let clockPriority ← defaulted? base.clockPriority clockPriority
      pure { pageSizeKb, defaultBufferKb, maxBufferPages, clockPriority }
    | _ => none

end Settings

end TraceArbiter
