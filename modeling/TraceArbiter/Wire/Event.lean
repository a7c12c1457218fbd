import TraceArbiter.Event.Filter
import TraceArbiter.Wire.Basic

/-!
# Wire forms of events
-/

namespace TraceArbiter

open Json

instance : Wire EventName where
  toJson n := .ofFields [("group", Wire.toJson n.group), ("name", Wire.toJson n.name)]
  ofJson? value :=
    match record? false ["group", "name"] value with
    | some [group, name] => do
      let group ← required? group
      let name ← required? name
      pure ⟨group, name⟩
    | _ => none

instance : Wire Event where
  toJson e :=
    .ofFields
      [("id", Wire.toJson e.id), ("group", Wire.toJson e.group), ("name", Wire.toJson e.name)]
  ofJson? value :=
    match record? false ["id", "group", "name"] value with
    | some [id, group, name] => do
      let id ← required? id
      let group ← required? group
      let name ← required? name
      pure ⟨id, group, name⟩
    | _ => none

instance : Wire EventFilter where
  toJson f := .ofFields [("enabled", Wire.toJson f.enabled)]
  ofJson? value :=
    match record? false ["enabled"] value with
    | some [enabled] => (required? enabled).map EventFilter.mk
    | _ => none

end TraceArbiter
