import Mathlib.Data.List.Basic
import TraceArbiter.Facility.Simulation

/-!
# The switches of events

Paths of switches against the other control files. A switch is recognized by the form of its path,
no other control file has that form, and the path gives the spelling of the event's name back. The
switch for all events has the form too, but it is the path of no event.
-/

namespace TraceArbiter

open Std

namespace Simulation

theorem isSwitch_iff {path : String} :
    isSwitch path = true ↔
      "events/".toList <+: path.toList ∧ "/enable".toList <:+ path.toList := by
  unfold isSwitch
  rw [Bool.and_eq_true, List.isPrefixOf_iff_prefix, List.isSuffixOf_iff_suffix]

theorem toList_eventSwitch (n : EventName) :
    (Control.eventSwitch n).toList = "events/".toList ++ (toString n).toList ++ "/enable".toList := by
  change (_ : String).toList = "events/".toList ++ (n.group ++ "/" ++ n.name).toList ++ _
  unfold Control.eventSwitch
  simp only [String.toList_append, List.append_assoc]

@[simp]
theorem isSwitch_eventSwitch (n : EventName) : isSwitch (Control.eventSwitch n) = true := by
  rw [isSwitch_iff, toList_eventSwitch]
  exact ⟨⟨_, (List.append_assoc _ _ _).symm⟩, List.suffix_append _ _⟩

theorem isSwitch_of_switchName? {path name : String} (h : switchName? path = some name) :
    isSwitch path = true := by
  unfold switchName? at h
  dsimp only at h
  split at h
  · next hform =>
    rw [Bool.and_eq_true, List.isPrefixOf_iff_prefix, List.isSuffixOf_iff_suffix] at hform
    exact isSwitch_iff.mpr ⟨hform.1, hform.2.trans (List.drop_suffix _ _)⟩
  · cases h

/-- The full name of an event can be read off its switch. -/
theorem switchName?_eventSwitch (n : EventName) :
    switchName? (Control.eventSwitch n) = some (toString n) := by
  have hpath := toList_eventSwitch n
  unfold switchName?
  dsimp only
  rw [hpath, List.append_assoc, List.drop_left, if_pos]
  · have hlength : ("events/".toList ++ ((toString n).toList ++ "/enable".toList)).length -
        "events/".toList.length - "/enable".toList.length = (toString n).toList.length := by
      simp only [List.length_append]
      omega
    rw [hlength, List.take_left, String.ofList_toList]
  · rw [Bool.and_eq_true, List.isPrefixOf_iff_prefix, List.isSuffixOf_iff_suffix]
    exact ⟨List.prefix_append _ _, List.suffix_append _ _⟩

theorem mem_enabledEvents {s : Simulation} {name : String} :
    name ∈ s.enabledEvents ↔
      ∃ path, s.value? path = some Control.on ∧ switchName? path = some name := by
  unfold enabledEvents value?
  rw [ExtTreeSet.mem_ofList, List.contains_eq_mem, decide_eq_true_eq, List.mem_filterMap]
  constructor
  · rintro ⟨⟨path, value⟩, hfile, hname⟩
    dsimp only at hname
    split at hname
    · next hon =>
      rw [ExtTreeMap.mem_toList_iff_getElem?_eq_some] at hfile
      exact ⟨path, by rw [hfile, hon], hname⟩
    · cases hname
  · rintro ⟨path, hon, hname⟩
    refine ⟨(path, Control.on), ExtTreeMap.mem_toList_iff_getElem?_eq_some.mpr hon, ?_⟩
    simpa using hname

theorem isSwitch_eq_false {path : String}
    (h : path ∈ [Control.tracingOn, Control.bufferSize, Control.traceClock, Control.currentTracer,
      Control.trace, Control.functionFilter, Control.graphFilter] ++ Control.syscallFilters) :
    isSwitch path = false := by
  revert path
  decide

theorem value?_idle_of_isSwitch {path : String} (h : isSwitch path) : idle.value? path = none := by
  unfold value? idle
  refine ExtTreeMap.getElem?_ofList_of_contains_eq_false ?_
  rw [List.contains_eq_mem, decide_eq_false_iff_not]
  intro hmem
  have hoff : isSwitch path = false := by
    clear h
    revert path
    decide
  rw [hoff] at h
  cases h

theorem eventSwitch_ne {path : String} (h : isSwitch path = false) (n : EventName) :
    Control.eventSwitch n ≠ path := by
  rintro rfl
  rw [isSwitch_eventSwitch] at h
  cases h

theorem eventSwitch_ne_allEvents (n : EventName) : Control.eventSwitch n ≠ Control.allEvents := by
  intro h
  have hlength : (Control.eventSwitch n).toList.length = Control.allEvents.toList.length := by
    rw [h]
  rw [toList_eventSwitch, List.length_append, List.length_append,
    show "events/".toList.length = 7 from rfl, show "/enable".toList.length = 7 from rfl,
    show Control.allEvents.toList.length = 13 from rfl] at hlength
  omega

end Simulation

end TraceArbiter
