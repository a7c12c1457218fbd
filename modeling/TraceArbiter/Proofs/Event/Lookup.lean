import Mathlib.Data.List.Induction
import Mathlib.Data.List.Nodup
import TraceArbiter.Arbiter.Basic
import TraceArbiter.Proofs.Event.Name
import TraceArbiter.Proofs.Facility.Switches

/-!
# Looking up events

What an event table and an event filter hold, read off what went into them.
-/

namespace TraceArbiter

open Std

/-! ### Filters -/

namespace EventFilter

@[simp]
theorem isEnabled_empty (id : EventId) : isEnabled {} id = false := by
  simp [isEnabled]

theorem isEnabled_add (f : EventFilter) (id id' : EventId) :
    (f.add id).isEnabled id' ↔ id = id' ∨ f.isEnabled id' := by
  simp [add, isEnabled]

theorem isEnabled_remove (f : EventFilter) (id id' : EventId) :
    (f.remove id).isEnabled id' ↔ id ≠ id' ∧ f.isEnabled id' := by
  simp [remove, isEnabled]

theorem isEnabled_union (f g : EventFilter) (id : EventId) :
    (f.union g).isEnabled id ↔ f.isEnabled id ∨ g.isEnabled id := by
  simp [union, isEnabled]

theorem mem_toList (f : EventFilter) (id : EventId) : id ∈ f.toList ↔ f.isEnabled id := by
  rw [toList, ExtTreeSet.mem_toList, ExtTreeSet.mem_iff_contains, isEnabled]

theorem isEnabled_ofList (ids : List EventId) (id : EventId) :
    (ofList ids).isEnabled id ↔ id ∈ ids := by
  simp [ofList, isEnabled]

theorem ext_isEnabled {f g : EventFilter} (h : ∀ id, f.isEnabled id ↔ g.isEnabled id) : f = g := by
  cases f
  cases g
  refine congrArg EventFilter.mk (ExtTreeSet.ext_mem fun id => ?_)
  rw [ExtTreeSet.mem_iff_contains, ExtTreeSet.mem_iff_contains]
  exact h id

theorem isSubset_iff (f g : EventFilter) :
    f.isSubset g ↔ ∀ id, f.isEnabled id → g.isEnabled id := by
  simp only [isSubset, List.all_eq_true, mem_toList]

theorem hasGroup_iff {f : EventFilter} {table : EventTable} {group : String} :
    f.hasGroup table group ↔
      ∃ id e, f.isEnabled id ∧ table.getById id = some e ∧ e.group = group := by
  simp only [hasGroup, List.any_eq_true, List.mem_filterMap, mem_toList, decide_eq_true_eq]
  exact ⟨fun ⟨e, ⟨id, hid, he⟩, hgroup⟩ => ⟨id, e, hid, he, hgroup⟩,
    fun ⟨id, e, hid, he, hgroup⟩ => ⟨e, ⟨id, hid, he⟩, hgroup⟩⟩

theorem hasGroup_mono {f g : EventFilter} {table : EventTable} {group : String}
    (hsubset : ∀ id, f.isEnabled id → g.isEnabled id) (h : f.hasGroup table group) :
    g.hasGroup table group := by
  rw [hasGroup_iff] at h ⊢
  obtain ⟨id, e, hid, he⟩ := h
  exact ⟨id, e, hsubset id hid, he⟩

end EventFilter

theorem Arbiter.isEnabled_unionOfEvents (configs : List SessionConfig) (id : EventId) :
    (unionOfEvents configs).isEnabled id ↔ ∃ c ∈ configs, c.eventFilter.isEnabled id := by
  have hfold : ∀ f : EventFilter,
      (configs.foldl (fun f c => f.union c.eventFilter) f).isEnabled id ↔
        f.isEnabled id ∨ ∃ c ∈ configs, c.eventFilter.isEnabled id := by
    induction configs with
    | nil => simp
    | cons c configs ih =>
      intro f
      rw [List.foldl_cons, ih, EventFilter.isEnabled_union, or_assoc]
      simp only [List.mem_cons, exists_eq_or_imp]
  rw [unionOfEvents, hfold, EventFilter.isEnabled_empty]
  simp

/-! ### Tables -/

namespace EventTable

theorem ofList_append (events : List Event) (e : Event) :
    ofList (events ++ [e]) = (ofList events).insert e :=
  List.foldl_concat ..

theorem getById_insert (t : EventTable) (e : Event) (id : EventId) :
    (t.insert e).getById id = if e.id = id then some e else t.getById id := by
  simp [insert, getById, ExtTreeMap.getElem?_insert]

/-- The event found under an id is the last one that was inserted with it. -/
theorem getById_ofList (events : List Event) (id : EventId) :
    (ofList events).getById id = events.reverse.find? (·.id = id) := by
  induction events using List.reverseRecOn with
  | nil => simp [ofList, getById]
  | append_singleton events e ih =>
    rw [ofList_append, getById_insert, ih, List.reverse_append]
    by_cases h : e.id = id <;> simp [h]

theorem mem_of_getById {events : List Event} {id : EventId} {e : Event}
    (h : (ofList events).getById id = some e) : e ∈ events ∧ e.id = id := by
  rw [getById_ofList] at h
  exact ⟨List.mem_reverse.mp (List.mem_of_find?_eq_some h), by simpa using List.find?_some h⟩

theorem getById_eq_none_iff {events : List Event} {id : EventId} :
    (ofList events).getById id = none ↔ ∀ e ∈ events, e.id ≠ id := by
  rw [getById_ofList, List.find?_eq_none]
  simp

theorem exists_getById {events : List Event} {e : Event} (he : e ∈ events) :
    ∃ e', (ofList events).getById e.id = some e' := by
  cases hget : (ofList events).getById e.id with
  | none => exact absurd rfl (getById_eq_none_iff.mp hget e he)
  | some e' => exact ⟨e', rfl⟩

/-- If no id is given twice, every event is found under its id. -/
theorem getById_eq_some_iff {events : List Event} (hids : (events.map Event.id).Nodup) {id : EventId}
    {e : Event} : (ofList events).getById id = some e ↔ e ∈ events ∧ e.id = id := by
  refine ⟨mem_of_getById, ?_⟩
  rintro ⟨he, rfl⟩
  obtain ⟨e', hget⟩ := exists_getById he
  obtain ⟨he', hid⟩ := mem_of_getById hget
  rw [hget, List.inj_on_of_nodup_map hids he' he hid]

theorem mem_of_get {events : List Event} {n : EventName} {e : Event}
    (h : (ofList events).get n = some e) : e ∈ events := by
  obtain ⟨id, -, hid⟩ := Option.bind_eq_some_iff.mp h
  exact (mem_of_getById hid).1

/-- The id under which the table has a name. -/
def idOf? (t : EventTable) (n : EventName) : Option EventId :=
  t.byGroup[n.group]?.bind (·[n.name]?)

theorem get_eq (t : EventTable) (n : EventName) : t.get n = (t.idOf? n).bind t.getById := rfl

theorem idOf?_insert (t : EventTable) (e : Event) (n : EventName) :
    (t.insert e).idOf? n = if e.fullName = n then some e.id else t.idOf? n := by
  obtain ⟨group, name⟩ := n
  unfold idOf? insert
  dsimp only
  rw [ExtTreeMap.getElem?_insert]
  by_cases hgroup : e.group = group
  · subst hgroup
    rw [if_pos compare_self, Option.bind_some, ExtTreeMap.getElem?_insert,
      ExtTreeMap.getD_eq_getD_getElem?]
    by_cases hname : e.name = name
    · subst hname
      rw [if_pos compare_self]
      exact (if_pos rfl).symm
    · rw [if_neg (mt LawfulEqOrd.eq_of_compare hname),
        if_neg fun h => hname (congrArg EventName.name h)]
      cases t.byGroup[e.group]? <;> rfl
  · rw [if_neg (mt LawfulEqOrd.eq_of_compare hgroup),
      if_neg fun h => hgroup (congrArg EventName.group h)]

/-- The id found under a name is that of the last event that was inserted with it. -/
theorem idOf?_ofList (events : List Event) (n : EventName) :
    (ofList events).idOf? n = (events.reverse.find? (·.fullName = n)).map Event.id := by
  induction events using List.reverseRecOn with
  | nil => simp [ofList, idOf?]
  | append_singleton events e ih =>
    rw [ofList_append, idOf?_insert, ih, List.reverse_append]
    by_cases h : e.fullName = n <;> simp [h]

/-- If no id is given twice, the event found under a name has that name. -/
theorem fullName_of_get {events : List Event} (hids : (events.map Event.id).Nodup) {n : EventName}
    {e : Event} (h : (ofList events).get n = some e) : e.fullName = n := by
  rw [get_eq, Option.bind_eq_some_iff] at h
  obtain ⟨id, hid, hget⟩ := h
  rw [idOf?_ofList, Option.map_eq_some_iff] at hid
  obtain ⟨e', hfind, rfl⟩ := hid
  obtain ⟨he, hsame⟩ := mem_of_getById hget
  have he' := List.mem_reverse.mp (List.mem_of_find?_eq_some hfind)
  rw [List.inj_on_of_nodup_map hids he he' hsame]
  simpa using List.find?_some hfind

end EventTable

/-- No two of the events have one id or one full name, and no name has a slash. -/
structure ProperEvents (events : List Event) : Prop where
  ids : (events.map Event.id).Nodup
  fullNames : (events.map Event.fullName).Nodup
  slashFree : ∀ e ∈ events, '/' ∉ e.group.toList ∧ '/' ∉ e.name.toList

namespace ProperEvents

variable {events : List Event} {e e' : Event}

theorem eq_of_id (h : ProperEvents events) (he : e ∈ events) (he' : e' ∈ events)
    (hid : e.id = e'.id) : e = e' :=
  List.inj_on_of_nodup_map h.ids he he' hid

theorem eq_of_eventSwitch (h : ProperEvents events) (he : e ∈ events) (he' : e' ∈ events)
    (hswitch : Control.eventSwitch e.fullName = Control.eventSwitch e'.fullName) : e = e' := by
  have hname : toString e.fullName = toString e'.fullName := by
    rw [← Option.some_inj, ← Simulation.switchName?_eventSwitch, hswitch,
      Simulation.switchName?_eventSwitch]
  have hfree := h.slashFree e he
  exact List.inj_on_of_nodup_map h.fullNames he he' (toString_inj hfree.1 hfree.2 hname)

theorem getById_eq (h : ProperEvents events) (he : e ∈ events) :
    (EventTable.ofList events).getById e.id = some e :=
  (EventTable.getById_eq_some_iff h.ids).mpr ⟨he, rfl⟩

end ProperEvents

end TraceArbiter
