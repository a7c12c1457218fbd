import Mathlib.Data.Finset.Card
import TraceArbiter.Proofs.Event.Lookup

/-!
# What the indexes of an event table hold

The three indexes of a table are kept by different rules: an id and a full name go to the event
inserted last, a bare name stays with the event inserted first. Each index is read off the list of
insertions by one induction on it from the end. Both indexes of names lead to ids, and every id that
they lead to has been inserted, so looking up an inserted name always finds an event; but as an id may
have been inserted again since, the event need not have that name. It has if no id is inserted twice.
-/

namespace TraceArbiter

open Std

/-- Names are compared character by character, by their code points. -/
theorem compare_eq_lt_iff {a b : String} : compare a b = .lt ↔ a < b :=
  compareOfLessAndEq_eq_lt

namespace EventTable

variable {events : List Event} {id : EventId} {n : EventName} {name group : String}

/-! ### Ids -/

theorem mem_byId : id ∈ (ofList events).byId ↔ id ∈ events.map Event.id := by
  rw [ExtTreeMap.mem_iff_isSome_getElem?, Option.isSome_iff_ne_none]
  change (ofList events).getById id ≠ none ↔ _
  rw [ne_eq, getById_eq_none_iff, List.mem_map]
  simp

/-- The table counts each inserted id once. -/
theorem size_ofList : (ofList events).size = (events.map Event.id).toFinset.card := by
  have hkeys : (ofList events).byId.keys.toFinset = (events.map Event.id).toFinset := by
    ext id
    rw [List.mem_toFinset, List.mem_toFinset, ExtTreeMap.mem_keys, mem_byId]
  rw [← hkeys, List.toFinset_card_of_nodup ExtTreeMap.nodup_keys, ExtTreeMap.length_keys, size]

/-! ### Names -/

theorem get_ofList : (ofList events).get n =
    (events.reverse.find? (·.fullName = n)).bind ((ofList events).getById ·.id) := by
  rw [get_eq, idOf?_ofList, Option.bind_map]
  rfl

/-- The id found under a bare name is that of the first event that was inserted with it. -/
theorem byName_ofList :
    (ofList events).byName[name]? = (events.find? (·.name = name)).map Event.id := by
  induction events using List.reverseRecOn with
  | nil => simp [ofList]
  | append_singleton events e ih =>
    rw [ofList_append, insert, ExtTreeMap.getElem?_insertIfNew, ih, List.find?_append]
    by_cases hname : e.name = name
    · subst hname
      have hnew : e.name ∉ (ofList events).byName ↔ events.find? (·.name = e.name) = none := by
        rw [ExtTreeMap.mem_iff_isSome_getElem?, ih, Option.isSome_map, Option.not_isSome_iff_eq_none]
      simp only [compare_self, true_and, hnew]
      cases events.find? (·.name = e.name) <;> simp
    · rw [if_neg fun h => hname (LawfulEqOrd.eq_of_compare h.1)]
      simp [hname]

theorem getByName_ofList : (ofList events).getByName name =
    (events.find? (·.name = name)).bind ((ofList events).getById ·.id) := by
  rw [getByName, byName_ofList, Option.bind_map]
  rfl

/-- The id of an inserted event leads to an event, so only what was not inserted is not found. -/
theorem bind_getById_eq_none_iff {e? : Option Event} (he : ∀ e ∈ e?, e ∈ events) :
    e?.bind ((ofList events).getById ·.id) = none ↔ e? = none := by
  cases e? with
  | none => simp
  | some e =>
    obtain ⟨e', hget⟩ := exists_getById (he e rfl)
    simp [hget]

theorem get_eq_none_iff : (ofList events).get n = none ↔ ∀ e ∈ events, e.fullName ≠ n := by
  rw [get_ofList, bind_getById_eq_none_iff fun e he =>
    List.mem_reverse.mp (List.mem_of_find?_eq_some he), List.find?_eq_none]
  simp

theorem getByName_eq_none_iff :
    (ofList events).getByName name = none ↔ ∀ e ∈ events, e.name ≠ name := by
  rw [getByName_ofList, bind_getById_eq_none_iff fun e => List.mem_of_find?_eq_some,
    List.find?_eq_none]
  simp

/-! ### Names of events with different ids -/

section

variable {e : Event} (hids : (events.map Event.id).Nodup)

include hids

theorem get_eq_some_iff (hnames : (events.map Event.fullName).Nodup) :
    (ofList events).get n = some e ↔ e ∈ events ∧ e.fullName = n := by
  refine ⟨fun hget => ⟨mem_of_get hget, fullName_of_get hids hget⟩, ?_⟩
  rintro ⟨he, rfl⟩
  cases hget : (ofList events).get e.fullName with
  | none => exact absurd rfl (get_eq_none_iff.mp hget e he)
  | some e' =>
    rw [List.inj_on_of_nodup_map hnames (mem_of_get hget) he (fullName_of_get hids hget)]

/-- A bare name leads to the first event that was inserted with it. -/
theorem getByName_eq_find? : (ofList events).getByName name = events.find? (·.name = name) := by
  rw [getByName_ofList]
  cases hfind : events.find? (·.name = name) with
  | none => rfl
  | some e => exact (getById_eq_some_iff hids).mpr ⟨List.mem_of_find?_eq_some hfind, rfl⟩

theorem name_of_getByName (h : (ofList events).getByName name = some e) : e.name = name := by
  rw [getByName_eq_find? hids] at h
  simpa using List.find?_some h

theorem size_eq_length : (ofList events).size = events.length := by
  rw [size_ofList, List.toFinset_card_of_nodup hids, List.length_map]

end

/-! ### Groups -/

/-- The names that the table has in a group, in order. -/
def namesInGroup (t : EventTable) (group : String) : List String :=
  match t.byGroup[group]? with
  | some ids => ids.keys
  | none => []

theorem pairwise_namesInGroup (t : EventTable) (group : String) :
    (t.namesInGroup group).Pairwise (· < ·) := by
  unfold namesInGroup
  split
  · exact ExtTreeMap.ordered_keys.imp compare_eq_lt_iff.mp
  · exact .nil

theorem mem_namesInGroup {t : EventTable} :
    name ∈ t.namesInGroup group ↔ (t.idOf? ⟨group, name⟩).isSome := by
  unfold namesInGroup idOf?
  cases t.byGroup[group]? with
  | none => simp
  | some ids =>
    dsimp only
    rw [ExtTreeMap.mem_keys, ExtTreeMap.mem_iff_isSome_getElem?, Option.bind_some]

theorem mem_namesInGroup_ofList :
    name ∈ (ofList events).namesInGroup group ↔ ∃ e ∈ events, e.fullName = ⟨group, name⟩ := by
  rw [mem_namesInGroup, idOf?_ofList, Option.isSome_map, List.find?_isSome]
  simp

theorem eventsInGroup_eq (t : EventTable) (group : String) :
    t.eventsInGroup group = (t.namesInGroup group).filterMap fun name => t.get ⟨group, name⟩ := by
  unfold eventsInGroup namesInGroup
  cases hids : t.byGroup[group]? with
  | none => rfl
  | some ids =>
    dsimp only
    rw [← ExtTreeMap.map_fst_toList_eq_keys, List.filterMap_map]
    refine List.filterMap_congr fun ⟨name, id⟩ hentry => ?_
    rw [ExtTreeMap.mem_toList_iff_getElem?_eq_some] at hentry
    rw [Function.comp_apply, get, hids, Option.bind_some, hentry, Option.bind_some]

theorem map_some_eventsInGroup : ((ofList events).eventsInGroup group).map some =
    ((ofList events).namesInGroup group).map fun name => (ofList events).get ⟨group, name⟩ := by
  rw [eventsInGroup_eq, List.map_filterMap_some_eq_filter_map_isSome, List.filter_eq_self]
  intro e? he?
  obtain ⟨name, hname, rfl⟩ := List.mem_map.mp he?
  obtain ⟨e, he, hfull⟩ := mem_namesInGroup_ofList.mp hname
  rw [Option.isSome_iff_ne_none, ne_eq, get_eq_none_iff]
  exact fun hnone => hnone e he hfull

theorem eventsInGroup_eq_nil_iff :
    (ofList events).eventsInGroup group = [] ↔ ∀ e ∈ events, e.group ≠ group := by
  rw [← List.map_eq_nil_iff (f := some), map_some_eventsInGroup, List.map_eq_nil_iff,
    List.eq_nil_iff_forall_not_mem]
  simp only [mem_namesInGroup_ofList]
  constructor
  · rintro hnone e he rfl
    exact hnone e.name ⟨e, he, rfl⟩
  · rintro hnone name ⟨e, he, hfull⟩
    exact hnone e he (congrArg EventName.group hfull)

theorem get_of_mem_eventsInGroup {t : EventTable} {e : Event} (h : e ∈ t.eventsInGroup group) :
    ∃ name, t.get ⟨group, name⟩ = some e := by
  rw [eventsInGroup_eq] at h
  obtain ⟨name, -, hget⟩ := List.mem_filterMap.mp h
  exact ⟨name, hget⟩

/-! ### All lookups -/

/-- A group is listed by the names inserted in it, in increasing order, with the event that is found
under each. -/
def ListsGroup (t : EventTable) (events : List Event) (group : String) : Prop :=
  ∃ names : List String, names.Pairwise (· < ·) ∧
    (∀ name, name ∈ names ↔ ∃ e ∈ events, e.fullName = ⟨group, name⟩) ∧
    (t.eventsInGroup group).map some = names.map fun name => t.get ⟨group, name⟩

/-- Whatever is inserted, and with whatever repetitions: an id leads to the last event inserted with
it, a full name to what the id of the last such event leads to, and a bare name to what the id of the
first such event leads to. Groups are listed by name. Nothing is found exactly where nothing such was
inserted, and ids are counted once. If no id is inserted twice, whatever is found has the id, the name
and the group that were asked for. -/
theorem lookups_ofList (events : List Event) :
    let t := ofList events
    ((∀ id, t.getById id = events.reverse.find? (·.id = id)) ∧
      (∀ n, t.get n = (events.reverse.find? (·.fullName = n)).bind (t.getById ·.id)) ∧
      (∀ name, t.getByName name = (events.find? (·.name = name)).bind (t.getById ·.id)) ∧
      ∀ group, t.ListsGroup events group) ∧
    ((∀ id, t.getById id = none ↔ ∀ e ∈ events, e.id ≠ id) ∧
      (∀ n, t.get n = none ↔ ∀ e ∈ events, e.fullName ≠ n) ∧
      (∀ name, t.getByName name = none ↔ ∀ e ∈ events, e.name ≠ name) ∧
      ∀ group, t.eventsInGroup group = [] ↔ ∀ e ∈ events, e.group ≠ group) ∧
    t.size = (events.map Event.id).toFinset.card ∧
    ((events.map Event.id).Nodup →
      (∀ id e, t.getById id = some e → e.id = id) ∧
      (∀ n e, t.get n = some e → e.fullName = n) ∧
      (∀ name e, t.getByName name = some e → e.name = name) ∧
      ∀ group, ∀ e ∈ t.eventsInGroup group, e.group = group) := by
  intro t
  refine ⟨⟨getById_ofList events, fun n => get_ofList, fun name => getByName_ofList, fun group =>
      ⟨_, pairwise_namesInGroup t group, fun name => mem_namesInGroup_ofList, map_some_eventsInGroup⟩⟩,
    ⟨fun id => getById_eq_none_iff, fun n => get_eq_none_iff, fun name => getByName_eq_none_iff,
      fun group => eventsInGroup_eq_nil_iff⟩, size_ofList, fun hids =>
    ⟨fun id e hget => (mem_of_getById hget).2, fun n e hget => fullName_of_get hids hget,
      fun name e hget => name_of_getByName hids hget, fun group e he => ?_⟩⟩
  obtain ⟨name, hget⟩ := get_of_mem_eventsInGroup he
  exact congrArg EventName.group (fullName_of_get hids hget)

/-- Events in a disorder, with one full name and one bare name given again, but no id. -/
def repeatedNames : List Event :=
  [⟨7, "sched", "sched_switch"⟩, ⟨3, "other", "sched_switch"⟩, ⟨9, "sched", "sched_switch"⟩,
    ⟨5, "sched", "sched_kthread_stop"⟩]

theorem lookups_ofList_repeatedNames :
    let t := ofList repeatedNames
    (repeatedNames.map Event.id).Nodup ∧
      t.get ⟨"sched", "sched_switch"⟩ = some ⟨9, "sched", "sched_switch"⟩ ∧
      t.getByName "sched_switch" = some ⟨7, "sched", "sched_switch"⟩ ∧
      t.eventsInGroup "sched" =
        [⟨5, "sched", "sched_kthread_stop"⟩, ⟨9, "sched", "sched_switch"⟩] ∧
      t.size = 4 ∧
      (∀ n e, t.get n = some e → e.fullName = n) ∧
      (∀ name e, t.getByName name = some e → e.name = name) ∧
      ∀ group, ∀ e ∈ t.eventsInGroup group, e.group = group := by
  intro t
  have hids : (repeatedNames.map Event.id).Nodup := by decide
  obtain ⟨-, -, -, hasked⟩ := lookups_ofList repeatedNames
  exact ⟨hids, by decide +kernel, by decide +kernel, by decide +kernel, by decide +kernel,
    (hasked hids).2⟩

/-- An id that is inserted again takes its earlier name along to the later event. -/
example :
    (ofList [⟨1, "irq", "irq_handler_entry"⟩, ⟨1, "ipi", "ipi_entry"⟩]).getByName "irq_handler_entry" =
      some ⟨1, "ipi", "ipi_entry"⟩ := by
  decide +kernel

end EventTable

end TraceArbiter
