import Mathlib.Data.List.Basic
import TraceArbiter.Category.Vendor

/-!
# Categories put together

The categories of a vendor are determined by which there are and by the events that each has. Extending
a category adds to both and takes nothing away, so one vendor's categories can be extended by another's;
this adds up what the two have, and it makes no difference whether a category is extended before or
after.
-/

namespace TraceArbiter.VendorCategories

open Std

variable {v w : VendorCategories} {category other : String} {events : List EventName}

theorem ext_eventsOf (hcategories : ∀ category, category ∈ v.events ↔ category ∈ w.events)
    (hevents : ∀ category, v.eventsOf category = w.eventsOf category) : v = w := by
  obtain ⟨v⟩ := v
  obtain ⟨w⟩ := w
  refine congrArg VendorCategories.mk (ExtTreeMap.ext_getElem? fun category => ?_)
  have hmem := hcategories category
  have hsame := hevents category
  unfold eventsOf at hsame
  rw [ExtTreeMap.getD_eq_getD_getElem?, ExtTreeMap.getD_eq_getD_getElem?] at hsame
  rw [ExtTreeMap.mem_iff_isSome_getElem?, ExtTreeMap.mem_iff_isSome_getElem?] at hmem
  dsimp only at hmem hsame
  cases hv : v[category]? with
  | none =>
    rw [hv] at hmem
    cases hw : w[category]? with
    | none => rfl
    | some events =>
      rw [hw] at hmem
      simp at hmem
  | some events =>
    rw [hv] at hmem hsame
    obtain ⟨events', hw⟩ := Option.isSome_iff_exists.mp (hmem.mp rfl)
    rw [hw] at hsame ⊢
    exact congrArg some hsame

theorem mem_toList : (category, events) ∈ v.toList ↔ v.events[category]? = some events :=
  ExtTreeMap.mem_toList_iff_getElem?_eq_some

theorem eventsOf_of_mem_toList (h : (category, events) ∈ v.toList) : v.eventsOf category = events := by
  rw [eventsOf, ExtTreeMap.getD_eq_getD_getElem?, mem_toList.mp h, Option.getD_some]

theorem map_fst_toList : v.toList.map Prod.fst = v.events.keys :=
  ExtTreeMap.map_fst_toList_eq_keys

theorem mem_map_fst_toList : category ∈ v.toList.map Prod.fst ↔ category ∈ v.events := by
  rw [map_fst_toList, ExtTreeMap.mem_keys]

theorem mem_toList_eventsOf (h : category ∈ v.events) : (category, v.eventsOf category) ∈ v.toList := by
  obtain ⟨⟨_, events⟩, hentry, rfl⟩ := List.mem_map.mp (mem_map_fst_toList.mpr h)
  rwa [eventsOf_of_mem_toList hentry]

theorem eventsOf_eq_nil (h : category ∉ v.events) : v.eventsOf category = [] :=
  ExtTreeMap.getD_eq_fallback h

/-! ### Extending a category -/

theorem mem_extend : other ∈ (v.extend category events).events ↔ category = other ∨ other ∈ v.events := by
  rw [extend, ExtTreeMap.mem_insert, LawfulEqCmp.compare_eq_iff_eq]

theorem eventsOf_extend (v : VendorCategories) (category other : String) (events : List EventName) :
    (v.extend category events).eventsOf other =
      if category = other then v.eventsOf other ++ events else v.eventsOf other := by
  unfold extend eventsOf
  rw [ExtTreeMap.getD_insert]
  by_cases h : category = other
  · subst h
    rw [if_pos compare_self, if_pos rfl]
  · rw [if_neg (mt LawfulEqOrd.eq_of_compare h), if_neg h]

theorem extend_extend (v : VendorCategories) (category : String) (events events' : List EventName) :
    (v.extend category events).extend category events' = v.extend category (events ++ events') := by
  refine ext_eventsOf (fun other => ?_) fun other => ?_
  · rw [mem_extend, mem_extend, mem_extend, ← or_assoc, or_self]
  · simp only [eventsOf_extend]
    split
    · rw [List.append_assoc]
    · rfl

/-! ### Extending all categories -/

/-- The categories of both, each with the events of the first followed by those of the second. -/
def merge (v w : VendorCategories) : VendorCategories :=
  w.toList.foldl (fun v entry => v.extend entry.1 entry.2) v

/-- The events that entries give a category, in order. -/
def eventsIn (entries : List (String × List EventName)) (category : String) : List EventName :=
  (entries.filter (·.1 = category)).flatMap (·.2)

theorem eventsIn_cons (entry : String × List EventName) (entries : List (String × List EventName)) :
    eventsIn (entry :: entries) category =
      if entry.1 = category then entry.2 ++ eventsIn entries category
      else eventsIn entries category := by
  unfold eventsIn
  by_cases h : entry.1 = category <;> simp [h]

theorem eventsIn_eq_nil {entries : List (String × List EventName)}
    (h : category ∉ entries.map Prod.fst) : eventsIn entries category = [] := by
  have hnone : entries.filter (·.1 = category) = [] := by
    rw [List.filter_eq_nil_iff]
    intro entry hentry hsame
    exact h (List.mem_map.mpr ⟨entry, hentry, of_decide_eq_true hsame⟩)
  rw [eventsIn, hnone, List.flatMap_nil]

theorem eventsIn_of_mem {entries : List (String × List EventName)}
    (hnodup : (entries.map Prod.fst).Nodup) (hmem : (category, events) ∈ entries) :
    eventsIn entries category = events := by
  induction entries with
  | nil => cases hmem
  | cons entry entries ih =>
    rw [List.map_cons, List.nodup_cons] at hnodup
    rw [eventsIn_cons]
    obtain rfl | hmem := List.mem_cons.mp hmem
    · rw [if_pos rfl, eventsIn_eq_nil hnodup.1, List.append_nil]
    · have hother : entry.1 ≠ category := by
        rintro rfl
        exact hnodup.1 (List.mem_map.mpr ⟨_, hmem, rfl⟩)
      rw [if_neg hother, ih hnodup.2 hmem]

theorem eventsIn_toList (v : VendorCategories) (category : String) :
    eventsIn v.toList category = v.eventsOf category := by
  by_cases hmem : category ∈ v.events
  · have hnodup : (v.toList.map Prod.fst).Nodup := by
      rw [map_fst_toList]
      exact ExtTreeMap.nodup_keys
    exact eventsIn_of_mem hnodup (mem_toList_eventsOf hmem)
  · rw [eventsIn_eq_nil (mt mem_map_fst_toList.mp hmem), eventsOf_eq_nil hmem]

theorem mem_foldl_extend (entries : List (String × List EventName)) (v : VendorCategories) :
    category ∈ (entries.foldl (fun v entry => v.extend entry.1 entry.2) v).events ↔
      category ∈ v.events ∨ category ∈ entries.map Prod.fst := by
  induction entries generalizing v with
  | nil => simp
  | cons entry entries ih =>
    rw [List.foldl_cons, ih, mem_extend, List.map_cons, List.mem_cons, or_assoc, or_left_comm,
      eq_comm]

theorem eventsOf_foldl_extend (entries : List (String × List EventName)) (v : VendorCategories) :
    (entries.foldl (fun v entry => v.extend entry.1 entry.2) v).eventsOf category =
      v.eventsOf category ++ eventsIn entries category := by
  induction entries generalizing v with
  | nil => exact (List.append_nil _).symm
  | cons entry entries ih =>
    rw [List.foldl_cons, ih, eventsOf_extend, eventsIn_cons]
    split
    · rw [List.append_assoc]
    · rfl

theorem mem_merge : category ∈ (v.merge w).events ↔ category ∈ v.events ∨ category ∈ w.events := by
  rw [merge, mem_foldl_extend, mem_map_fst_toList]

theorem eventsOf_merge : (v.merge w).eventsOf category = v.eventsOf category ++ w.eventsOf category := by
  rw [merge, eventsOf_foldl_extend, eventsIn_toList]

theorem merge_extend (v w : VendorCategories) (category : String) (events : List EventName) :
    v.merge (w.extend category events) = (v.merge w).extend category events := by
  refine ext_eventsOf (fun other => ?_) fun other => ?_
  · rw [mem_merge, mem_extend, mem_extend, mem_merge, or_left_comm]
  · rw [eventsOf_merge, eventsOf_extend, eventsOf_extend, eventsOf_merge]
    split
    · rw [List.append_assoc]
    · rfl

theorem toList_empty : ({} : VendorCategories).toList = [] :=
  ExtTreeMap.toList_eq_nil_iff.mpr rfl

theorem merge_empty (v : VendorCategories) : v.merge {} = v := by
  rw [merge, toList_empty, List.foldl_nil]

/-- Putting the categories together again, one by one, gives them back. -/
theorem ofList_toList (v : VendorCategories) : ofList v.toList = v := by
  change merge {} v = v
  refine ext_eventsOf (fun category => ?_) fun category => ?_
  · rw [mem_merge]
    exact or_iff_right ExtTreeMap.not_mem_empty
  · rw [eventsOf_merge, eventsOf_eq_nil ExtTreeMap.not_mem_empty, List.nil_append]

end TraceArbiter.VendorCategories
