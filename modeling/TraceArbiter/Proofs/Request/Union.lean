import Mathlib.Data.List.Basic
import TraceArbiter.Request.Resolution

/-!
# Resolving requests that are put together

A request is resolved entry by entry, and no entry is looked at together with another. One condition
is about the request as a whole: categories are gone into only if annotations are wanted. A request
with a category wants them, so the condition decides about nothing but the event that carries them, and
that one is there as soon as one part of the request asks for it. Resolving therefore takes requests
that are put together to the union of what they come to.
-/

namespace TraceArbiter

open Std

namespace Request

variable {r r' : Request} {table : EventTable} {vendor : VendorCategories} {entry n : EventName}

/-- An entry stands in the request, or carries annotations, or stands behind one of the categories. -/
theorem mem_entries :
    entry ∈ r.entries vendor ↔
      (∃ text ∈ r.events, EventName.parse text = entry) ∨
        ((r.apps ≠ [] ∨ r.categories ≠ []) ∧ entry = printEvent) ∨
        ∃ category ∈ r.categories, entry ∈ categoryEntries vendor category := by
  unfold entries
  rw [List.mem_append, List.mem_map, ← wantsAnnotations_iff]
  refine or_congr_right ?_
  split
  · next hwants =>
    rw [List.mem_cons, List.mem_flatMap, and_iff_right hwants]
  · next hwants =>
    have hnone : r.categories = [] := by
      rw [wantsAnnotations_iff, not_or, not_not, not_not] at hwants
      exact hwants.2
    simp [hwants, hnone]

theorem mem_resolve :
    n ∈ r.resolve table vendor ↔ ∃ entry ∈ r.entries vendor, n ∈ table.expand entry := by
  unfold resolve
  rw [ExtTreeSet.mem_ofList, List.contains_eq_mem, decide_eq_true_eq, List.mem_flatMap]

/-- Everything that the first request asks for by way of events, the second asks for too. -/
structure Within (r r' : Request) : Prop where
  events : r.events ⊆ r'.events
  categories : r.categories ⊆ r'.categories
  apps : r.apps ⊆ r'.apps

theorem Within.mem_entries (h : r.Within r') (hentry : entry ∈ r.entries vendor) :
    entry ∈ r'.entries vendor := by
  rw [Request.mem_entries] at hentry ⊢
  refine hentry.imp ?_ (Or.imp ?_ ?_)
  · rintro ⟨text, htext, hparse⟩
    exact ⟨text, h.events htext, hparse⟩
  · rintro ⟨hasks, hprint⟩
    exact ⟨hasks.imp (fun hne hnil => hne (List.subset_nil.mp (hnil ▸ h.apps)))
      fun hne hnil => hne (List.subset_nil.mp (hnil ▸ h.categories)), hprint⟩
  · rintro ⟨category, hcategory, hbehind⟩
    exact ⟨category, h.categories hcategory, hbehind⟩

theorem Within.mem_resolve (h : r.Within r') (hn : n ∈ r.resolve table vendor) :
    n ∈ r'.resolve table vendor := by
  rw [Request.mem_resolve] at hn ⊢
  obtain ⟨entry, hentry, hexpand⟩ := hn
  exact ⟨entry, h.mem_entries hentry, hexpand⟩

/-- What the request asks for by way of events is what the other two ask for, one behind the other. -/
structure Joins (r r₁ r₂ : Request) : Prop where
  events : r.events = r₁.events ++ r₂.events
  categories : r.categories = r₁.categories ++ r₂.categories
  apps : r.apps = r₁.apps ++ r₂.apps

namespace Joins

variable {r₁ r₂ : Request}

theorem within_left (h : r.Joins r₁ r₂) : r₁.Within r where
  events := h.events ▸ List.subset_append_left _ _
  categories := h.categories ▸ List.subset_append_left _ _
  apps := h.apps ▸ List.subset_append_left _ _

theorem within_right (h : r.Joins r₁ r₂) : r₂.Within r where
  events := h.events ▸ List.subset_append_right _ _
  categories := h.categories ▸ List.subset_append_right _ _
  apps := h.apps ▸ List.subset_append_right _ _

theorem mem_entries (h : r.Joins r₁ r₂) :
    entry ∈ r.entries vendor ↔ entry ∈ r₁.entries vendor ∨ entry ∈ r₂.entries vendor := by
  refine ⟨fun hentry => ?_, fun hentry => hentry.elim h.within_left.mem_entries
    h.within_right.mem_entries⟩
  rw [Request.mem_entries, h.events, h.categories, h.apps] at hentry
  rw [Request.mem_entries, Request.mem_entries]
  obtain ⟨text, htext, hparse⟩ | ⟨hasks, hprint⟩ | ⟨category, hcategory, hbehind⟩ := hentry
  · exact (List.mem_append.mp htext).imp (fun h => .inl ⟨text, h, hparse⟩)
      fun h => .inl ⟨text, h, hparse⟩
  · simp only [ne_eq, List.append_eq_nil_iff, not_and_or] at hasks
    obtain (happs | happs) | (hcategories | hcategories) := hasks
    · exact .inl (.inr (.inl ⟨.inl happs, hprint⟩))
    · exact .inr (.inr (.inl ⟨.inl happs, hprint⟩))
    · exact .inl (.inr (.inl ⟨.inr hcategories, hprint⟩))
    · exact .inr (.inr (.inl ⟨.inr hcategories, hprint⟩))
  · exact (List.mem_append.mp hcategory).imp (fun h => .inr (.inr ⟨category, h, hbehind⟩))
      fun h => .inr (.inr ⟨category, h, hbehind⟩)

theorem mem_resolve (h : r.Joins r₁ r₂) :
    n ∈ r.resolve table vendor ↔ n ∈ r₁.resolve table vendor ∨ n ∈ r₂.resolve table vendor := by
  simp only [Request.mem_resolve, h.mem_entries, or_and_right, exists_or]

end Joins

/-- On every event table and with every vendor's categories, a request that joins two others resolves
to the union of what they resolve to, and a request that asks for more resolves to no less. What a
request resolves to therefore depends neither on the order of its entries nor on how often they are
given. -/
theorem resolve_joins (table : EventTable) (vendor : VendorCategories) :
    (∀ r r₁ r₂ : Request, r.Joins r₁ r₂ →
        r.resolve table vendor = r₁.resolve table vendor ∪ r₂.resolve table vendor) ∧
      (∀ r r' : Request, r.Within r' →
        ∀ n ∈ r.resolve table vendor, n ∈ r'.resolve table vendor) ∧
      ∀ r r' : Request, r.Within r' → r'.Within r →
        r.resolve table vendor = r'.resolve table vendor := by
  refine ⟨fun r r₁ r₂ hjoins => ?_, fun r r' hwithin n => hwithin.mem_resolve,
    fun r r' hwithin hwithin' => ?_⟩
  · refine ExtTreeSet.ext_mem fun n => ?_
    rw [hjoins.mem_resolve, ExtTreeSet.mem_union_iff]
  · exact ExtTreeSet.ext_mem fun n => ⟨hwithin.mem_resolve, hwithin'.mem_resolve⟩

/-- A kernel that gives one id twice, so that the first name it was given under leads to the event
that has it now. -/
def renumberedKernel : List Event :=
  [⟨1, "sched", "sched_switch"⟩, ⟨2, "irq", "irq_handler_entry"⟩, ⟨3, "ipi", "ipi_entry"⟩,
    ⟨4, "camera", "frame"⟩, ⟨1, "camera", "exposure"⟩]

/-- A vendor that goes on with a built-in category and has one of its own. -/
def cameraVendor : VendorCategories :=
  .ofList [("irq", [⟨"camera", "frame"⟩]), ("camera", [⟨"camera", "*"⟩, ⟨"camera", "shutter"⟩])]

def plainPart : Request where
  events := ["sched_switch", "sched/sched_waking"]

def annotatedPart : Request where
  categories := ["irq", "camera"]

def wholeRequest : Request :=
  { plainPart with categories := ["irq", "camera"], symbolizeKernel := true }

def shuffledRequest : Request where
  events := ["sched/sched_waking", "sched_switch", "sched/sched_waking"]
  categories := ["camera", "irq", "camera"]

theorem resolve_joins_cameraVendor :
    let table := EventTable.ofList renumberedKernel
    wholeRequest.Joins plainPart annotatedPart ∧
      (wholeRequest.resolve table cameraVendor).toList.map toString =
        ["camera/exposure", "camera/frame", "camera/shutter", "ftrace/print", "ipi/ipi_entry",
          "irq/irq_handler_entry", "sched/sched_waking"] ∧
      wholeRequest.resolve table cameraVendor =
        plainPart.resolve table cameraVendor ∪ annotatedPart.resolve table cameraVendor ∧
      plainPart.Within wholeRequest ∧
      (∀ n ∈ plainPart.resolve table cameraVendor, n ∈ wholeRequest.resolve table cameraVendor) ∧
      shuffledRequest.Within wholeRequest ∧ wholeRequest.Within shuffledRequest ∧
      shuffledRequest.resolve table cameraVendor = wholeRequest.resolve table cameraVendor := by
  intro table
  obtain ⟨hunion, hmono, hsame⟩ := resolve_joins table cameraVendor
  have hjoins : wholeRequest.Joins plainPart annotatedPart := ⟨rfl, rfl, rfl⟩
  have hwithin : shuffledRequest.Within wholeRequest := ⟨by decide, by decide, by decide⟩
  have hwithin' : wholeRequest.Within shuffledRequest := ⟨by decide, by decide, by decide⟩
  exact ⟨hjoins, by decide +kernel, hunion _ _ _ hjoins, hjoins.within_left,
    hmono _ _ hjoins.within_left, hwithin, hwithin', hsame _ _ hwithin hwithin'⟩

end Request

end TraceArbiter
