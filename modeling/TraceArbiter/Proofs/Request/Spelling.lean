import TraceArbiter.Proofs.Category.Vendor
import TraceArbiter.Proofs.Event.Lookup
import TraceArbiter.Proofs.Event.Name
import TraceArbiter.Proofs.Request.Union

/-!
# Resolved names and their spelling

Splitting at the first slash reads a name back from its spelling as long as there is no slash in the
group. Every entry that a request gives or that stands behind a category has such a group, because it
has been split off a text or comes from a vendor whose groups have no slash. What entries are expanded
to is therefore spelled without loss; it has a group and stands for no whole group, so that it is its
own expansion, and resolving the spelled names again changes nothing.
-/

namespace TraceArbiter

open Std

/-! ### Full names -/

namespace EventName

variable {n : EventName}

/-- The name of one event: it has a group, which can be told from the spelling of the name, and it
does not stand for a whole group. -/
structure IsFull (n : EventName) : Prop where
  group_ne : n.group ≠ ""
  slashFree : '/' ∉ n.group.toList
  not_isWildcard : ¬n.isWildcard

instance (n : EventName) : Decidable n.IsFull :=
  decidable_of_iff (n.group ≠ "" ∧ '/' ∉ n.group.toList ∧ ¬n.isWildcard)
    ⟨fun h => ⟨h.1, h.2.1, h.2.2⟩, fun h => ⟨h.group_ne, h.slashFree, h.not_isWildcard⟩⟩

end EventName

/-! ### Expanding entries -/

namespace EventTable

variable {t : EventTable} {entry n : EventName}

/-- No group of the table is empty or has a slash, and no event is called as if it were a group. -/
def IsPlain (t : EventTable) : Prop :=
  ∀ id e, t.getById id = some e → e.fullName.IsFull

theorem isPlain_ofList {events : List Event} (h : ∀ e ∈ events, e.fullName.IsFull) :
    (ofList events).IsPlain :=
  fun _ e hid => h e (mem_of_getById hid).1

theorem expand_of_isFull (hn : n.IsFull) : t.expand n = [n] := by
  unfold expand
  rw [if_neg hn.not_isWildcard, if_neg (mt String.isEmpty_iff.mp hn.group_ne)]

theorem exists_getById_of_mem_eventsInGroup {group : String} {e : Event}
    (h : e ∈ t.eventsInGroup group) : ∃ id, t.getById id = some e := by
  unfold eventsInGroup at h
  split at h
  · obtain ⟨entry, -, hid⟩ := List.mem_filterMap.mp h
    exact ⟨entry.2, hid⟩
  · cases h

/-- An entry is expanded to full names only, whatever it looks like. -/
theorem isFull_of_mem_expand (ht : t.IsPlain) (hentry : '/' ∉ entry.group.toList)
    (hn : n ∈ t.expand entry) : n.IsFull := by
  unfold expand at hn
  split at hn
  · obtain ⟨e, he, rfl⟩ := List.mem_map.mp hn
    obtain ⟨id, hid⟩ := exists_getById_of_mem_eventsInGroup he
    exact ht id e hid
  next hname =>
  split at hn
  · rw [Option.mem_toList, Option.map_eq_some_iff] at hn
    obtain ⟨e, he, rfl⟩ := hn
    obtain ⟨id, -, hid⟩ := Option.bind_eq_some_iff.mp he
    exact ht id e hid
  · next hgroup =>
    rw [List.mem_singleton.mp hn]
    exact ⟨mt String.isEmpty_iff.mpr hgroup, hentry, hname⟩

end EventTable

/-! ### Vendors -/

namespace VendorCategories

variable {v : VendorCategories} {category : String}

/-- No group among the vendor's events has a slash. -/
def SlashFree (v : VendorCategories) : Prop :=
  ∀ category, ∀ n ∈ v.eventsOf category, '/' ∉ n.group.toList

theorem SlashFree.extend (h : v.SlashFree) (category : String) {events : List EventName}
    (hevents : ∀ n ∈ events, '/' ∉ n.group.toList) : (v.extend category events).SlashFree := by
  intro other n hn
  rw [eventsOf_extend] at hn
  split at hn
  · exact (List.mem_append.mp hn).elim (h other n) (hevents n)
  · exact h other n hn

theorem Line.slashFree_parse {line : String} {n : EventName} (h : Line.parse line = .event n) :
    '/' ∉ n.group.toList := by
  unfold Line.parse at h
  dsimp only at h
  split at h
  · cases h
  split at h
  · unfold Line.ofEntry at h
    split at h
    · next hspan =>
      cases h
      rw [String.toList_ofList]
      exact notMem_of_span_slash hspan
    · cases h
  · cases h

theorem SlashFree.readLine {category? : Option String} {line : Line}
    (h : v.SlashFree) (hline : ∀ n, line = .event n → '/' ∉ n.group.toList) :
    (readLine (category?, v) line).2.SlashFree := by
  unfold VendorCategories.readLine
  split
  · next hstate =>
    cases hstate
    exact h.extend _ nofun
  · next hstate =>
    cases hstate
    refine h.extend _ fun n hn => ?_
    rw [List.mem_singleton.mp hn]
    exact hline _ rfl
  · exact h

/-- The groups that a listing gives have no slash. -/
theorem slashFree_parse (text : String) : (parse text).SlashFree := by
  have hfold : ∀ (lines : List String) (state : Option String × VendorCategories),
      state.2.SlashFree →
        ((lines.map Line.parse).foldl VendorCategories.readLine state).2.SlashFree := by
    intro lines
    induction lines with
    | nil => exact fun _ hstate => hstate
    | cons line lines ih =>
      intro state hstate
      exact ih _ (hstate.readLine fun _ => Line.slashFree_parse)
  refine hfold _ (none, {}) fun category n hn => ?_
  change n ∈ (∅ : ExtTreeMap String (List EventName)).getD category [] at hn
  simp at hn

end VendorCategories

/-! ### Resolving again -/

namespace Request

variable {r : Request} {table : EventTable} {vendor : VendorCategories} {entry n : EventName}

theorem slashFree_of_mem_entries (hvendor : vendor.SlashFree) (h : entry ∈ r.entries vendor) :
    '/' ∉ entry.group.toList := by
  obtain ⟨text, -, rfl⟩ | ⟨-, rfl⟩ | ⟨category, -, hbehind⟩ := mem_entries.mp h
  · exact EventName.group_parse text
  · decide
  · unfold categoryEntries at hbehind
    rw [List.mem_append, List.mem_map] at hbehind
    obtain ⟨text, -, rfl⟩ | hevent := hbehind
    · exact EventName.group_parse text
    · exact hvendor category entry hevent

theorem isFull_of_mem_resolve (htable : table.IsPlain) (hvendor : vendor.SlashFree)
    (h : n ∈ r.resolve table vendor) : n.IsFull := by
  obtain ⟨entry, hentry, hn⟩ := mem_resolve.mp h
  exact EventTable.isFull_of_mem_expand htable (slashFree_of_mem_entries hvendor hentry) hn

/-- A request that spells out names of single events and asks for nothing else resolves to them. -/
theorem mem_resolve_spelled {names : List EventName} (hnames : ∀ n ∈ names, n.IsFull)
    (hevents : r.events = names.map toString) (hcategories : r.categories = []) (happs : r.apps = []) :
    n ∈ r.resolve table vendor ↔ n ∈ names := by
  have hentries : ∀ entry, entry ∈ r.entries vendor ↔ entry ∈ names := by
    intro entry
    rw [mem_entries, hevents, hcategories, happs]
    simp only [List.mem_map, exists_exists_and_eq_and, ne_eq, not_true_eq_false, or_self, false_and,
      List.not_mem_nil, exists_false, or_false]
    constructor
    · rintro ⟨m, hm, rfl⟩
      rwa [EventName.parse_toString (hnames m hm).slashFree]
    · intro hentry
      exact ⟨entry, hentry, EventName.parse_toString (hnames entry hentry).slashFree⟩
  rw [mem_resolve]
  constructor
  · rintro ⟨entry, hentry, hn⟩
    rw [hentries] at hentry
    rw [EventTable.expand_of_isFull (hnames entry hentry), List.mem_singleton] at hn
    rwa [hn]
  · intro hn
    refine ⟨n, (hentries n).mpr hn, ?_⟩
    rw [EventTable.expand_of_isFull (hnames n hn)]
    exact List.mem_singleton_self n

/-- On a plain table, and with categories of a vendor whose groups have no slash, as every listing
gives them: whatever the request, the names that it resolves to have a group and stand for no whole
group, and a request that spells them out and asks for nothing else resolves to the same names. -/
theorem resolve_spelled (htable : table.IsPlain) :
    (∀ text, (VendorCategories.parse text).SlashFree) ∧
      ∀ vendor : VendorCategories, vendor.SlashFree → ∀ r : Request,
        (∀ n ∈ r.resolve table vendor, n.group ≠ "" ∧ ¬n.isWildcard) ∧
          ∀ other : Request,
            Request.resolve { other with
                events := (r.resolve table vendor).toList.map toString
                categories := []
                apps := [] } table vendor =
              r.resolve table vendor := by
  refine ⟨VendorCategories.slashFree_parse, fun vendor hvendor r => ⟨fun n hn => ?_, fun other => ?_⟩⟩
  · have hfull := isFull_of_mem_resolve htable hvendor hn
    exact ⟨hfull.group_ne, hfull.not_isWildcard⟩
  · refine ExtTreeSet.ext_mem fun n => ?_
    rw [mem_resolve_spelled (fun n hn => isFull_of_mem_resolve htable hvendor
      (ExtTreeSet.mem_toList.mp hn)) rfl rfl rfl, ExtTreeSet.mem_toList]

/-- A vendor's listing that goes on with a built-in category, and has a name with more slashes. -/
def cameraListing : String :=
  "irq\n camera/frame\ncamera\n camera/*\n camera/shutter/open\n"

/-- Entries that look like names only from afar, among them one for every way of leaving a part out. -/
def strangeRequest : Request where
  events := ["/sched_switch", "camera//frame", "*", "camera/*", "irq/", "/", "", "ipi/*/entry"]
  categories := ["irq", "camera"]

theorem resolve_spelled_strangeRequest :
    let table := EventTable.ofList renumberedKernel
    let vendor := VendorCategories.parse cameraListing
    let spelled := (strangeRequest.resolve table vendor).toList.map toString
    table.IsPlain ∧ vendor.SlashFree ∧
      spelled = ["camera//frame", "camera/exposure", "camera/frame", "camera/shutter/open",
        "ftrace/print", "ipi/*/entry", "ipi/ipi_entry", "irq/", "irq/irq_handler_entry"] ∧
      (∀ n ∈ strangeRequest.resolve table vendor, n.group ≠ "" ∧ ¬n.isWildcard) ∧
      Request.resolve { events := spelled } table vendor = strangeRequest.resolve table vendor := by
  intro table vendor spelled
  have htable : table.IsPlain := EventTable.isPlain_ofList (by decide +kernel)
  obtain ⟨hparse, hresolve⟩ := resolve_spelled htable
  have hvendor : vendor.SlashFree := hparse cameraListing
  obtain ⟨hfull, hagain⟩ := hresolve vendor hvendor strangeRequest
  exact ⟨htable, hvendor, by decide +kernel, hfull, hagain {}⟩

end Request

end TraceArbiter
