import Mathlib.Data.Set.Card
import TraceArbiter.Event.Scan
import TraceArbiter.Proofs.Event.Indexes
import TraceArbiter.Proofs.Facility.Reordered
import TraceArbiter.Proofs.Text.Numeral

/-!
# The events that a tree shows

Scanning a tree finds an event for each file `events/group/name/id` that can be opened and spells a
number, and no others, by group and then by name whatever order the directories list their entries in.
If no two of these files spell one number, then every lookup in the table leads to such a file.
-/

namespace TraceArbiter

open Std

/-! ### Events in order -/

/-- Events come by group, and by name in one group. -/
def Event.Precedes (e e' : Event) : Prop :=
  e.group < e'.group ∨ e.group = e'.group ∧ e.name < e'.name

theorem Event.Precedes.group_lt {e e' : Event} (h : e.Precedes e') (hname : e.name = e'.name) :
    e.group < e'.group :=
  h.resolve_right fun hsame => String.lt_irrefl _ (hname ▸ hsame.2)

theorem eq_or_precedes_of_find? {events : List Event} {q : Event → Bool} {e e' : Event}
    (hordered : events.Pairwise Event.Precedes) (hfind : events.find? q = some e)
    (he' : e' ∈ events) (hq : q e') : e = e' ∨ e.Precedes e' := by
  obtain ⟨-, before, after, rfl, hbefore⟩ := List.find?_eq_some_iff_append.mp hfind
  have hafter := (List.pairwise_cons.mp (List.pairwise_append.mp hordered).2.1).1
  obtain hmem | hmem := List.mem_append.mp he'
  · exact absurd hq (by simpa using hbefore e' hmem)
  · exact (List.mem_cons.mp hmem).imp Eq.symm (hafter e')

/-- The events with a property, in order. -/
structure ListsEvents (events : List Event) (p : Event → Prop) : Prop where
  ordered : events.Pairwise Event.Precedes
  mem_iff : ∀ e, e ∈ events ↔ p e

theorem ListsEvents.flatten {groups : List String} {found : List (List Event)} {p : Event → Prop}
    (hgroups : groups.Pairwise (· < ·))
    (h : List.Forall₂ (fun group events => ListsEvents events fun e => e.group = group ∧ p e)
      groups found) :
    ListsEvents found.flatten fun e => e.group ∈ groups ∧ p e := by
  induction h with
  | nil => exact ⟨.nil, by simp⟩
  | cons hfirst hrest ih =>
    obtain ⟨hbefore, hgroups⟩ := List.pairwise_cons.mp hgroups
    have hlater := ih hgroups
    rw [List.flatten_cons]
    refine ⟨List.pairwise_append.mpr ⟨hfirst.ordered, hlater.ordered, fun e he e' he' => ?_⟩,
      fun e => ?_⟩
    · rw [hfirst.mem_iff] at he
      rw [hlater.mem_iff] at he'
      refine .inl ?_
      rw [he.1]
      exact hbefore _ he'.1
    · rw [List.mem_append, hfirst.mem_iff, hlater.mem_iff, List.mem_cons, or_and_right]

namespace ListsEvents

variable {events : List Event} {p : Event → Prop} (h : ListsEvents events p)

include h

theorem nodup_fullName : (events.map Event.fullName).Nodup := by
  refine List.pairwise_map.mpr (h.ordered.imp fun {e e'} hprecedes hsame => ?_)
  obtain ⟨hgroup, hname⟩ := EventName.mk.inj hsame
  obtain hlt | ⟨-, hlt⟩ := hprecedes
  · exact String.lt_irrefl _ (hgroup ▸ hlt)
  · exact String.lt_irrefl _ (hname ▸ hlt)

theorem nodup_id (hids : ∀ e e', p e → p e' → e.id = e'.id → e.fullName = e'.fullName) :
    (events.map Event.id).Nodup := by
  refine List.Nodup.map_on (fun e he e' he' hid => ?_) (.of_map Event.fullName h.nodup_fullName)
  have hname := hids e e' ((h.mem_iff e).mp he) ((h.mem_iff e').mp he') hid
  exact List.inj_on_of_nodup_map h.nodup_fullName he he' hname

/-- The first event with a bare name is that of the least group that has one. -/
theorem find?_name_eq_some_iff {name : String} {e : Event} :
    events.find? (·.name = name) = some e ↔
      e.name = name ∧ p e ∧ ∀ e', p e' → e'.name = name → e.group ≤ e'.group := by
  have hfirst : ∀ first, events.find? (·.name = name) = some first → first.name = name ∧
      ∀ e', p e' → e'.name = name → first = e' ∨ first.group < e'.group := by
    intro first hfind
    have hname : first.name = name := by simpa using List.find?_some hfind
    refine ⟨hname, fun e' he' hname' => ?_⟩
    refine (eq_or_precedes_of_find? h.ordered hfind ((h.mem_iff e').mpr he') (by simpa)).imp_right ?_
    exact fun hprecedes => hprecedes.group_lt (hname.trans hname'.symm)
  constructor
  · intro hfind
    obtain ⟨hname, hleast⟩ := hfirst e hfind
    refine ⟨hname, (h.mem_iff e).mp (List.mem_of_find?_eq_some hfind), fun e' he' hname' => ?_⟩
    obtain rfl | hlt := hleast e' he' hname'
    · exact String.lt_irrefl _
    · exact String.lt_asymm hlt
  · rintro ⟨hname, he, hleast⟩
    cases hfind : events.find? (·.name = name) with
    | none => exact absurd hname (by simpa using List.find?_eq_none.mp hfind e ((h.mem_iff e).mpr he))
    | some first =>
      obtain ⟨hname', hbefore⟩ := hfirst first hfind
      have hmem := (h.mem_iff first).mp (List.mem_of_find?_eq_some hfind)
      rw [(hbefore e he hname).resolve_right fun hlt => hleast first hmem hname' hlt]

end ListsEvents

namespace FileTree

variable {t t' : FileTree} {place : List String} {entries : List (String × FileTree)}
  {path name root : String} {id : EventId}

/-! ### Directories in order -/

/-- The directories in a directory, in the order of their names, as far as paths can lead to them. -/
theorem exists_subdirectories (ht : t.isProper) (hpath : t.locate path = .ok place)
    (hplace : t.at? place = some (.directory entries)) :
    ∃ names, t.subdirectories path = .ok names ∧ names.Pairwise (· < ·) ∧
      ∀ name, name ∈ names ↔ (join path name).utf8ByteSize ≤ pathLimit ∧
        ∃ entries', t.at? (place ++ [name]) = some (.directory entries') := by
  have hlist : t.listDirectory path = .ok (entries.map Prod.fst) :=
    listDirectory_eq_ok_iff.mpr ⟨place, entries, hpath, hplace, rfl⟩
  refine ⟨_, by rw [subdirectories, hlist], ?_, fun name => ?_⟩
  · exact (ExtTreeSet.ordered_toList.imp compare_eq_lt_iff.mp).filter _
  · rw [List.mem_filter, ExtTreeSet.mem_toList, ExtTreeSet.mem_ofList, List.contains_eq_mem,
      decide_eq_true_eq, isDirectory_iff]
    constructor
    · rintro ⟨hmem, place', entries', hname, hdirectory⟩
      obtain ⟨⟨_, u⟩, hentry, rfl⟩ := List.mem_map.mp hmem
      have hproper := ((isProper_directory.mp (isProper_at? ht hplace)).2 _ hentry).1
      obtain ⟨hshort, -, rfl⟩ := (locate_join_eq_ok_iff hpath hproper).mp hname
      exact ⟨hshort, entries', hdirectory⟩
    · rintro ⟨hshort, entries', hdirectory⟩
      have hname := locate_join ht hpath hshort hdirectory
      rw [at?_concat hplace] at hdirectory
      exact ⟨List.mem_map_of_mem (mem_of_lookup hdirectory), _, entries', hname,
        by rwa [at?_concat hplace]⟩

/-! ### Ids -/

/-- The directory at a place has a file for its id to which the path of the directory leads on. It is
a text, and spells the id when it is trimmed. -/
def ShowsId (t : FileTree) (path : String) (place : List String) (id : EventId) : Prop :=
  (join path "id").utf8ByteSize ≤ pathLimit ∧
    ∃ content text, t.at? (place ++ ["id"]) = some (.file content) ∧
      Text.ofBytes? content = some text ∧ Text.Spells (Text.trim text) id

theorem eventId?_eq_some_iff (hpath : t.locate path = .ok place) :
    t.eventId? path = some id ↔ t.ShowsId path place id := by
  have hread : t.eventId? path = some id ↔ ∃ text, t.readText (join path "id") = .ok text ∧
      Text.Spells (Text.trim text) id := by
    unfold eventId?
    cases t.readText (join path "id") with
    | error e => simp
    | ok text => simp [Text.readDecimal_eq_some_iff]
  have hname : IsFileName "id" := by decide
  rw [hread]
  simp only [readText_eq_ok_iff, locate_join_eq_ok_iff hpath hname]
  constructor
  · rintro ⟨text, ⟨_, content, ⟨hshort, -, rfl⟩, hfile, htext⟩, hspells⟩
    exact ⟨hshort, content, text, hfile, htext, hspells⟩
  · rintro ⟨hshort, content, text, hfile, htext, hspells⟩
    exact ⟨text, ⟨_, content, ⟨hshort, by rw [hfile]; rfl, rfl⟩, hfile, htext⟩, hspells⟩

theorem ShowsId.exists_directory (h : t.ShowsId path place id) :
    path.utf8ByteSize ≤ pathLimit ∧ ∃ entries, t.at? place = some (.directory entries) := by
  obtain ⟨hshort, content, -, hfile, -⟩ := h
  obtain ⟨entries, hplace, -⟩ := FileTree.exists_directory hfile
  exact ⟨(utf8ByteSize_le_join path (by decide)).trans hshort, entries, hplace⟩

/-- Below the root, the file `events/group/name/id` can be opened and spells the id. -/
def GivesId (t : FileTree) (root : String) (n : EventName) (id : EventId) : Prop :=
  ∃ place, t.locate (join root "events") = .ok place ∧
    t.ShowsId (join (join (join root "events") n.group) n.name) (place ++ [n.group] ++ [n.name]) id

/-! ### What is found -/

theorem exists_mapM {ε α β : Type} {f : α → Except ε β} {R : α → β → Prop} {as : List α}
    (h : ∀ a ∈ as, ∃ b, f a = .ok b ∧ R a b) :
    ∃ bs, as.mapM f = .ok bs ∧ List.Forall₂ R as bs := by
  induction as with
  | nil => exact ⟨[], rfl, .nil⟩
  | cons a as ih =>
    obtain ⟨⟨b, hb, hrelated⟩, hrest⟩ := List.forall_mem_cons.mp h
    obtain ⟨bs, hbs, hall⟩ := ih hrest
    exact ⟨b :: bs, by rw [List.mapM_cons, hb, hbs]; rfl, .cons hrelated hall⟩

theorem exists_eventsOfGroup (ht : t.isProper) (hpath : t.locate path = .ok place)
    (hplace : t.at? place = some (.directory entries)) (group : String) :
    ∃ events, t.eventsOfGroup path group = .ok events ∧ ListsEvents events fun e =>
      e.group = group ∧ t.ShowsId (join path e.name) (place ++ [e.name]) e.id := by
  obtain ⟨names, hnames, hordered, hmem⟩ := exists_subdirectories ht hpath hplace
  have hid : ∀ name ∈ names, ∀ id, t.eventId? (join path name) = some id ↔
      t.ShowsId (join path name) (place ++ [name]) id := by
    intro name hname id
    obtain ⟨hshort, entries', hdirectory⟩ := (hmem name).mp hname
    exact eventId?_eq_some_iff (locate_join ht hpath hshort hdirectory)
  refine ⟨_, by rw [eventsOfGroup, hnames]; rfl, ?_, fun e => ?_⟩
  · refine List.Pairwise.filterMap _ (fun name name' hlt => ?_) hordered
    intro e he e' he'
    obtain ⟨_, -, rfl⟩ := Option.map_eq_some_iff.mp he
    obtain ⟨_, -, rfl⟩ := Option.map_eq_some_iff.mp he'
    exact .inr ⟨rfl, hlt⟩
  · rw [List.mem_filterMap]
    constructor
    · rintro ⟨name, hname, he⟩
      obtain ⟨id, hshows, rfl⟩ := Option.map_eq_some_iff.mp he
      exact ⟨rfl, (hid name hname id).mp hshows⟩
    · rintro ⟨rfl, hshows⟩
      have hname : e.name ∈ names := (hmem e.name).mpr hshows.exists_directory
      exact ⟨e.name, hname, by rw [(hid e.name hname e.id).mpr hshows]; rfl⟩

/-- A tree with a directory for events shows the events of the files that spell an id. -/
theorem exists_events (ht : t.isProper) (hroot : t.isDirectory (join root "events")) :
    ∃ events, t.events root = .ok events ∧
      ListsEvents events fun e => t.GivesId root e.fullName e.id := by
  obtain ⟨place, entries, hpath, hplace⟩ := isDirectory_iff.mp hroot
  obtain ⟨groups, hgroups, hordered, hmem⟩ := exists_subdirectories ht hpath hplace
  have hevents : ∀ group ∈ groups, ∃ events,
      t.eventsOfGroup (join (join root "events") group) group = .ok events ∧
        ListsEvents events fun e => e.group = group ∧ t.GivesId root e.fullName e.id := by
    intro group hgroup
    obtain ⟨hshort, entries', hdirectory⟩ := (hmem group).mp hgroup
    have hname := locate_join ht hpath hshort hdirectory
    obtain ⟨events, hfound, hlists⟩ := exists_eventsOfGroup ht hname hdirectory group
    refine ⟨events, hfound, hlists.ordered, fun e => ?_⟩
    rw [hlists.mem_iff]
    refine and_congr_right ?_
    rintro rfl
    unfold GivesId Event.fullName
    simp [hpath]
  obtain ⟨found, hfound, hall⟩ := exists_mapM hevents
  have hlists := ListsEvents.flatten hordered hall
  refine ⟨found.flatten,
    bind_eq_ok_iff.mpr ⟨groups, hgroups, bind_eq_ok_iff.mpr ⟨found, hfound, rfl⟩⟩,
    hlists.ordered, fun e => (hlists.mem_iff e).trans (and_iff_right_of_imp ?_)⟩
  rintro ⟨place', hpath', hshows⟩
  obtain rfl : place = place' := Except.ok.inj (hpath.symm.trans hpath')
  obtain ⟨hshort, _, hdirectory⟩ := hshows.exists_directory
  obtain ⟨entries', hgroup, -⟩ := FileTree.exists_directory hdirectory
  have hslash := (isFileName_of_at? ht hdirectory).slashFree
  exact (hmem e.group).mpr ⟨(utf8ByteSize_le_join _ hslash).trans hshort, entries', hgroup⟩

/-- An event is found for a file, and none without. -/
theorem givesId_iff (ht : t.isProper) (hroot : t.isDirectory (join root "events"))
    {events : List Event} (hevents : t.events root = .ok events) {n : EventName} :
    t.GivesId root n id ↔ (⟨id, n.group, n.name⟩ : Event) ∈ events := by
  obtain ⟨events', hevents', hlists⟩ := exists_events ht hroot
  rw [← Except.ok.inj (hevents'.symm.trans hevents)]
  exact (hlists.mem_iff ⟨id, n.group, n.name⟩).symm

/-! ### The order of entries -/

namespace SamePlaces

variable (h : SamePlaces t t')

include h

theorem subdirectories_eq (path : String) : t.subdirectories path = t'.subdirectories path := by
  rw [subdirectories, subdirectories, listDirectory, listDirectory, h.locate_eq]
  cases t'.locate path with
  | error e => rfl
  | ok place =>
    have hkind := h place
    dsimp only [bind, Except.bind]
    generalize hplace : t.at? place = u, hplace' : t'.at? place = u' at hkind
    cases hkind with
    | none => rfl
    | file content => rfl
    | directory entries entries' =>
      have hnames : ExtTreeSet.ofList (entries.map Prod.fst) = .ofList (entries'.map Prod.fst) := by
        refine ExtTreeSet.ext_mem fun name => ?_
        simp only [ExtTreeSet.mem_ofList, List.contains_eq_mem, decide_eq_true_eq,
          h.mem_names_iff hplace hplace']
      change Except.ok _ = Except.ok _
      rw [hnames]
      simp only [h.isDirectory_eq]

theorem events_eq (root : String) : t.events root = t'.events root := by
  have hgroup : ∀ path group, t.eventsOfGroup path group = t'.eventsOfGroup path group := by
    intro path group
    rw [eventsOfGroup, eventsOfGroup, h.subdirectories_eq]
    simp only [eventId?, h.readText_eq]
  rw [events, events, h.subdirectories_eq]
  simp only [hgroup]

end SamePlaces

end FileTree

/-! ### The table of a tree -/

namespace EventTable

open FileTree

variable {t t' : FileTree} {root : String}

/-- The table of a proper tree does not depend on the order in which its directories list entries. -/
theorem scan_reordered (ht : t.isProper) (h : Relation.ReflTransGen Reorders t t') :
    t'.isProper ∧ scan t' root = scan t root := by
  induction h with
  | refl => exact ⟨ht, rfl⟩
  | tail _ hstep ih =>
    refine ⟨hstep.isProper ih.1, ?_⟩
    rw [← ih.2, scan, scan, (hstep.samePlaces ih.1).events_eq]

/-- A proper tree with a directory for events, in which no two files spell one id, has a table. Events
are found in it by their full names and by their ids exactly if there is a file that gives them their
id, and by their bare names if theirs is the least group with such a file. -/
theorem scan_proper (ht : t.isProper) (hroot : t.isDirectory (join root "events"))
    (hids : ∀ n n' id, t.GivesId root n id → t.GivesId root n' id → n = n') :
    ∃ table, scan t root = .ok table ∧
      (∀ n e, table.get n = some e ↔ e.fullName = n ∧ t.GivesId root n e.id) ∧
      (∀ id e, table.getById id = some e ↔ e.id = id ∧ t.GivesId root e.fullName id) ∧
      (∀ name e, table.getByName name = some e ↔ e.name = name ∧ t.GivesId root e.fullName e.id ∧
        ∀ group id, t.GivesId root ⟨group, name⟩ id → e.group ≤ group) ∧
      (∀ name, table.getByName name = none ↔ ∀ group id, ¬t.GivesId root ⟨group, name⟩ id) ∧
      {n : EventName | ∃ id, t.GivesId root n id}.encard = table.size ∧
      ∀ t', Relation.ReflTransGen Reorders t t' → scan t' root = .ok table := by
  obtain ⟨events, hevents, hlists⟩ := exists_events ht hroot
  have hscan : scan t root = .ok (ofList events) := by
    rw [scan, hevents]
    rfl
  have hunique := hlists.nodup_id fun e e' he he' hid => hids _ _ _ he (hid ▸ he')
  refine ⟨ofList events, hscan, fun n e => ?_, fun id e => ?_, fun name e => ?_, fun name => ?_, ?_,
    fun t' hreordered => (scan_reordered ht hreordered).2.trans hscan⟩
  · rw [get_eq_some_iff hunique hlists.nodup_fullName, hlists.mem_iff, and_comm]
    exact and_congr_right fun hname => by rw [hname]
  · rw [getById_eq_some_iff hunique, hlists.mem_iff, and_comm]
    exact and_congr_right fun hid => by rw [hid]
  · rw [getByName_eq_find? hunique, hlists.find?_name_eq_some_iff]
    refine and_congr_right fun _ => and_congr_right fun _ => ?_
    constructor
    · intro hleast group id hgives
      exact hleast ⟨id, group, name⟩ hgives rfl
    · rintro hleast e' hgives rfl
      exact hleast e'.group e'.id hgives
  · rw [getByName_eq_none_iff]
    constructor
    · intro hnone group id hgives
      exact hnone ⟨id, group, name⟩ ((hlists.mem_iff _).mpr hgives) rfl
    · rintro hnone e he rfl
      exact hnone e.group e.id ((hlists.mem_iff e).mp he)
  · have hnames : {n : EventName | ∃ id, t.GivesId root n id} = (events.map Event.fullName).toFinset := by
      ext n
      rw [List.coe_toFinset, Set.mem_ofPred_eq, Set.mem_ofPred_eq, List.mem_map]
      constructor
      · rintro ⟨id, hgives⟩
        exact ⟨⟨id, n.group, n.name⟩, (hlists.mem_iff _).mpr hgives, rfl⟩
      · rintro ⟨e, he, rfl⟩
        exact ⟨e.id, (hlists.mem_iff e).mp he⟩
    rw [hnames, Set.encard_coe_eq_coe_finsetCard, List.toFinset_card_of_nodup hlists.nodup_fullName,
      List.length_map, size_eq_length hunique]

/-- A directory with an id. -/
def eventDirectory (id : String) : FileTree :=
  .directory [("id", .file id.toUTF8)]

/-- Two groups in a disorder, with one bare name in both, and with ids that are no numbers, no texts, no
files or missing. -/
def scatteredIds : FileTree :=
  .directory [("tracing", .directory [("events", .directory
    [("sched", .directory
      [("sched_waking", eventDirectory " +316\n"), ("sched_switch", eventDirectory "314\n"),
        ("enable", .file "0\n".toUTF8), ("sched_stat", eventDirectory "31x\n"),
        ("sched_raw", .directory [("id", .file ⟨#[0x33, 0xFF]⟩)]),
        ("sched_wait", .directory [("id", eventDirectory "315\n")]), ("sched_pi", .directory [])]),
      ("header_page", .file "".toUTF8),
      ("irq", .directory [("sched_switch", eventDirectory "7")])])])]

def scatteredEvents : List Event :=
  [⟨7, "irq", "sched_switch"⟩, ⟨314, "sched", "sched_switch"⟩, ⟨316, "sched", "sched_waking"⟩]

theorem scan_proper_scatteredIds :
    (scatteredIds.isProper ∧ scatteredIds.isDirectory (join "/tracing" "events") ∧
      ∀ n n' id, scatteredIds.GivesId "/tracing" n id → scatteredIds.GivesId "/tracing" n' id →
        n = n') ∧
      ∃ table, scan scatteredIds "/tracing" = .ok table ∧
        table.get ⟨"sched", "sched_switch"⟩ = some ⟨314, "sched", "sched_switch"⟩ ∧
        table.getById 316 = some ⟨316, "sched", "sched_waking"⟩ ∧
        table.getByName "sched_switch" = some ⟨7, "irq", "sched_switch"⟩ ∧
        table.getByName "sched_stat" = none ∧
        ∀ t', Relation.ReflTransGen Reorders scatteredIds t' → scan t' "/tracing" = .ok table := by
  have ht : scatteredIds.isProper := by decide +kernel
  have hroot : scatteredIds.isDirectory (join "/tracing" "events") := by decide +kernel
  have hevents : scatteredIds.events "/tracing" = .ok scatteredEvents := by decide +kernel
  have hgives : ∀ n id, scatteredIds.GivesId "/tracing" n id ↔
      (⟨id, n.group, n.name⟩ : Event) ∈ scatteredEvents :=
    fun n id => givesId_iff ht hroot hevents
  have hids : ∀ n n' id, scatteredIds.GivesId "/tracing" n id → scatteredIds.GivesId "/tracing" n' id →
      n = n' := by
    intro n n' id h h'
    have hnodup : (scatteredEvents.map Event.id).Nodup := by decide
    exact congrArg Event.fullName
      (List.inj_on_of_nodup_map hnodup ((hgives n id).mp h) ((hgives n' id).mp h') rfl)
  obtain ⟨table, hscan, hget, hgetById, hgetByName, hnone, -, hreordered⟩ :=
    scan_proper ht hroot hids
  have hleast : ∀ e ∈ scatteredEvents, e.name = "sched_switch" → "irq" ≤ e.group := by decide
  have hstat : ∀ e ∈ scatteredEvents, e.name ≠ "sched_stat" := by decide
  refine ⟨⟨ht, hroot, hids⟩, table, hscan, ?_, ?_, ?_, ?_, hreordered⟩
  · exact (hget _ _).mpr ⟨rfl, (hgives _ _).mpr (by decide)⟩
  · exact (hgetById _ _).mpr ⟨rfl, (hgives _ _).mpr (by decide)⟩
  · exact (hgetByName _ _).mpr ⟨rfl, (hgives _ _).mpr (by decide),
      fun group id h => hleast _ ((hgives _ _).mp h) rfl⟩
  · exact (hnone _).mpr fun group id h => hstat _ ((hgives _ _).mp h) rfl

end EventTable

end TraceArbiter
