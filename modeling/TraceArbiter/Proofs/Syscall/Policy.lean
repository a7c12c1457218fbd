import TraceArbiter.Proofs.Event.Accounted
import TraceArbiter.Proofs.Text.Numeral

/-!
# Which system calls a session records

A session that is set up records system calls only if an event of the raw syscall group is among those
its request stands for. Then it records all of them if the request lists none, and otherwise those that
the listed entries stand for, which are none if no entry stands for one. An entry that stands for no
call is reported, and it never widens the filter. The listed entries are looked up one by one, so only
the set of them matters.
-/

namespace TraceArbiter

open Std

/-! ### What an entry stands for -/

/-- A name in the table stands for its number there, and any other entry for the number it spells. -/
inductive SyscallTable.StandsFor (t : SyscallTable) (entry : String) (id : SyscallId) : Prop
  | name (hname : t.idOf? entry = some id)
  | number (hnone : t.idOf? entry = none) (hspells : Text.Spells entry id)

theorem SyscallTable.resolve?_eq_some_iff {t : SyscallTable} {entry : String} {id : SyscallId} :
    t.resolve? entry = some id ↔ t.StandsFor entry id := by
  unfold resolve?
  rw [Option.or_eq_some_iff, Text.readDecimal_eq_some_iff]
  constructor
  · rintro (hname | ⟨hnone, hspells⟩)
    · exact .name hname
    · exact .number hnone hspells
  · rintro (hname | ⟨hnone, hspells⟩)
    · exact .inl hname
    · exact .inr ⟨hnone, hspells⟩

theorem SyscallTable.resolve?_isNone_iff {t : SyscallTable} {entry : String} :
    (t.resolve? entry).isNone ↔ ¬∃ id, t.StandsFor entry id := by
  simp only [Option.isNone_iff_eq_none, Option.eq_none_iff_forall_ne_some, ne_eq,
    resolve?_eq_some_iff, not_exists]

/-! ### Plans -/

namespace Request

variable {r : Request} {catalog : Catalog} {events : List Event} {f : EventFilter}

/-- Under one of the names that the request stands for, the table has an event that records system
calls. -/
def RecordsSyscalls (r : Request) (catalog : Catalog) : Prop :=
  ∃ n ∈ r.resolve catalog.events catalog.vendor, ∃ e, catalog.events.get n = some e ∧
    e.group = rawSyscallGroup

/-- The ids of the planned events lead back to these events, however often ids and names were given. -/
theorem hasGroup_plan_iff (htable : catalog.events = .ofList events) :
    (EventFilter.ofList ((r.plan catalog).events.map Event.id)).hasGroup catalog.events
        rawSyscallGroup ↔ r.RecordsSyscalls catalog := by
  have hback : ∀ e ∈ (r.plan catalog).events, catalog.events.getById e.id = some e := by
    intro e he
    obtain ⟨n, -, hget⟩ := mem_plan_events.mp he
    rw [htable] at hget ⊢
    exact EventTable.getById_of_get hget
  rw [RecordsSyscalls, ← exists_mem_plan, EventFilter.hasGroup_iff]
  constructor
  · rintro ⟨id, e, hon, hid, hgroup⟩
    rw [EventFilter.isEnabled_ofList, List.mem_map] at hon
    obtain ⟨e', he', rfl⟩ := hon
    rw [hback e' he', Option.some_inj] at hid
    subst hid
    exact ⟨e', he', hgroup⟩
  · rintro ⟨e, he, hgroup⟩
    exact ⟨e.id, e, (EventFilter.isEnabled_ofList ..).mpr (List.mem_map_of_mem he), hback e he,
      hgroup⟩

/-- The filter and the report of a request, by whether it records system calls and lists some. -/
inductive SyscallOutcome (t : SyscallTable) (records : Prop) (entries : List String) :
    SyscallFilter → ExtTreeSet String → Prop
  | unwanted (hrecords : ¬records) : SyscallOutcome t records entries .none ∅
  | everything (hrecords : records) (hentries : entries = []) :
      SyscallOutcome t records entries .all ∅
  | listed (hrecords : records) (hentries : entries ≠ []) (ids : ExtTreeSet SyscallId)
      (unknown : ExtTreeSet String)
      (hids : ∀ id, id ∈ ids ↔ ∃ entry ∈ entries, t.StandsFor entry id)
      (hunknown : ∀ entry, entry ∈ unknown ↔ entry ∈ entries ∧ ¬∃ id, t.StandsFor entry id) :
      SyscallOutcome t records entries (if ids.isEmpty then .none else .explicit ids) unknown

theorem syscallPlan_outcome (r : Request) (catalog : Catalog) (f : EventFilter) :
    SyscallOutcome catalog.syscalls (f.hasGroup catalog.events rawSyscallGroup) r.syscalls
      (r.syscallPlan catalog f).1 (r.syscallPlan catalog f).2 := by
  unfold syscallPlan
  split
  · next hgroup => exact .unwanted (by simpa using hgroup)
  next hgroup =>
  split
  · next hnone => exact .everything (by simpa using hgroup) (List.isEmpty_iff.mp hnone)
  · next hsome =>
    refine .listed (by simpa using hgroup) (mt List.isEmpty_iff.mpr hsome) _ _ (fun id => ?_)
      fun entry => ?_
    · rw [ExtTreeSet.mem_ofList, List.contains_eq_mem, decide_eq_true_eq, List.mem_filterMap]
      simp only [SyscallTable.resolve?_eq_some_iff]
    · rw [ExtTreeSet.mem_ofList, List.contains_eq_mem, decide_eq_true_eq, List.mem_filter,
        SyscallTable.resolve?_isNone_iff]

theorem plan_outcome (htable : catalog.events = .ofList events) (r : Request) :
    SyscallOutcome catalog.syscalls (r.RecordsSyscalls catalog) r.syscalls
      (r.plan catalog).syscallFilter (r.plan catalog).unknownSyscalls := by
  have houtcome := syscallPlan_outcome r catalog (.ofList ((r.plan catalog).events.map Event.id))
  rwa [hasGroup_plan_iff htable] at houtcome

namespace SyscallOutcome

variable {t : SyscallTable} {records : Prop} {entries entries' : List String}
  {filter filter' : SyscallFilter} {unknown unknown' : ExtTreeSet String}

/-- Unknown entries never widen a filter. -/
theorem entries_eq_nil (h : SyscallOutcome t records entries filter unknown) (hall : filter = .all) :
    entries = [] := by
  cases h with
  | unwanted => cases hall
  | everything _ hentries => exact hentries
  | listed =>
    split at hall
    · cases hall
    · cases hall

/-- The outcome is the same for all lists of the same entries. -/
theorem unique (h : SyscallOutcome t records entries filter unknown)
    (h' : SyscallOutcome t records entries' filter' unknown')
    (hsame : ∀ entry, entry ∈ entries ↔ entry ∈ entries') : filter = filter' ∧ unknown = unknown' := by
  have hnil : entries = [] ↔ entries' = [] := by
    simp only [List.eq_nil_iff_forall_not_mem, hsame]
  cases h with
  | unwanted hrecords =>
    cases h' with
    | unwanted => exact ⟨rfl, rfl⟩
    | everything hrecords' | listed hrecords' => exact absurd hrecords' hrecords
  | everything hrecords hentries =>
    cases h' with
    | unwanted hrecords' => exact absurd hrecords hrecords'
    | everything => exact ⟨rfl, rfl⟩
    | listed _ hentries' => exact absurd (hnil.mp hentries) hentries'
  | listed hrecords hentries ids unknown hids hunknown =>
    cases h' with
    | unwanted hrecords' => exact absurd hrecords hrecords'
    | everything _ hentries' => exact absurd (hnil.mpr hentries') hentries
    | listed _ _ ids' unknown' hids' hunknown' =>
      have hsameIds : ids = ids' := ExtTreeSet.ext_mem fun id => by
        rw [hids, hids']
        simp only [hsame]
      have hsameUnknown : unknown = unknown' := ExtTreeSet.ext_mem fun entry => by
        rw [hunknown, hunknown', hsame]
      rw [hsameIds, hsameUnknown]
      exact ⟨rfl, rfl⟩

end SyscallOutcome

/-- Of the listed system calls, a plan depends on the set only. -/
theorem plan_relisted (htable : catalog.events = .ofList events) (r : Request) {entries : List String}
    (hsame : ∀ entry, entry ∈ entries ↔ entry ∈ r.syscalls) :
    Request.plan { r with syscalls := entries } catalog = r.plan catalog := by
  obtain ⟨hfilter, hunknown⟩ :=
    (plan_outcome htable { r with syscalls := entries }).unique (plan_outcome htable r) hsame
  -- Nothing else in a plan looks at the listed calls.
  calc
    Request.plan { r with syscalls := entries } catalog =
        { r.plan catalog with
          syscallFilter := (Request.plan { r with syscalls := entries } catalog).syscallFilter
          unknownSyscalls :=
            (Request.plan { r with syscalls := entries } catalog).unknownSyscalls } := rfl
    _ = r.plan catalog := by rw [hfilter, hunknown]

end Request

/-! ### Setups -/

namespace Arbiter

variable {σ : Type} [Facility σ] {a : Arbiter σ} {r : Request} {events : List Event}

theorem setup_relisted (htable : a.catalog.events = .ofList events) {entries : List String}
    (hsame : ∀ entry, entry ∈ entries ↔ entry ∈ r.syscalls) (report : SetupReport) :
    (setup { r with syscalls := entries } report).run a = (setup r report).run a := by
  have hpreflight : preflight (σ := σ) { r with syscalls := entries } = preflight r := rfl
  have hplan := Request.plan_relisted htable r hsame
  rw [setup_run, setup_run, hpreflight]
  obtain ⟨failure, hrefused⟩ | ⟨id, hpassed, -⟩ := preflight_run r a
  · rw [hrefused]
  · rw [hpassed]
    dsimp only
    rw [hplan]
    rfl

/-- Whatever the facility, its state and what fails in it, a setup that works stores with its session
what the policy says: no system calls and no complaint if no event that the request stands for records
any; all of them if one does and the request lists none; otherwise those that the listed entries stand
for, if any, while the entries that stand for none are reported. All are recorded only if none is
listed, and a request that lists the same entries in another order or more often makes no difference to
the setup at all. -/
theorem setup_syscalls (htable : a.catalog.events = .ofList events) (r : Request)
    (hworks : ((setup r {}).run a).1.1 ≠ .invalid) :
    let done := (setup r {}).run a
    ∃ config, done.2.session? done.1.1 = some config ∧
      Request.SyscallOutcome a.catalog.syscalls (r.RecordsSyscalls a.catalog) r.syscalls
        config.syscallFilter done.1.2.unknownSyscalls ∧
      (config.syscallFilter = .all → r.syscalls = []) ∧
      ∀ entries, (∀ entry, entry ∈ entries ↔ entry ∈ r.syscalls) →
        (setup { r with syscalls := entries } {}).run a = done := by
  have houtcome := Request.plan_outcome htable r
  match hrun : (setup r {}).run a with
  | ((id, report), a') =>
    rw [hrun] at hworks
    obtain ⟨a₁, -, -, rfl, rfl⟩ := setup_reported hrun hworks
    have hunknown : (∅ : ExtTreeSet String) ∪ (r.plan a.catalog).unknownSyscalls =
        (r.plan a.catalog).unknownSyscalls := ExtTreeSet.ext_mem fun entry => by
      simp only [ExtTreeSet.mem_union_iff, ExtTreeSet.not_mem_empty, false_or]
    refine ⟨_, ExtTreeMap.getElem?_insert_self, ?_, houtcome.entries_eq_nil, fun entries hsame => ?_⟩
    · dsimp only
      rw [hunknown]
      exact houtcome
    · rw [setup_relisted htable hsame, hrun]

/-- One of the calls is called by a numeral, but not by its own. -/
def numeralCatalog : Catalog where
  events := .ofList smallKernel
  syscalls := .ofList [("read", 0), ("write", 1), ("7", 3)]

/-- The last entry is the first number that is too large. -/
def callEntries : List String :=
  ["write", "+5", "7", "tuxcall", "write", "18446744073709551616"]

def shuffledEntries : List String :=
  ["18446744073709551616", "7", "+5", "7", "tuxcall", "write"]

def recordEntries (entries : List String) : Request where
  events := ["raw_syscalls/*"]
  syscalls := entries

/-- Beside a session that records another call. -/
theorem setup_syscalls_callEntries :
    let a := (fresh numeralCatalog {}).after [recordCall "0"]
    let done := (setup (recordEntries callEntries) {}).run a
    a.catalog.events = .ofList smallKernel ∧ done.1.1 = ⟨2⟩ ∧
      done.1.2.unknownSyscalls.toList = ["18446744073709551616", "tuxcall"] ∧
      (setup (recordEntries shuffledEntries) {}).run a = done ∧
      ∃ config, done.2.session? ⟨2⟩ = some config ∧ config.syscallFilter = .explicit {1, 3, 5} ∧
        Request.SyscallOutcome a.catalog.syscalls
          ((recordEntries callEntries).RecordsSyscalls a.catalog) callEntries config.syscallFilter
          done.1.2.unknownSyscalls := by
  have htable : ((fresh numeralCatalog {}).after [recordCall "0"]).catalog.events =
      .ofList smallKernel :=
    congrArg Catalog.events (catalog_after _ _)
  have hrun :
      ((setup (recordEntries callEntries) {}).run
        ((fresh numeralCatalog {}).after [recordCall "0"])).1.1 = ⟨2⟩ ∧
      ((setup (recordEntries callEntries) {}).run
        ((fresh numeralCatalog {}).after [recordCall "0"])).1.2.unknownSyscalls.toList =
          ["18446744073709551616", "tuxcall"] ∧
      (((setup (recordEntries callEntries) {}).run
        ((fresh numeralCatalog {}).after [recordCall "0"])).2.session? ⟨2⟩).map
          SessionConfig.syscallFilter = some (.explicit {1, 3, 5}) := by
    decide +kernel
  obtain ⟨hid, hunknown, hfilter⟩ := hrun
  obtain ⟨config, hconfig, houtcome, -, hrelisted⟩ :=
    setup_syscalls htable (recordEntries callEntries) (by rw [hid]; decide)
  rw [hid] at hconfig
  rw [hconfig, Option.map_some, Option.some_inj] at hfilter
  have hsome : ∀ entry ∈ shuffledEntries, entry ∈ callEntries := by decide
  have hall : ∀ entry ∈ callEntries, entry ∈ shuffledEntries := by decide
  exact ⟨htable, hid, hunknown, hrelisted shuffledEntries fun entry => ⟨hsome entry, hall entry⟩,
    config, hconfig, hfilter, houtcome⟩

end Arbiter

end TraceArbiter
