import TraceArbiter.Proofs.Event.FreshStart

/-!
# Every event is accounted for

What becomes of each name that a request stands for. A name that the table does not have is reported
as unknown. An event that the table has is granted, unless it is off, has a switch and the switch
cannot be written; then it is reported as failed. No two events of a request share an id, so enabling
one does not decide about another, and no report is about two of them because names without slashes
can be told from their spelling.
-/

namespace TraceArbiter

open Std

variable {events : List Event} {r : Request} {catalog : Catalog}

/-! ### What a plan holds -/

theorem Request.mem_plan_events {e : Event} :
    e ∈ (r.plan catalog).events ↔
      ∃ n ∈ r.resolve catalog.events catalog.vendor, catalog.events.get n = some e := by
  unfold Request.plan
  simp only [List.mem_filterMap, ExtTreeSet.mem_toList]

theorem Request.exists_mem_plan {p : Event → Prop} :
    (∃ e ∈ (r.plan catalog).events, p e) ↔
      ∃ n ∈ r.resolve catalog.events catalog.vendor, ∃ e, catalog.events.get n = some e ∧ p e := by
  constructor
  · rintro ⟨e, he, hp⟩
    obtain ⟨n, hn, hget⟩ := Request.mem_plan_events.mp he
    exact ⟨n, hn, e, hget, hp⟩
  · rintro ⟨n, hn, e, hget, hp⟩
    exact ⟨e, Request.mem_plan_events.mpr ⟨n, hn, hget⟩, hp⟩

theorem Request.mem_plan_unknownEvents {text : String} :
    text ∈ (r.plan catalog).unknownEvents ↔
      ∃ n ∈ r.resolve catalog.events catalog.vendor, catalog.events.get n = none ∧
        toString n = text := by
  unfold Request.plan
  simp only [ExtTreeSet.mem_ofList, List.contains_eq_mem, decide_eq_true_eq, List.mem_map,
    List.mem_filter, ExtTreeSet.mem_toList, Option.isNone_iff_eq_none, and_assoc]

/-- A plan never has two events with one id. -/
theorem Request.nodup_plan_events (hids : (events.map Event.id).Nodup)
    (htable : catalog.events = .ofList events) : ((r.plan catalog).events.map Event.id).Nodup := by
  have hnames : (r.resolve catalog.events catalog.vendor).toList.Nodup := by
    have hdistinct : (r.resolve catalog.events catalog.vendor).toList.Pairwise
        fun m n => ¬compare m n = .eq := ExtTreeSet.distinct_toList
    refine hdistinct.imp ?_
    rintro m n hne rfl
    exact hne compare_self
  refine List.Nodup.map_on ?_ (hnames.filterMap ?_)
  · intro e he e' he' hid
    exact List.inj_on_of_nodup_map hids (Arbiter.mem_of_mem_plan htable he)
      (Arbiter.mem_of_mem_plan htable he') hid
  · intro m n e hm hn
    rw [htable] at hm hn
    rw [← EventTable.fullName_of_get hids hm, ← EventTable.fullName_of_get hids hn]

namespace Arbiter

variable {a a' : Arbiter Simulation}

/-! ### Enabling events -/

/-- The event is not among those that are on, has a switch, and its switch cannot be written. -/
def Refuses (on : EventFilter) (s : Simulation) (e : Event) : Prop :=
  ¬on.isEnabled e.id ∧ ¬e.isAlwaysOn ∧ Control.eventSwitch e.fullName ∈ s.failingWrites

theorem enableEvent_eq_true_iff {e : Event} :
    ((enableEvent e).run a).1 = true ↔ ¬Refuses a.installed.events a.facility e := by
  rw [enableEvent_run]
  unfold Refuses
  split
  · simp [*]
  split
  · simp [*]
  split <;> simp [*]

/-- Enabling an event decides about no event with another id. -/
theorem refuses_enableEvent {e e' : Event} (hne : e.id ≠ e'.id) :
    Refuses ((enableEvent e).run a).2.installed.events ((enableEvent e).run a).2.facility e' ↔
      Refuses a.installed.events a.facility e' := by
  unfold Refuses
  rw [isEnabled_enableEvent, (Frame.allows.enableEvent e a).facility.failingWrites_eq,
    or_iff_left fun h => hne h.2]

/-- Of events with different ids, those are granted that are not refused. -/
theorem enableEvents_grants (hids : (events.map Event.id).Nodup) :
    (∀ id, ((enableEvents events).run a).1.1.isEnabled id ↔
      ∃ e ∈ events, ¬Refuses a.installed.events a.facility e ∧ e.id = id) ∧
    ∀ e, e ∈ ((enableEvents events).run a).1.2 ↔
      e ∈ events ∧ Refuses a.installed.events a.facility e := by
  induction events generalizing a with
  | nil =>
    refine ⟨fun id => iff_of_false ?_ (by simp), fun e => iff_of_false ?_ (by simp)⟩
    · change ¬({} : EventFilter).isEnabled id
      rw [EventFilter.isEnabled_empty]
      exact Bool.false_ne_true
    · exact List.not_mem_nil
  | cons first events ih =>
    obtain ⟨hnew, hrest⟩ := List.nodup_cons.mp hids
    have hother : ∀ e ∈ events,
        (Refuses ((enableEvent first).run a).2.installed.events
          ((enableEvent first).run a).2.facility e ↔ Refuses a.installed.events a.facility e) := by
      intro e he
      refine refuses_enableEvent fun hid => hnew ?_
      rw [hid]
      exact List.mem_map_of_mem he
    obtain ⟨hgranted, hrefused⟩ := ih (a := ((enableEvent first).run a).2) hrest
    rw [enableEvents_cons_run]
    dsimp only
    constructor
    · intro id
      have hothers : (∃ e ∈ events, ¬Refuses ((enableEvent first).run a).2.installed.events
          ((enableEvent first).run a).2.facility e ∧ e.id = id) ↔
          ∃ e ∈ events, ¬Refuses a.installed.events a.facility e ∧ e.id = id :=
        exists_congr fun e => and_congr_right fun he => by rw [hother e he]
      by_cases hon : ((enableEvent first).run a).1
      · rw [if_pos hon, EventFilter.isEnabled_add, hgranted, hothers, List.exists_mem_cons_iff,
          and_iff_right (enableEvent_eq_true_iff.mp hon)]
      · rw [if_neg hon, hgranted, hothers, List.exists_mem_cons_iff]
        exact (or_iff_right fun h => hon (enableEvent_eq_true_iff.mpr h.1)).symm
    · intro e
      have hothers : e ∈ events ∧ Refuses ((enableEvent first).run a).2.installed.events
          ((enableEvent first).run a).2.facility e ↔
          e ∈ events ∧ Refuses a.installed.events a.facility e :=
        and_congr_right (hother e)
      by_cases hon : ((enableEvent first).run a).1
      · rw [if_pos hon, hrefused, hothers, List.mem_cons, or_and_right]
        refine (or_iff_right ?_).symm
        rintro ⟨rfl, hrefuses⟩
        exact enableEvent_eq_true_iff.mp hon hrefuses
      · have hrefuses : Refuses a.installed.events a.facility first :=
          not_not.mp fun h => hon (enableEvent_eq_true_iff.mpr h)
        rw [if_neg hon, List.mem_cons, hrefused, hothers, List.mem_cons, or_and_right]
        refine or_congr_left (and_iff_left_of_imp ?_).symm
        rintro rfl
        exact hrefuses

/-! ### Setups -/

/-- The events that count as on when a setup comes to its own: none after a fresh start that could
turn all of them off, otherwise those that are installed. -/
def eventsAtHand (a : Arbiter Simulation) : EventFilter :=
  if a.sessions.isEmpty ∧ Control.allEvents ∉ a.facility.failingWrites then {}
  else a.installed.events

theorem startFresh_atHand (a : Arbiter Simulation) :
    (startFresh.run a).2.installed.events = a.eventsAtHand := by
  unfold eventsAtHand
  by_cases hnobody : a.sessions.isEmpty
  · by_cases hrefused : Control.allEvents ∈ a.facility.failingWrites
    · have hwrite := a.facility.write_run_stored Control.allEvents Control.off
      rw [if_pos hrefused] at hwrite
      rw [if_neg fun h => h.2 hrefused]
      unfold startFresh Control.disableAllEvents
      rw [state_get_bind, if_pos hnobody, state_bind, access_run, hwrite]
      rfl
    · rw [if_pos ⟨hnobody, hrefused⟩]
      exact (startFresh_clears hnobody hrefused).1
  · rw [if_neg fun h => hnobody h.1, startFresh_run hnobody]

/-- The state in which a setup comes to its own events. -/
def beforeEnabling (r : Request) (a : Arbiter Simulation) : Arbiter Simulation :=
  ((selectClock r).run (startFresh.run a).2).2

/-- Once its essentials are installed, a setup changes the events by a fresh start only before it
comes to its own. -/
theorem refuses_beforeEnabling {a₁ : Arbiter Simulation} {filter : SyscallFilter}
    (hdone : (installEssentials r filter).run.run a = (.ok (), a₁)) (e : Event) :
    Refuses (a₁.beforeEnabling r).installed.events (a₁.beforeEnabling r).facility e ↔
      Refuses a.eventsAtHand a.facility e := by
  have hessentials := (framed_installEssentials r filter).of_run hdone
  have hclock : Frame _ Installed.withoutClock _ (a₁.beforeEnabling r) :=
    framed_selectClock r (startFresh.run a₁).2
  have hfailing : (a₁.beforeEnabling r).facility.failingWrites = a.facility.failingWrites := by
    rw [hclock.facility.failingWrites_eq, (framed_startFresh a₁).facility.failingWrites_eq,
      hessentials.facility.failingWrites_eq]
  have hatHand : a₁.eventsAtHand = a.eventsAtHand := by
    unfold eventsAtHand
    rw [hessentials.sessions, hessentials.facility.failingWrites_eq,
      hessentials.belief Installed.events fun _ => rfl]
  have hevents : (a₁.beforeEnabling r).installed.events = a.eventsAtHand := by
    calc
      (a₁.beforeEnabling r).installed.events = (startFresh.run a₁).2.installed.events :=
        hclock.belief Installed.events fun _ => rfl
      _ = a₁.eventsAtHand := startFresh_atHand a₁
      _ = a.eventsAtHand := hatHand
  unfold Refuses
  rw [hevents, hfailing]

theorem completeSetup_enables (r : Request) (id : SessionId) (plan : Plan) (a : Arbiter Simulation) :
    let enabled := ((enableEvents plan.events).run (a.beforeEnabling r)).1
    ∃ config, ((completeSetup r id plan).run a).2.session? id = some config ∧
      config.eventFilter = enabled.1 ∧
      ((completeSetup r id plan).run a).1.1 = enabled.2.map (toString ·.fullName) :=
  ⟨_, ExtTreeMap.getElem?_insert_self, rfl, rfl⟩

/-! ### What becomes of the names -/

/-- What a setup has granted of the names of its request and what it has reported of them, each in
full. -/
structure EventOutcome (table : EventTable) (names : ExtTreeSet EventName) (refuses : Event → Prop)
    (granted : EventFilter) (report : SetupReport) : Prop where
  granted_iff : ∀ id, granted.isEnabled id ↔
    ∃ n ∈ names, ∃ e, table.get n = some e ∧ ¬refuses e ∧ e.id = id
  failed_iff : ∀ text, text ∈ report.failedEvents ↔
    ∃ n ∈ names, ∃ e, table.get n = some e ∧ refuses e ∧ toString n = text
  unknown_iff : ∀ text, text ∈ report.unknownEvents ↔
    ∃ n ∈ names, table.get n = none ∧ toString n = text

theorem setup_outcome (hids : (events.map Event.id).Nodup) (htable : a.catalog.events = .ofList events)
    (hworks : ((setup r {}).run a).1.1 ≠ .invalid) :
    let done := (setup r {}).run a
    ∃ config, done.2.session? done.1.1 = some config ∧
      EventOutcome a.catalog.events (r.resolve a.catalog.events a.catalog.vendor)
        (Refuses a.eventsAtHand a.facility) config.eventFilter done.1.2 := by
  match hrun : (setup r {}).run a with
  | ((id, report'), a') =>
    rw [hrun] at hworks
    obtain ⟨a₁, -, hdone, rfl, rfl⟩ := setup_reported hrun hworks
    obtain ⟨config, hconfig, hfilter, hnames⟩ :=
      completeSetup_enables r id (r.plan a.catalog) a₁
    obtain ⟨hgranted, hrefused⟩ := enableEvents_grants (a := a₁.beforeEnabling r)
      (Request.nodup_plan_events (r := r) hids htable)
    have hnothing : ∀ text, text ∉ (∅ : ExtTreeSet String) := fun _ => ExtTreeSet.not_mem_empty
    refine ⟨config, hconfig, fun id => ?_, fun text => ?_, fun text => ?_⟩
    · rw [hfilter, hgranted, ← Request.exists_mem_plan]
      simp only [refuses_beforeEnabling hdone]
    · change text ∈ (∅ : ExtTreeSet String).insertMany _ ↔ _
      rw [hnames, ExtTreeSet.mem_insertMany_list, or_iff_right (hnothing text),
        List.contains_eq_mem, decide_eq_true_eq, List.mem_map]
      simp only [hrefused, refuses_beforeEnabling hdone, and_assoc, Request.exists_mem_plan]
      refine exists_congr fun n => and_congr_right fun _ => exists_congr fun e =>
        and_congr_right fun hget => ?_
      rw [htable] at hget
      rw [EventTable.fullName_of_get hids hget]
    · change text ∈ (∅ : ExtTreeSet String) ∪ _ ↔ _
      rw [ExtTreeSet.mem_union_iff, or_iff_right (hnothing text), Request.mem_plan_unknownEvents]

/-- What becomes of a name that a request stands for. Of the three cases, each excludes the others. -/
inductive Accounted (table : EventTable) (granted : EventFilter) (report : SetupReport)
    (n : EventName) : Prop
  | unknown (hget : table.get n = none) (hunknown : toString n ∈ report.unknownEvents)
      (hfailed : toString n ∉ report.failedEvents)
  | failed (e : Event) (hget : table.get n = some e) (hgranted : ¬granted.isEnabled e.id)
      (hfailed : toString n ∈ report.failedEvents) (hunknown : toString n ∉ report.unknownEvents)
  | granted (e : Event) (hget : table.get n = some e) (hgranted : granted.isEnabled e.id)
      (hfailed : toString n ∉ report.failedEvents) (hunknown : toString n ∉ report.unknownEvents)

/-- After an empty report there is nothing left but to be granted. -/
theorem Accounted.of_isEmpty {table : EventTable} {granted : EventFilter} {report : SetupReport}
    {n : EventName} (h : Accounted table granted report n) (hempty : report.isEmpty) :
    ∃ e, table.get n = some e ∧ granted.isEnabled e.id := by
  have hnothing : report.unknownEvents = ∅ ∧ report.failedEvents = ∅ := by
    unfold SetupReport.isEmpty at hempty
    simp only [Bool.and_eq_true, ExtTreeSet.isEmpty_iff] at hempty
    exact hempty.1.1.1
  cases h with
  | unknown _ hmem =>
    rw [hnothing.1] at hmem
    exact absurd hmem ExtTreeSet.not_mem_empty
  | failed _ _ _ hmem =>
    rw [hnothing.2] at hmem
    exact absurd hmem ExtTreeSet.not_mem_empty
  | granted e hget henabled => exact ⟨e, hget, henabled⟩

namespace EventOutcome

variable {names : ExtTreeSet EventName} {refuses : Event → Prop} {granted : EventFilter}
  {report : SetupReport} {m n : EventName} {e : Event}

theorem isEnabled_iff (h : EventOutcome (.ofList events) names refuses granted report)
    (hids : (events.map Event.id).Nodup) (hn : n ∈ names)
    (hget : (EventTable.ofList events).get n = some e) :
    granted.isEnabled e.id ↔ ¬refuses e := by
  rw [h.granted_iff]
  constructor
  · rintro ⟨m, -, e', hget', hon, hid⟩
    rwa [← List.inj_on_of_nodup_map hids (EventTable.mem_of_get hget') (EventTable.mem_of_get hget)
      hid]
  · intro hon
    exact ⟨n, hn, e, hget, hon, rfl⟩

section Spelling

variable (h : EventOutcome (.ofList events) names refuses granted report)
  (hids : (events.map Event.id).Nodup)
  (hslash : ∀ e ∈ events, '/' ∉ e.group.toList ∧ '/' ∉ e.name.toList)

include hids hslash

/-- No other name is spelled like one that the table has. -/
theorem eq_of_toString (hget : (EventTable.ofList events).get n = some e)
    (hspelling : toString m = toString n) : m = n := by
  obtain rfl := EventTable.fullName_of_get hids hget
  obtain ⟨hgroup, hname⟩ := hslash e (EventTable.mem_of_get hget)
  exact (toString_inj hgroup hname hspelling.symm).symm

include h

theorem mem_failedEvents_iff (hn : n ∈ names)
    (hget : (EventTable.ofList events).get n = some e) :
    toString n ∈ report.failedEvents ↔ refuses e := by
  rw [h.failed_iff]
  constructor
  · rintro ⟨m, -, e', hget', hrefuses, hspelling⟩
    rw [eq_of_toString hids hslash hget hspelling, hget] at hget'
    cases hget'
    exact hrefuses
  · intro hrefuses
    exact ⟨n, hn, e, hget, hrefuses, rfl⟩

theorem not_mem_unknownEvents (hget : (EventTable.ofList events).get n = some e) :
    toString n ∉ report.unknownEvents := by
  rw [h.unknown_iff]
  rintro ⟨m, -, hnone, hspelling⟩
  rw [eq_of_toString hids hslash hget hspelling] at hnone
  cases hget.symm.trans hnone

theorem accounted (hn : n ∈ names) : Accounted (.ofList events) granted report n := by
  cases hget : (EventTable.ofList events).get n with
  | none =>
    refine .unknown hget ((h.unknown_iff _).mpr ⟨n, hn, hget, rfl⟩) fun hmem => ?_
    obtain ⟨m, -, e, hget', -, hspelling⟩ := (h.failed_iff _).mp hmem
    rw [← eq_of_toString hids hslash hget' hspelling.symm] at hget'
    cases hget.symm.trans hget'
  | some e =>
    have hunknown := h.not_mem_unknownEvents hids hslash hget
    have hfailed := h.mem_failedEvents_iff hids hslash hn hget
    have hon := h.isEnabled_iff hids hn hget
    by_cases hrefuses : refuses e
    · exact .failed e hget (fun henabled => hon.mp henabled hrefuses) (hfailed.mpr hrefuses) hunknown
    · exact .granted e hget (hon.mpr hrefuses) (fun hmem => hrefuses (hfailed.mp hmem)) hunknown

end Spelling

end EventOutcome

/-- Whatever the state and whatever fails, a setup that works accounts for every name that its request
stands for in exactly one way: the table does not have the event and it is reported as unknown, or it
is reported as failed, because it was off, has a switch and the switch could not be written, or the
session was granted it. Nothing else is granted or reported, so after an empty report the session has
every event that it asked for. -/
theorem setup_accounts (hids : (events.map Event.id).Nodup)
    (hslash : ∀ e ∈ events, '/' ∉ e.group.toList ∧ '/' ∉ e.name.toList)
    (htable : a.catalog.events = .ofList events) (r : Request)
    (hworks : ((setup r {}).run a).1.1 ≠ .invalid) :
    let done := (setup r {}).run a
    let table := a.catalog.events
    let names := r.resolve table a.catalog.vendor
    ∃ config, done.2.session? done.1.1 = some config ∧
      (∀ n ∈ names, Accounted table config.eventFilter done.1.2 n) ∧
      (∀ n ∈ names, ∀ e, table.get n = some e →
        (toString n ∈ done.1.2.failedEvents ↔ Refuses a.eventsAtHand a.facility e)) ∧
      (∀ id, config.eventFilter.isEnabled id → ∃ n ∈ names, ∃ e, table.get n = some e ∧ e.id = id) ∧
      (∀ text ∈ done.1.2.unknownEvents, ∃ n ∈ names, table.get n = none ∧ toString n = text) ∧
      (∀ text ∈ done.1.2.failedEvents, ∃ n ∈ names, ∃ e, table.get n = some e ∧
        ¬config.eventFilter.isEnabled e.id ∧ toString n = text) ∧
      (done.1.2.isEmpty → ∀ n ∈ names, ∃ e, table.get n = some e ∧
        config.eventFilter.isEnabled e.id) := by
  obtain ⟨config, hconfig, hout⟩ := setup_outcome hids htable hworks
  rw [htable] at hout ⊢
  intro done table names
  have haccounted : ∀ n ∈ names, Accounted table config.eventFilter done.1.2 n :=
    fun n hn => hout.accounted hids hslash hn
  refine ⟨config, hconfig, haccounted, ?_, ?_, ?_, ?_, fun hempty n hn =>
    (haccounted n hn).of_isEmpty hempty⟩
  · intro n hn e hget
    exact hout.mem_failedEvents_iff hids hslash hn hget
  · intro id henabled
    obtain ⟨n, hn, e, hget, -, hid⟩ := (hout.granted_iff id).mp henabled
    exact ⟨n, hn, e, hget, hid⟩
  · intro text hmem
    exact (hout.unknown_iff text).mp hmem
  · intro text hmem
    obtain ⟨n, hn, e, hget, hrefuses, hspelling⟩ := (hout.failed_iff text).mp hmem
    refine ⟨n, hn, e, hget, fun henabled => ?_, hspelling⟩
    exact (hout.isEnabled_iff hids hn hget).mp henabled hrefuses

/-- A session records an event, and then no event of its group can be turned on any more. -/
def lockedGroup : List Step :=
  [.setup { events := ["sched/sched_waking"] } {},
    .rig (.failWritesTo "events/sched/sched_waking/enable"),
    .rig (.failWritesTo "events/sched/sched_switch/enable")]

/-- A whole group, an event without a switch and one that the kernel does not have. -/
def mixedRequest : Request where
  events := ["sched/*", "ftrace/print", "irq/softirq_entry"]

/-- The event that is on already needs no write, so only the other one of its group is refused. -/
theorem setup_accounts_lockedGroup :
    let a := (fresh smallCatalog {}).after lockedGroup
    let done := (setup mixedRequest {}).run a
    (smallKernel.map Event.id).Nodup ∧
      (∀ e ∈ smallKernel, '/' ∉ e.group.toList ∧ '/' ∉ e.name.toList) ∧
      a.catalog.events = .ofList smallKernel ∧ done.1.1 = ⟨2⟩ ∧
      done.1.2.unknownEvents.toList = ["irq/softirq_entry"] ∧
      done.1.2.failedEvents.toList = ["sched/sched_switch"] ∧
      ∃ config, done.2.session? ⟨2⟩ = some config ∧
        (∀ n ∈ [⟨"sched", "sched_switch"⟩, ⟨"sched", "sched_waking"⟩, ⟨"ftrace", "print"⟩,
            ⟨"irq", "softirq_entry"⟩],
          Accounted smallCatalog.events config.eventFilter done.1.2 n) ∧
        Refuses a.eventsAtHand a.facility ⟨1, "sched", "sched_switch"⟩ ∧
        ¬Refuses a.eventsAtHand a.facility ⟨2, "sched", "sched_waking"⟩ := by
  have hids : (smallKernel.map Event.id).Nodup := by decide
  have hslash : ∀ e ∈ smallKernel, '/' ∉ e.group.toList ∧ '/' ∉ e.name.toList := by decide +kernel
  have hcatalog : ((fresh smallCatalog {}).after lockedGroup).catalog = smallCatalog :=
    catalog_after _ lockedGroup
  have htable : ((fresh smallCatalog {}).after lockedGroup).catalog.events = .ofList smallKernel :=
    congrArg Catalog.events hcatalog
  have hrun :
      ((setup mixedRequest {}).run ((fresh smallCatalog {}).after lockedGroup)).1.1 = ⟨2⟩ ∧
      ((setup mixedRequest {}).run
        ((fresh smallCatalog {}).after lockedGroup)).1.2.unknownEvents.toList =
          ["irq/softirq_entry"] ∧
      ((setup mixedRequest {}).run
        ((fresh smallCatalog {}).after lockedGroup)).1.2.failedEvents.toList =
          ["sched/sched_switch"] := by
    decide +kernel
  have hnames : ∀ n ∈ [⟨"sched", "sched_switch"⟩, ⟨"sched", "sched_waking"⟩, ⟨"ftrace", "print"⟩,
      ⟨"irq", "softirq_entry"⟩], n ∈ mixedRequest.resolve smallCatalog.events smallCatalog.vendor := by
    decide +kernel
  have hswitch : smallCatalog.events.get ⟨"sched", "sched_switch"⟩ =
      some ⟨1, "sched", "sched_switch"⟩ := by
    decide +kernel
  have hwaking : smallCatalog.events.get ⟨"sched", "sched_waking"⟩ =
      some ⟨2, "sched", "sched_waking"⟩ := by
    decide +kernel
  obtain ⟨hid, hunknown, hfailed⟩ := hrun
  obtain ⟨config, hconfig, haccounted, hrefused, -⟩ :=
    setup_accounts hids hslash htable mixedRequest (by rw [hid]; decide)
  rw [hid] at hconfig
  rw [hcatalog] at haccounted hrefused
  have hswitchFailed := hrefused _ (hnames _ (by decide)) _ hswitch
  have hwakingFailed := hrefused _ (hnames _ (by decide)) _ hwaking
  rw [← ExtTreeSet.mem_toList, hfailed] at hswitchFailed hwakingFailed
  exact ⟨hids, hslash, htable, hid, hunknown, hfailed, config, hconfig,
    fun n hn => haccounted n (hnames n hn), hswitchFailed.mp (by decide),
    fun h => absurd (hwakingFailed.mpr h) (by decide)⟩

end Arbiter

end TraceArbiter
