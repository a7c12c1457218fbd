import TraceArbiter.Proofs.Event.Installed

/-!
# Fresh starts

A session that is set up while there is no other starts over. The write that turns every switch off
makes the beliefs about events right whatever they were before, so from then on an event counts as
installed only if this session was granted it. What earlier agents left in the files, and what an
earlier session could not turn off, does not show in what the session gets.
-/

namespace TraceArbiter

open Std

/-- What the table finds under the id of an event that it found by name is that event, however often
ids and names were given. -/
theorem EventTable.getById_of_get {events : List Event} {n : EventName} {e : Event}
    (h : (ofList events).get n = some e) : (ofList events).getById e.id = some e := by
  obtain ⟨id, -, hid⟩ := Option.bind_eq_some_iff.mp h
  obtain ⟨-, rfl⟩ := mem_of_getById hid
  exact hid

namespace Arbiter

variable {a a' : Arbiter Simulation} {events : List Event} {r : Request} {id : SessionId}

/-- The event is the one that the arbiter's table has under its id. -/
def Known (a : Arbiter Simulation) (e : Event) : Prop :=
  a.catalog.events.getById e.id = some e

theorem Known.eq_of_id {e e' : Event} (he : a.Known e) (he' : a.Known e') (hid : e.id = e'.id) :
    e = e' := by
  unfold Known at he he'
  rw [hid, he'] at he
  exact (Option.some.inj he).symm

theorem known_of_mem_plan (htable : a.catalog.events = .ofList events) {e : Event}
    (he : e ∈ (r.plan a.catalog).events) : a.Known e := by
  obtain ⟨n, -, hget⟩ := List.mem_filterMap.mp he
  unfold Known
  rw [htable] at hget ⊢
  exact EventTable.getById_of_get hget

theorem startFresh_clears (hnobody : a.sessions.isEmpty)
    (htaken : Control.allEvents ∉ a.facility.failingWrites) :
    (startFresh.run a).2.installed.events = {} ∧
      ∀ path, Simulation.isSwitch path →
        (startFresh.run a).2.facility.value? path ≠ some Control.on := by
  have htrace : Framed (· = Control.trace) id (access (σ := Simulation) Control.clearTrace) :=
    Frame.allows.writeTo _ rfl (by decide)
  unfold startFresh
  rw [state_get_bind, if_pos hnobody, state_bind, access_run]
  obtain ⟨e, hrun⟩ | ⟨s, hrun, hoff⟩ := Simulation.disableAllEvents_run a.facility
  · have hwrite := a.facility.write_run_stored Control.allEvents Control.off
    rw [if_neg htaken] at hwrite
    cases hrun.symm.trans hwrite
  · rw [hrun]
    refine ⟨rfl, fun path hpath => ?_⟩
    -- Clearing the trace comes after the switches, and is a write to none of them.
    have hkept := htrace { a with facility := s, installed := { a.installed with events := {} } }
    intro hon
    refine hoff path hpath ((hkept.facility.value?_eq path ?_).symm.trans hon)
    rintro rfl
    exact absurd hpath (by decide)

theorem completeSetup_startsOver (r : Request) (id : SessionId) (plan : Plan)
    (hnobody : a.sessions.isEmpty) (htaken : Control.allEvents ∉ a.facility.failingWrites)
    (hplan : ∀ e ∈ plan.events, a.Known e) :
    let done := ((completeSetup r id plan).run a).2
    (done.session? id).map (·.eventFilter) = some done.installed.events ∧ done.SwitchedBy a.Known := by
  intro done
  obtain ⟨hforgotten, hoff⟩ := startFresh_clears hnobody htaken
  have hclock := framed_selectClock r (startFresh.run a).2
  have hclocked : ((selectClock r).run (startFresh.run a).2).2.installed.events = {} :=
    (hclock.belief Installed.events fun _ => rfl).trans hforgotten
  have hfresh : (startFresh.run a).2.SwitchedBy a.Known := by
    intro path hpath
    refine iff_of_false (hoff path hpath) ?_
    rintro ⟨e, -, henabled, -⟩
    rw [hforgotten, EventFilter.isEnabled_empty] at henabled
    cases henabled
  have hswitched : ((selectClock r).run (startFresh.run a).2).2.SwitchedBy a.Known :=
    hfresh.of_frame hclock (by rintro _ rfl; decide) fun _ => rfl
  have hrun : done = _ := completeSetup_run r id plan a
  dsimp only at hrun
  generalize ((selectClock r).run (startFresh.run a).2).2 = clocked at *
  have hjoin := framed_joinAnnotations r ((enableEvents plan.events).run clocked).2
  have hevents : done.installed.events = ((enableEvents plan.events).run clocked).1.1 := by
    rw [hrun]
    refine (hjoin.belief Installed.events fun _ => rfl).trans (EventFilter.ext_isEnabled fun event => ?_)
    rw [isEnabled_enableEvents, hclocked, EventFilter.isEnabled_empty]
    exact or_iff_right Bool.false_ne_true
  constructor
  · rw [hevents, hrun]
    exact congrArg (Option.map _) ExtTreeMap.getElem?_insert_self
  · have hjoined := (hswitched.enableEvents (fun _ _ he he' => he.eq_of_id he') hplan).of_frame hjoin
      nofun fun _ => rfl
    rw [hrun]
    exact hjoined

/-- What the events of the table come to that have an id in the filter and a switch. -/
def switchedNames (t : EventTable) (f : EventFilter) : List String :=
  ((f.toList.filterMap t.getById).filter fun e => !e.isAlwaysOn).map (toString ·.fullName)

theorem mem_switchedNames {f : EventFilter} {text : String} :
    text ∈ switchedNames (.ofList events) f ↔ ∃ e, (EventTable.ofList events).getById e.id = some e ∧
      f.isEnabled e.id ∧ ¬e.isAlwaysOn ∧ toString e.fullName = text := by
  unfold switchedNames
  rw [List.mem_map]
  refine exists_congr fun e => ?_
  rw [List.mem_filter, List.mem_filterMap, Bool.not_eq_true', ← Bool.not_eq_true, and_assoc]
  refine Iff.trans (and_congr_left fun _ => ?_) and_assoc
  constructor
  · rintro ⟨id, hid, hget⟩
    obtain ⟨-, rfl⟩ := EventTable.mem_of_getById hget
    exact ⟨hget, (f.mem_toList _).mp hid⟩
  · rintro ⟨hget, henabled⟩
    exact ⟨e.id, (f.mem_toList _).mpr henabled, hget⟩

/-- A session that is set up while there is no other gets the facility to itself, whatever was written
to the files before and whatever the arbiter believed, if only all switches can be turned off at once:
then the installed events are those that the session was granted, and the switches that are on are
theirs. -/
theorem setup_startsOver (htable : a.catalog.events = .ofList events) (hnobody : a.sessions.isEmpty)
    (htaken : Control.allEvents ∉ a.facility.failingWrites) (report : SetupReport)
    (hworks : ((setup r report).run a).1.1 ≠ .invalid) :
    let done := (setup r report).run a
    ∃ config, done.2.session? done.1.1 = some config ∧
      done.2.installed.events = config.eventFilter ∧
      done.2.facility.enabledEvents =
        ExtTreeSet.ofList (switchedNames a.catalog.events config.eventFilter) := by
  match hrun : (setup r report).run a with
  | ((id, report'), a') =>
    rw [hrun] at hworks
    intro done
    change ∃ config, a'.session? id = some config ∧ a'.installed.events = config.eventFilter ∧
      a'.facility.enabledEvents = _
    cases setup_case hrun with
    | refused => exact absurd rfl hworks
    | undone => exact absurd rfl hworks
    | completed _ _ a₁ hid _ hdone =>
      have hframe := (framed_installEssentials r _).of_run hdone
      have hknown : a₁.Known = a.Known := by
        funext e
        unfold Known
        rw [hframe.catalog]
      have hover := completeSetup_startsOver r id (r.plan a.catalog)
        (by rw [hframe.sessions]; exact hnobody)
        (by rw [hframe.facility.failingWrites_eq]; exact htaken)
        (by rw [hknown]; exact fun e he => known_of_mem_plan htable he)
      rw [hknown] at hover
      obtain ⟨hgranted, hswitched⟩ := hover
      obtain ⟨config, hconfig, hevents⟩ := Option.map_eq_some_iff.mp hgranted
      refine ⟨config, hconfig, hevents.symm, ?_⟩
      rw [hevents]
      ext text
      rw [hswitched.mem_enabledEvents, ExtTreeSet.mem_ofList, List.contains_eq_mem, decide_eq_true_eq,
        htable, mem_switchedNames]
      unfold Known
      rw [htable]

/-- One id and one full name are given twice. -/
def doubledKernel : List Event :=
  [⟨1, "sched", "sched_switch"⟩, ⟨2, "sched", "sched_waking"⟩, ⟨2, "sched", "sched_wakeup"⟩,
    ⟨4, "sched", "sched_switch"⟩]

/-- An event cannot be turned off when its session goes, somebody else turns it off, and somebody else
leaves another one on. -/
def leftover : List Step :=
  [.setup { events := ["sched/*"] } {}, .rig (.failWritesTo "events/sched/sched_wakeup/enable"),
    .remove ⟨1⟩, .rig .clearFailures, .poke "events/sched/sched_wakeup/enable" "0",
    .poke "events/irq/irq_handler_entry/enable" "1"]

def wakingRequest : Request where
  events := ["sched/sched_waking", "sched/sched_switch"]

theorem setup_startsOver_leftover :
    let a := (fresh ⟨.ofList doubledKernel, {}, {}⟩ {}).after leftover
    let done := (setup wakingRequest {}).run a
    a.sessions.isEmpty ∧ a.installed.events.toList = [2] ∧
      a.facility.enabledEvents.toList = ["irq/irq_handler_entry"] ∧
      done.1.1 = ⟨2⟩ ∧ done.2.installed.events.toList = [2, 4] ∧
      done.2.facility.enabledEvents =
        ExtTreeSet.ofList ["sched/sched_wakeup", "sched/sched_switch"] := by
  have hruns :
      ((fresh ⟨.ofList doubledKernel, {}, {}⟩ {}).after leftover).sessions.isEmpty ∧
      ((fresh ⟨.ofList doubledKernel, {}, {}⟩ {}).after leftover).installed.events.toList = [2] ∧
      ((fresh ⟨.ofList doubledKernel, {}, {}⟩ {}).after leftover).facility.enabledEvents.toList =
        ["irq/irq_handler_entry"] ∧
      Control.allEvents ∉
        ((fresh ⟨.ofList doubledKernel, {}, {}⟩ {}).after leftover).facility.failingWrites ∧
      ((setup wakingRequest {}).run
        ((fresh ⟨.ofList doubledKernel, {}, {}⟩ {}).after leftover)).1.1 = ⟨2⟩ ∧
      ((setup wakingRequest {}).run
        ((fresh ⟨.ofList doubledKernel, {}, {}⟩ {}).after leftover)).2.installed.events.toList =
          [2, 4] := by
    decide +kernel
  have hnames : (([2, 4].filterMap (EventTable.ofList doubledKernel).getById).filter
      fun e => !e.isAlwaysOn).map (toString ·.fullName) =
        ["sched/sched_wakeup", "sched/sched_switch"] := by
    decide +kernel
  obtain ⟨hnobody, hstale, hleft, htaken, hid, hinstalled⟩ := hruns
  have htable : ((fresh ⟨.ofList doubledKernel, {}, {}⟩ {}).after leftover).catalog.events =
      .ofList doubledKernel := congrArg Catalog.events (catalog_after _ leftover)
  obtain ⟨config, -, hevents, henabled⟩ := setup_startsOver htable hnobody htaken {}
    (r := wakingRequest) (by rw [hid]; decide)
  rw [← hevents, htable, switchedNames, hinstalled, hnames] at henabled
  exact ⟨hnobody, hstale, hleft, hid, hinstalled, henabled⟩

end Arbiter

end TraceArbiter
