import TraceArbiter.Proofs.Arbiter.RemovalRefusals

/-!
# Events after a removal

A removal turns off the events that nobody records any more, so what is installed after it is what the
remaining sessions record and the events whose switches refused to be turned off. Setups install just
what they grant. Where no switch is refused, the installed events are therefore those that the
sessions record, by whatever setups and removals the sessions came about.
-/

namespace TraceArbiter

open Std

namespace Arbiter

variable {a a' : Arbiter Simulation} {id : SessionId}

/-! ### One removal -/

/-- After a removal those events are installed that are recorded then or whose switches are locked, of
the ones installed before. -/
theorem isEnabled_remove (hregistered : a.isRegistered id) (event : EventId) :
    ((remove id).run a).2.installed.events.isEnabled event ↔
      a.installed.events.isEnabled event ∧
        ((unionOfEvents ((remove id).run a).2.configs).isEnabled event ∨
          (a.lockedSwitch? event).isSome) := by
  have hbefore := frame_beforeEvents a id
  have hevents : (a.beforeEvents id).installed.events = a.installed.events :=
    hbefore.belief Installed.events fun _ => rfl
  have hlocked : (a.beforeEvents id).lockedSwitch? = a.lockedSwitch? := hbefore.lockedSwitch?
  rw [configs_remove hregistered, remove_registered_run hregistered]
  rw [(frame_deactivate id _).installed, shrinkEvents_run, isEnabled_disableEvents,
    mem_staleEvents, hevents, hbefore.configs, hlocked]
  refine and_congr_right fun henabled => ?_
  rw [and_iff_right henabled, Decidable.not_not]

/-- A removal was refused the write that would have turned the event off, though nobody records it any
more. -/
structure Stuck (a : Arbiter Simulation) (id : SessionId) (event : EventId) : Prop where
  installed : a.installed.events.isEnabled event
  unwanted : ¬(unionOfEvents ((remove id).run a).2.configs).isEnabled event
  refused : ∃ e, a.catalog.events.getById event = some e ∧ ¬e.isAlwaysOn ∧
    Control.eventSwitch e.fullName ∈ refusedWrites (remove id) a

theorem stuck_iff (hregistered : a.isRegistered id) {event : EventId} :
    a.Stuck id event ↔ a.installed.events.isEnabled event ∧
      ¬(unionOfEvents ((remove id).run a).2.configs).isEnabled event ∧
        (a.lockedSwitch? event).isSome := by
  constructor
  · rintro ⟨hinstalled, hunwanted, e, he, hswitched, hrefused⟩
    have hfails := mem_failingWrites_of_refused hrefused
    have hlocked := lockedSwitch?_eq_some.mpr ⟨e, he, hswitched, hfails, rfl⟩
    exact ⟨hinstalled, hunwanted, Option.isSome_iff_exists.mpr ⟨_, hlocked⟩⟩
  · rintro ⟨hinstalled, hunwanted, hlocked⟩
    obtain ⟨path, hpath⟩ := Option.isSome_iff_exists.mp hlocked
    obtain ⟨e, he, hswitched, -, rfl⟩ := lockedSwitch?_eq_some.mp hpath
    refine ⟨hinstalled, hunwanted, e, he, hswitched, ?_⟩
    rw [configs_remove hregistered] at hunwanted
    have hstale : event ∈ (a.without id).staleEvents := mem_staleEvents.mpr ⟨hinstalled, hunwanted⟩
    obtain ⟨filters, -, hrefused⟩ := refusedWrites_remove hregistered
    rw [hrefused]
    refine List.mem_append_left _ (List.mem_append_right _ ?_)
    exact List.mem_filterMap.mpr ⟨event, hstale, hpath⟩

theorem GrantsInstalled.isEnabled_of_union (ha : a.GrantsInstalled) {event : EventId}
    (h : (unionOfEvents a.configs).isEnabled event) : a.installed.events.isEnabled event := by
  obtain ⟨config, hmem, hgranted⟩ := (isEnabled_unionOfEvents _ _).mp h
  obtain ⟨id, hconfig⟩ := mem_configs.mp hmem
  exact ha id config hconfig event hgranted

theorem isEnabled_remove_of_grants (ha : a.GrantsInstalled) (hregistered : a.isRegistered id)
    (event : EventId) :
    ((remove id).run a).2.installed.events.isEnabled event ↔
      (unionOfEvents ((remove id).run a).2.configs).isEnabled event ∨ a.Stuck id event := by
  rw [isEnabled_remove hregistered, stuck_iff hregistered]
  by_cases hwanted : (unionOfEvents ((remove id).run a).2.configs).isEnabled event
  · have hinstalled : a.installed.events.isEnabled event := by
      rw [configs_remove hregistered] at hwanted
      exact (ha.without id).isEnabled_of_union hwanted
    simp [hwanted, hinstalled]
  · -- An event that nobody records any more is left only if its switch is locked.
    simp [hwanted]

/-! ### Runs without stuck events -/

structure EventsExact (a : Arbiter Simulation) : Prop where
  installed : a.installed.events = unionOfEvents a.configs
  ids : a.IdsAllotted

theorem events_startFresh (h : a.installed.events = unionOfEvents a.configs) :
    (startFresh.run a).2.installed.events = a.installed.events := by
  have hclear : ∀ b : Arbiter Simulation,
      ((access Control.clearTrace).run b).2.installed.events = b.installed.events := fun _ => rfl
  unfold startFresh
  rw [state_get_bind]
  split
  · next hnobody =>
    have hempty : a.installed.events = {} := by
      rw [h, configs, ExtTreeMap.isEmpty_iff.mp hnobody]
      rfl
    rw [state_bind, access_run]
    obtain ⟨e, hrun⟩ | ⟨s, hrun, -⟩ := Simulation.disableAllEvents_run a.facility
    · rw [hrun]
      rfl
    · rw [hrun, hempty]
      rfl
  · rfl

namespace EventsExact

theorem fresh (catalog : Catalog) (settings : Settings) :
    (Arbiter.fresh catalog settings).EventsExact :=
  ⟨rfl, fun _ _ hconfig => nomatch hconfig⟩

theorem of_frame {P : String → Prop} {view : Installed → Installed} {active : ExtTreeSet SessionId}
    (ha : a.EventsExact) (h : Frame P view { a with active } a')
    (hview : ∀ i, (view i).events = i.events) : a'.EventsExact := by
  refine ⟨?_, ha.ids.of_frame h⟩
  rw [h.belief Installed.events hview, h.configs]
  exact ha.installed

theorem completeSetup (ha : a.EventsExact) (r : Request) (plan : Plan)
    (hid : a.lastId.next? = some id) : ((completeSetup r id plan).run a).2.EventsExact := by
  refine ⟨EventFilter.ext_isEnabled fun event => ?_, ha.ids.completeSetup r plan hid⟩
  have hfresh := framed_startFresh a
  have hclock := framed_selectClock r (startFresh.run a).2
  have hevents := (hclock.belief Installed.events fun _ => rfl).trans (events_startFresh ha.installed)
  have hsessions := hclock.sessions.trans hfresh.sessions
  have henable := framed_enableEvents plan.events ((selectClock r).run (startFresh.run a).2).2
  rw [completeSetup_run]
  dsimp only
  generalize ((selectClock r).run (startFresh.run a).2).2 = clocked at *
  have hjoin := framed_joinAnnotations r ((enableEvents plan.events).run clocked).2
  rw [hjoin.belief Installed.events fun _ => rfl, isEnabled_enableEvents, hevents, ha.installed]
  rw [isEnabled_unionOfEvents, isEnabled_unionOfEvents,
    hjoin.sessions.trans (henable.sessions.trans hsessions)]
  change _ ↔ ∃ c ∈ (a.sessions.insert id _).toList.map (·.2), c.eventFilter.isEnabled event
  simp only [(configs_insert (ha.ids.session?_next hid)).mem_iff, List.mem_cons, exists_eq_or_imp]
  exact or_comm

theorem setup (ha : a.EventsExact) (r : Request) (report : SetupReport) :
    ((setup r report).run a).2.EventsExact := by
  match hrun : (Arbiter.setup r report).run a with
  | ((id, report'), a') =>
    cases setup_case hrun with
    | refused => exact ha
    | undone _ _ _ _ _ hundone =>
      exact ha.of_frame ((framed_installEssentials r _).of_run hundone) fun _ => rfl
    | completed _ _ a₁ hid _ hdone =>
      have hframe := (framed_installEssentials r _).of_run hdone
      refine (ha.of_frame hframe fun _ => rfl).completeSetup r _ ?_
      rw [hframe.lastId]
      exact hid

theorem grantsInstalled (ha : a.EventsExact) : a.GrantsInstalled := by
  intro id config hconfig event hgranted
  rw [ha.installed, isEnabled_unionOfEvents]
  exact ⟨config, mem_configs.mpr ⟨id, hconfig⟩, hgranted⟩

theorem remove (ha : a.EventsExact) (id : SessionId)
    (hremovable : ∀ path ∈ refusedWrites (remove id) a, ¬Simulation.isSwitch path) :
    ((remove id).run a).2.EventsExact := by
  refine ⟨?_, ha.ids.apply (.remove id)⟩
  by_cases hregistered : a.isRegistered id
  · apply EventFilter.ext_isEnabled
    intro event
    rw [isEnabled_remove_of_grants ha.grantsInstalled hregistered]
    refine or_iff_left ?_
    rintro ⟨-, -, e, -, -, hrefused⟩
    exact hremovable _ hrefused (Simulation.isSwitch_eventSwitch e.fullName)
  · rw [remove_run, if_neg hregistered]
    exact ha.installed

end EventsExact

/-- No switch is refused when the step is a removal. -/
def SwitchesRemovable (a : Arbiter Simulation) (step : Step) : Prop :=
  step.isRemoval → ∀ path ∈ step.refusedWrites a, ¬Simulation.isSwitch path

instance (a : Arbiter Simulation) (step : Step) : Decidable (SwitchesRemovable a step) :=
  inferInstanceAs (Decidable (_ → _))

theorem EventsExact.after {steps : List Step} (hremovable : Along SwitchesRemovable a steps)
    (ha : a.EventsExact) : (a.after steps).EventsExact := by
  refine hremovable.invariant (fun a step ha hstep => ?_) ha
  cases step with
  | setup r report => exact ha.setup r report
  | activate id => exact ha.of_frame (frame_activate id a) fun _ => rfl
  | remove id => exact ha.remove id (hstep rfl)
  | resetTracer => exact ha.of_frame (framed_resetTracer a) fun _ => rfl
  | rig rigging => exact ⟨ha.installed, ha.ids⟩
  | poke path value => exact ⟨ha.installed, ha.ids⟩

/-- Whatever happened before, a removal leaves of the events what the remaining sessions record and
what it was refused to turn off. As long as no removal was refused a switch, the installed events are
those that the sessions record. -/
theorem installedEvents_after (catalog : Catalog) (settings : Settings) (steps : List Step) :
    let a := (fresh catalog settings).after steps
    (∀ id, a.isRegistered id → ∀ event,
      ((remove id).run a).2.installed.events.isEnabled event ↔
        (unionOfEvents ((remove id).run a).2.configs).isEnabled event ∨ a.Stuck id event) ∧
      (Along SwitchesRemovable (fresh catalog settings) steps →
        a.installed.events = unionOfEvents a.configs) := by
  intro a
  constructor
  · intro id hregistered event
    have hfresh : (fresh catalog settings).GrantsInstalled := fun _ _ hconfig => nomatch hconfig
    have hgrants := invariant_after (fun _ step ha => ha.apply step) hfresh steps
    exact isEnabled_remove_of_grants hgrants hregistered event
  · intro hremovable
    exact ((EventsExact.fresh catalog settings).after hremovable).installed

/-- Three sessions share events; the second goes, and then a switch is locked. -/
def sharedEvents : List Step :=
  [.setup { events := ["sched/*"] } {}, .setup { events := ["sched/sched_switch"] } {},
    .setup { events := ["sched/sched_switch", "print"] } {}, .remove ⟨2⟩,
    .rig (.failWritesTo "events/sched/sched_waking/enable")]

theorem installedEvents_after_sharedEvents :
    let a := (fresh smallCatalog {}).after sharedEvents
    a.isRegistered ⟨1⟩ ∧ Along SwitchesRemovable (fresh smallCatalog {}) sharedEvents ∧
      unionOfEvents ((remove ⟨1⟩).run a).2.configs = .ofList [1, 5] ∧ a.Stuck ⟨1⟩ 2 ∧
      a.installed.events = .ofList [1, 2, 5] := by
  have hruns : ((fresh smallCatalog {}).after sharedEvents).isRegistered ⟨1⟩ ∧
      Along SwitchesRemovable (fresh smallCatalog {}) sharedEvents ∧
      unionOfEvents ((remove ⟨1⟩).run ((fresh smallCatalog {}).after sharedEvents)).2.configs =
        .ofList [1, 5] ∧
      ((remove ⟨1⟩).run ((fresh smallCatalog {}).after sharedEvents)).2.installed.events.isEnabled 2 ∧
      unionOfEvents ((fresh smallCatalog {}).after sharedEvents).configs = .ofList [1, 2, 5] := by
    decide +kernel
  obtain ⟨hregistered, hremovable, hremaining, hkept, hrecorded⟩ := hruns
  obtain ⟨hremoval, hexact⟩ := installedEvents_after smallCatalog {} sharedEvents
  refine ⟨hregistered, hremovable, hremaining, ?_, (hexact hremovable).trans hrecorded⟩
  refine ((hremoval ⟨1⟩ hregistered 2).mp hkept).resolve_left ?_
  rw [hremaining]
  decide

end Arbiter

end TraceArbiter
