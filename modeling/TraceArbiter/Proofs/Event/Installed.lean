import TraceArbiter.Proofs.Arbiter.Bounds
import TraceArbiter.Proofs.Event.Lookup
import TraceArbiter.Proofs.Run

/-!
# The installed events

What the arbiter believes about events against the switches of the facility, and against what it has
granted to sessions. A setup writes only the switches of events that it does not believe to be on, so
everything rests on the beliefs being right after every way a write can fail: an event counts as
installed from the moment its switch is on until the moment the switch is off.
-/

namespace TraceArbiter

open Std

namespace Simulation

theorem write_eventSwitch_run (s : Simulation) (n : EventName) (value : String) :
    (Facility.write (Control.eventSwitch n) value : Access Simulation Unit).run.run s =
      if Control.eventSwitch n ∈ s.failingWrites then
        (.error (.writeFailed (Control.eventSwitch n) injected), s)
      else (.ok (), s.written (Control.eventSwitch n) value value) :=
  s.write_run value (eventSwitch_ne_allEvents n) (eventSwitch_ne (by decide) n)

/-- The write that turns every switch off turns off every switch, unless it is refused. -/
theorem disableAllEvents_run (s : Simulation) :
    (∃ e, (Control.disableAllEvents : Access Simulation Unit).run.run s = (.error e, s)) ∨
      ∃ s', (Control.disableAllEvents : Access Simulation Unit).run.run s = (.ok (), s') ∧
        ∀ path, isSwitch path → s'.value? path ≠ some Control.on := by
  unfold Control.disableAllEvents
  rw [s.write_run_stored]
  split
  · exact .inl ⟨_, rfl⟩
  · refine .inr ⟨_, rfl, fun path hpath => ?_⟩
    simp [value?, logged, ExtTreeMap.getElem?_map, hpath, Control.on, Control.off]

end Simulation

namespace Arbiter

/-! ### Single events -/

theorem enableEvent_run (e : Event) (a : Arbiter Simulation) :
    (enableEvent e).run a =
      if a.installed.events.isEnabled e.id then (true, a)
      else if e.isAlwaysOn then
        (true, a.note fun i => { i with events := i.events.add e.id })
      else if Control.eventSwitch e.fullName ∈ a.facility.failingWrites then (false, a)
      else
        (true, { a with
          facility := a.facility.written (Control.eventSwitch e.fullName) Control.on Control.on
          installed := { a.installed with events := a.installed.events.add e.id } }) := by
  unfold enableEvent Control.enableEvent
  rw [state_get_bind]
  split
  · rfl
  split
  · rfl
  rw [state_bind, access_run, Simulation.write_eventSwitch_run]
  by_cases hfails : Control.eventSwitch e.fullName ∈ a.facility.failingWrites
  · simp only [if_pos hfails]
    rfl
  · simp only [if_neg hfails]
    rfl

theorem disableEvent_run (id : EventId) (a : Arbiter Simulation) :
    ((disableEvent id).run a).2 =
      match a.catalog.events.getById id with
      | none => a.note fun i => { i with events := i.events.remove id }
      | some e =>
        if e.isAlwaysOn then a.note fun i => { i with events := i.events.remove id }
        else if Control.eventSwitch e.fullName ∈ a.facility.failingWrites then a
        else { a with
          facility := a.facility.written (Control.eventSwitch e.fullName) Control.off Control.off
          installed := { a.installed with events := a.installed.events.remove id } } := by
  unfold disableEvent Control.disableEvent
  rw [state_get_bind]
  cases a.catalog.events.getById id with
  | none => rfl
  | some e =>
    dsimp only
    split
    · rfl
    rw [state_bind, access_run, Simulation.write_eventSwitch_run]
    by_cases hfails : Control.eventSwitch e.fullName ∈ a.facility.failingWrites
    · simp only [if_pos hfails]
      rfl
    · simp only [if_neg hfails]
      rfl

theorem enableEvents_cons_run (e : Event) (events : List Event) (a : Arbiter Simulation) :
    (enableEvents (e :: events)).run a =
      let one := (enableEvent e).run a
      let rest := (enableEvents events).run one.2
      (if one.1 then (rest.1.1.add e.id, rest.1.2) else (rest.1.1, e :: rest.1.2), rest.2) := rfl

/-! ### Beliefs about switches -/

/-- Of the switches, exactly those are on that belong to an installed event that has one, among the
events that are `known`. -/
def SwitchedBy (known : Event → Prop) (a : Arbiter Simulation) : Prop :=
  ∀ path, Simulation.isSwitch path →
    (a.facility.value? path = some Control.on ↔ ∃ e, known e ∧
      a.installed.events.isEnabled e.id ∧ ¬e.isAlwaysOn ∧ Control.eventSwitch e.fullName = path)

namespace SwitchedBy

variable {known : Event → Prop} {a a' : Arbiter Simulation}

theorem of_frame {P : String → Prop} {view : Installed → Installed} {lastId : SessionId}
    {sessions : ExtTreeMap SessionId SessionConfig} {active : ExtTreeSet SessionId}
    (ha : a.SwitchedBy known) (h : Frame P view { a with lastId, sessions, active } a')
    (hP : ∀ path, P path → Simulation.isSwitch path = false)
    (hview : ∀ i, (view i).events = i.events) : a'.SwitchedBy known := by
  intro path hpath
  have hkept : ¬P path := fun hwritten => Bool.false_ne_true ((hP path hwritten).symm.trans hpath)
  rw [h.facility.value?_eq path hkept, h.belief Installed.events hview]
  exact ha path hpath

/-- An event without a switch comes and goes without a write. -/
theorem of_same_switched (ha : a.SwitchedBy known) (hfacility : a'.facility = a.facility)
    (h : ∀ e, known e → ¬e.isAlwaysOn →
      (a'.installed.events.isEnabled e.id ↔ a.installed.events.isEnabled e.id)) :
    a'.SwitchedBy known := by
  intro path hpath
  rw [hfacility, ha path hpath]
  refine exists_congr fun e => and_congr_right fun he => ?_
  by_cases halways : e.isAlwaysOn
  · simp [halways]
  · rw [h e he halways]

theorem enableEvent (hids : ∀ e e', known e → known e' → e.id = e'.id → e = e') {e : Event}
    (he : known e) (ha : a.SwitchedBy known) : ((enableEvent e).run a).2.SwitchedBy known := by
  rw [enableEvent_run]
  split
  · exact ha
  split
  · next halways =>
    refine ha.of_same_switched rfl fun e' he' hswitched => ?_
    change (a.installed.events.add e.id).isEnabled e'.id ↔ _
    rw [EventFilter.isEnabled_add, or_iff_right]
    intro hid
    rw [hids e e' he he' hid] at halways
    exact hswitched halways
  split
  · exact ha
  · next hswitched _ =>
    intro path hpath
    dsimp only
    rw [Simulation.value?_written]
    by_cases hself : Control.eventSwitch e.fullName = path
    · rw [if_pos hself]
      refine iff_of_true rfl ⟨e, he, ?_, hswitched, hself⟩
      rw [EventFilter.isEnabled_add]
      exact .inl rfl
    · rw [if_neg hself, ha path hpath]
      refine exists_congr fun e' => and_congr_right fun he' => ?_
      rw [EventFilter.isEnabled_add]
      refine and_congr_left fun hswitch => (or_iff_right ?_).symm
      intro hid
      rw [hids e e' he he' hid] at hself
      exact hself hswitch.2

theorem enableEvents (hids : ∀ e e', known e → known e' → e.id = e'.id → e = e')
    {wanted : List Event} (hwanted : ∀ e ∈ wanted, known e) (ha : a.SwitchedBy known) :
    ((enableEvents wanted).run a).2.SwitchedBy known := by
  induction wanted generalizing a with
  | nil => exact ha
  | cons e wanted ih =>
    rw [enableEvents_cons_run]
    exact ih (fun e' he' => hwanted e' (.tail _ he')) (ha.enableEvent hids (hwanted e (.head _)))

/-- The switches that are on spell the installed events that have one. -/
theorem mem_enabledEvents (ha : a.SwitchedBy known) (text : String) :
    text ∈ a.facility.enabledEvents ↔ ∃ e, known e ∧
      a.installed.events.isEnabled e.id ∧ ¬e.isAlwaysOn ∧ toString e.fullName = text := by
  rw [Simulation.mem_enabledEvents]
  constructor
  · rintro ⟨path, hon, hname⟩
    obtain ⟨e, he, henabled, hswitched, rfl⟩ :=
      (ha path (Simulation.isSwitch_of_switchName? hname)).mp hon
    rw [Simulation.switchName?_eventSwitch, Option.some_inj] at hname
    exact ⟨e, he, henabled, hswitched, hname⟩
  · rintro ⟨e, he, henabled, hswitched, rfl⟩
    refine ⟨Control.eventSwitch e.fullName, ?_, Simulation.switchName?_eventSwitch _⟩
    rw [ha _ (Simulation.isSwitch_eventSwitch _)]
    exact ⟨e, he, henabled, hswitched, rfl⟩

end SwitchedBy

/-- Of the switches, exactly those are on that belong to an installed event that has one. -/
structure SwitchesMatch (events : List Event) (a : Arbiter Simulation) : Prop where
  table : a.catalog.events = .ofList events
  isOn_iff : ∀ path, Simulation.isSwitch path →
    (a.facility.value? path = some Control.on ↔ ∃ e ∈ events,
      a.installed.events.isEnabled e.id ∧ ¬e.isAlwaysOn ∧ Control.eventSwitch e.fullName = path)

namespace SwitchesMatch

variable {events : List Event} {a a' : Arbiter Simulation}

theorem switchedBy (ha : a.SwitchesMatch events) : a.SwitchedBy (· ∈ events) :=
  ha.isOn_iff

theorem of_frame {P : String → Prop} {view : Installed → Installed} {lastId : SessionId}
    {sessions : ExtTreeMap SessionId SessionConfig} {active : ExtTreeSet SessionId}
    (ha : a.SwitchesMatch events) (h : Frame P view { a with lastId, sessions, active } a')
    (hP : ∀ path, P path → Simulation.isSwitch path = false)
    (hview : ∀ i, (view i).events = i.events) : a'.SwitchesMatch events where
  table := by rw [h.catalog, ha.table]
  isOn_iff := ha.switchedBy.of_frame h hP hview

theorem enableEvents (hevents : ProperEvents events) {wanted : List Event}
    (hwanted : ∀ e ∈ wanted, e ∈ events) (ha : a.SwitchesMatch events) :
    ((enableEvents wanted).run a).2.SwitchesMatch events where
  table := by rw [(framed_enableEvents wanted a).catalog, ha.table]
  isOn_iff := ha.switchedBy.enableEvents (fun _ _ he he' => hevents.eq_of_id he he') hwanted

theorem disableEvent (hevents : ProperEvents events) (id : EventId) (ha : a.SwitchesMatch events) :
    ((disableEvent id).run a).2.SwitchesMatch events := by
  rw [disableEvent_run]
  cases hget : a.catalog.events.getById id with
  | none =>
    refine ⟨ha.table, ha.switchedBy.of_same_switched rfl fun e he _ => ?_⟩
    change (a.installed.events.remove id).isEnabled e.id ↔ _
    rw [EventFilter.isEnabled_remove, and_iff_right]
    rintro rfl
    rw [ha.table, hevents.getById_eq he] at hget
    cases hget
  | some e =>
    rw [ha.table] at hget
    obtain ⟨he, rfl⟩ := EventTable.mem_of_getById hget
    dsimp only
    split
    · next halways =>
      refine ⟨ha.table, ha.switchedBy.of_same_switched rfl fun e' he' hswitched => ?_⟩
      change (a.installed.events.remove e.id).isEnabled e'.id ↔ _
      rw [EventFilter.isEnabled_remove, and_iff_right]
      intro hid
      rw [hevents.eq_of_id he he' hid] at halways
      exact hswitched halways
    split
    · exact ha
    · refine ⟨ha.table, fun path hpath => ?_⟩
      dsimp only
      rw [Simulation.value?_written]
      by_cases hself : Control.eventSwitch e.fullName = path
      · rw [if_pos hself]
        refine iff_of_false (by decide) ?_
        rintro ⟨e', he', henabled, -, hswitch⟩
        rw [EventFilter.isEnabled_remove] at henabled
        rw [hevents.eq_of_eventSwitch he he' (hself.trans hswitch.symm)] at henabled
        exact henabled.1 rfl
      · rw [if_neg hself, ha.isOn_iff path hpath]
        refine exists_congr fun e' => and_congr_right fun he' => ?_
        rw [EventFilter.isEnabled_remove]
        refine and_congr_left fun hswitch => (and_iff_right ?_).symm
        intro hid
        rw [hevents.eq_of_id he he' hid] at hself
        exact hself hswitch.2

theorem disableEvents (hevents : ProperEvents events) (ids : List EventId)
    (ha : a.SwitchesMatch events) : ((disableEvents ids).run a).2.SwitchesMatch events := by
  induction ids generalizing a with
  | nil => exact ha
  | cons id ids ih => exact ih (ha.disableEvent hevents id)

/-- A fresh start forgets all events together with their switches, or none. -/
theorem startFresh (ha : a.SwitchesMatch events) : (startFresh.run a).2.SwitchesMatch events := by
  have hclear : ∀ {b : Arbiter Simulation}, b.SwitchesMatch events →
      ((access Control.clearTrace).run b).2.SwitchesMatch events := by
    intro b hb
    have hframe : Framed (· = Control.trace) id (access (σ := Simulation) Control.clearTrace) :=
      Frame.allows.writeTo _ rfl (by decide)
    exact hb.of_frame (hframe b) (by rintro _ rfl; decide) fun _ => rfl
  unfold Arbiter.startFresh
  rw [state_get_bind]
  split
  · rw [state_bind, access_run]
    obtain ⟨e, hrun⟩ | ⟨s, hrun, hoff⟩ := Simulation.disableAllEvents_run a.facility
    · rw [hrun]
      exact hclear ha
    · rw [hrun]
      refine hclear ⟨ha.table, fun path hpath => ?_⟩
      refine iff_of_false (hoff path hpath) ?_
      rintro ⟨e, -, henabled, -⟩
      change ({} : EventFilter).isEnabled e.id at henabled
      rw [EventFilter.isEnabled_empty] at henabled
      cases henabled
  · exact ha

end SwitchesMatch

/-! ### What sessions were granted -/

/-- No session was granted an event that is not installed. -/
def GrantsInstalled (a : Arbiter Simulation) : Prop :=
  ∀ id config, a.session? id = some config →
    ∀ event, config.eventFilter.isEnabled event → a.installed.events.isEnabled event

/-- Enabling an event adds it exactly if it is then on. -/
theorem isEnabled_enableEvent {e : Event} {a : Arbiter Simulation} {id : EventId} :
    ((enableEvent e).run a).2.installed.events.isEnabled id ↔
      a.installed.events.isEnabled id ∨ ((enableEvent e).run a).1 ∧ e.id = id := by
  rw [enableEvent_run]
  split
  · next henabled =>
    refine (or_iff_left_of_imp ?_).symm
    rintro ⟨-, rfl⟩
    exact henabled
  split
  · exact (EventFilter.isEnabled_add ..).trans (by simp [or_comm])
  split
  · simp
  · exact (EventFilter.isEnabled_add ..).trans (by simp [or_comm])

theorem isEnabled_enableEvents {events : List Event} {a : Arbiter Simulation} {id : EventId} :
    ((enableEvents events).run a).2.installed.events.isEnabled id ↔
      a.installed.events.isEnabled id ∨ ((enableEvents events).run a).1.1.isEnabled id := by
  induction events generalizing a with
  | nil =>
    change _ ↔ _ ∨ ({} : EventFilter).isEnabled id
    rw [EventFilter.isEnabled_empty]
    exact (or_iff_left Bool.false_ne_true).symm
  | cons e events ih =>
    rw [enableEvents_cons_run]
    dsimp only
    rw [ih, isEnabled_enableEvent, or_assoc]
    refine or_congr_right ?_
    split
    · next hon => rw [EventFilter.isEnabled_add, and_iff_right hon]
    · next hoff => exact or_iff_right fun h => hoff h.1

/-- The switch of an event that cannot be turned off because it is made to fail. -/
def lockedSwitch? (a : Arbiter Simulation) (id : EventId) : Option String :=
  (a.catalog.events.getById id).bind fun e =>
    if ¬e.isAlwaysOn ∧ Control.eventSwitch e.fullName ∈ a.facility.failingWrites then
      some (Control.eventSwitch e.fullName)
    else none

theorem lockedSwitch?_eq_some {a : Arbiter Simulation} {event : EventId}
    {path : String} :
    a.lockedSwitch? event = some path ↔ ∃ e, a.catalog.events.getById event = some e ∧
      ¬e.isAlwaysOn ∧ path ∈ a.facility.failingWrites ∧ Control.eventSwitch e.fullName = path := by
  unfold lockedSwitch?
  rw [Option.bind_eq_some_iff]
  refine exists_congr fun e => and_congr_right fun _ => ?_
  rw [Option.ite_none_right_eq_some, Option.some_inj, and_assoc]
  refine and_congr_right fun _ => and_congr_left ?_
  rintro rfl
  rfl

theorem Frame.lockedSwitch? {P : String → Prop} {view : Installed → Installed}
    {a a' : Arbiter Simulation} (h : Frame P view a a') : a'.lockedSwitch? = a.lockedSwitch? := by
  funext event
  unfold Arbiter.lockedSwitch?
  rw [h.catalog, h.facility.failingWrites_eq]

/-- Turning an event off takes it away, unless its switch is locked. -/
theorem isEnabled_disableEvent {a : Arbiter Simulation} {id id' : EventId} :
    ((disableEvent id').run a).2.installed.events.isEnabled id ↔
      a.installed.events.isEnabled id ∧ (id' ≠ id ∨ (a.lockedSwitch? id).isSome) := by
  have hremoved : (a.installed.events.remove id').isEnabled id ↔
      a.installed.events.isEnabled id ∧ id' ≠ id :=
    (EventFilter.isEnabled_remove ..).trans and_comm
  rw [disableEvent_run]
  by_cases hid : id' = id
  · subst hid
    unfold lockedSwitch?
    cases a.catalog.events.getById id' with
    | none => simpa [note] using hremoved
    | some e =>
      rw [Option.bind_some]
      dsimp only
      by_cases halways : e.isAlwaysOn
      · simpa [halways, note] using hremoved
      by_cases hfails : Control.eventSwitch e.fullName ∈ a.facility.failingWrites
      · simp [halways, hfails]
      · simpa [halways, hfails] using hremoved
  · rw [and_iff_left hid] at hremoved
    rw [and_iff_left (.inl hid)]
    split
    · exact hremoved
    split
    · exact hremoved
    split
    · rfl
    · exact hremoved

theorem isEnabled_disableEvents {ids : List EventId} {a : Arbiter Simulation} {id : EventId} :
    ((disableEvents ids).run a).2.installed.events.isEnabled id ↔
      a.installed.events.isEnabled id ∧ (id ∉ ids ∨ (a.lockedSwitch? id).isSome) := by
  induction ids generalizing a with
  | nil =>
    change a.installed.events.isEnabled id ↔ _
    simp
  | cons id' ids ih =>
    have hstep := (framed_disableEvent id' a).lockedSwitch?
    unfold disableEvents
    rw [state_bind, ih, isEnabled_disableEvent, hstep, List.mem_cons, not_or, and_assoc,
      ← and_or_right, ne_comm]

variable {a a' : Arbiter Simulation}

/-- The installed events that no session records. -/
def staleEvents {σ : Type} (a : Arbiter σ) : List EventId :=
  a.installed.events.toList.filter fun id => !(unionOfEvents a.configs).isEnabled id

theorem mem_staleEvents {event : EventId} :
    event ∈ a.staleEvents ↔
      a.installed.events.isEnabled event ∧ ¬(unionOfEvents a.configs).isEnabled event := by
  simp [staleEvents, EventFilter.mem_toList]

theorem shrinkEvents_run {σ : Type} [Facility σ] (a : Arbiter σ) :
    shrinkEvents.run a = (disableEvents a.staleEvents).run a := rfl

theorem startFresh_run (hsessions : ¬a.sessions.isEmpty) : startFresh.run a = ((), a) := by
  unfold startFresh
  rw [state_get_bind, if_neg hsessions]
  rfl

namespace GrantsInstalled

theorem of_frame {P : String → Prop} {view : Installed → Installed} {active : ExtTreeSet SessionId}
    (ha : a.GrantsInstalled) (h : Frame P view { a with active } a')
    (hview : ∀ i, (view i).events = i.events) : a'.GrantsInstalled := by
  intro id config hconfig event henabled
  unfold session? at hconfig
  rw [h.sessions] at hconfig
  rw [h.belief Installed.events hview]
  exact ha id config hconfig event henabled

theorem startFresh (ha : a.GrantsInstalled) : (startFresh.run a).2.GrantsInstalled := by
  have hframe := framed_startFresh a
  cases hsessions : a.sessions.isEmpty with
  | true =>
    intro id config hconfig
    unfold session? at hconfig
    rw [hframe.sessions, ExtTreeMap.isEmpty_iff.mp hsessions] at hconfig
    cases hconfig
  | false =>
    rw [startFresh_run (by simp [hsessions])]
    exact ha

theorem enableEvents (ha : a.GrantsInstalled) (wanted : List Event) :
    ((enableEvents wanted).run a).2.GrantsInstalled := by
  intro id config hconfig event henabled
  unfold session? at hconfig
  rw [(framed_enableEvents wanted a).sessions] at hconfig
  exact isEnabled_enableEvents.mpr (.inl (ha id config hconfig event henabled))

theorem shrinkEvents (ha : a.GrantsInstalled) : (shrinkEvents.run a).2.GrantsInstalled := by
  intro id config hconfig event henabled
  unfold session? at hconfig
  rw [(framed_shrinkEvents a).sessions] at hconfig
  refine isEnabled_disableEvents.mpr ⟨ha id config hconfig event henabled, .inl ?_⟩
  intro hstale
  refine (mem_staleEvents.mp hstale).2 ?_
  exact (isEnabled_unionOfEvents _ _).mpr ⟨config, mem_configs.mpr ⟨id, hconfig⟩, henabled⟩

theorem without (ha : a.GrantsInstalled) (id : SessionId) : (a.without id).GrantsInstalled :=
  fun id' config hconfig => ha id' config (session?_of_without hconfig)

theorem register (ha : a.GrantsInstalled) (id : SessionId) (config : SessionConfig)
    (hgranted : ∀ event, config.eventFilter.isEnabled event → a.installed.events.isEnabled event) :
    ({ a with lastId := id, sessions := a.sessions.insert id config } :
      Arbiter Simulation).GrantsInstalled := by
  intro id' config' hconfig
  change (a.sessions.insert id config)[id']? = some config' at hconfig
  rw [ExtTreeMap.getElem?_insert] at hconfig
  split at hconfig
  · cases hconfig
    exact hgranted
  · exact ha id' config' hconfig

theorem completeSetup (ha : a.GrantsInstalled) (r : Request) (id : SessionId) (plan : Plan) :
    ((completeSetup r id plan).run a).2.GrantsInstalled := by
  have hclock := ha.startFresh.of_frame (framed_selectClock r (Arbiter.startFresh.run a).2) fun _ => rfl
  have hframe := framed_joinAnnotations r ((Arbiter.enableEvents plan.events).run
      ((selectClock r).run (Arbiter.startFresh.run a).2).2).2
  have hjoined := (hclock.enableEvents plan.events).of_frame hframe fun _ => rfl
  rw [completeSetup_run]
  refine hjoined.register id _ fun event hgranted => ?_
  have hkept : Installed.withoutAnnotations _ = Installed.withoutAnnotations _ := hframe.installed
  rw [Installed.withoutAnnotations, Installed.withoutAnnotations, Installed.mk.injEq] at hkept
  rw [hkept.1]
  exact isEnabled_enableEvents.mpr (.inr hgranted)

theorem setup (ha : a.GrantsInstalled) (r : Request) (report : SetupReport) :
    ((setup r report).run a).2.GrantsInstalled := by
  have hessentials := ha.of_frame (framed_installEssentials r (r.plan a.catalog).syscallFilter a)
    fun _ => rfl
  match hrun : (Arbiter.setup r report).run a with
  | ((id, report'), a') =>
    cases setup_case hrun with
    | refused => exact ha
    | undone _ _ _ _ _ hundone =>
      rw [hundone] at hessentials
      exact hessentials
    | completed _ _ a₁ _ _ hdone =>
      rw [hdone] at hessentials
      exact hessentials.completeSetup r id _

theorem remove (ha : a.GrantsInstalled) (id : SessionId) :
    ((remove id).run a).2.GrantsInstalled := by
  by_cases hregistered : a.isRegistered id
  · rw [remove_registered_run hregistered]
    have hbefore := (ha.without id).of_frame (frame_beforeEvents a id) fun _ => rfl
    exact hbefore.shrinkEvents.of_frame (frame_deactivate id _) fun _ => rfl
  · rw [remove_run, if_neg hregistered]
    exact ha

/-- Sessions keep what they were granted whatever happens, also when others write control files. -/
theorem apply (ha : a.GrantsInstalled) (step : Step) : (step.apply a).GrantsInstalled := by
  cases step with
  | setup r report => exact ha.setup r report
  | activate id => exact ha.of_frame (frame_activate id a) fun _ => rfl
  | remove id => exact ha.remove id
  | resetTracer => exact ha.of_frame (framed_resetTracer a) fun _ => rfl
  | rig rigging => exact ha
  | poke path value => exact ha

end GrantsInstalled

/-! ### Runs -/

/-- The beliefs about events are right: about the switches, and about what sessions were granted. -/
structure EventsRight (events : List Event) (a : Arbiter Simulation) : Prop where
  switches : a.SwitchesMatch events
  grants : a.GrantsInstalled

theorem mem_of_mem_plan {events : List Event} {catalog : Catalog} {r : Request} {e : Event}
    (hcatalog : catalog.events = .ofList events) (he : e ∈ (r.plan catalog).events) : e ∈ events := by
  obtain ⟨n, -, hget⟩ := List.mem_filterMap.mp he
  rw [hcatalog] at hget
  exact EventTable.mem_of_get hget

namespace EventsRight

variable {events : List Event} {a a' : Arbiter Simulation}

theorem fresh (syscalls : SyscallTable) (vendor : VendorCategories) (settings : Settings) :
    (Arbiter.fresh ⟨.ofList events, syscalls, vendor⟩ settings).EventsRight events := by
  refine ⟨⟨rfl, fun path hpath => ?_⟩, ?_⟩
  · refine iff_of_false ?_ ?_
    · change Simulation.idle.value? path ≠ _
      rw [Simulation.value?_idle_of_isSwitch hpath]
      exact (Option.some_ne_none _).symm
    · rintro ⟨e, -, henabled, -⟩
      change ({} : EventFilter).isEnabled e.id at henabled
      rw [EventFilter.isEnabled_empty] at henabled
      cases henabled
  · intro id config hconfig
    cases hconfig

theorem of_frame {P : String → Prop} {view : Installed → Installed} {active : ExtTreeSet SessionId}
    (ha : a.EventsRight events) (h : Frame P view { a with active } a')
    (hP : ∀ path, P path → Simulation.isSwitch path = false)
    (hview : ∀ i, (view i).events = i.events) : a'.EventsRight events :=
  ⟨ha.switches.of_frame h hP hview, ha.grants.of_frame h hview⟩

theorem completeSetup (hevents : ProperEvents events) (ha : a.EventsRight events) (r : Request)
    (id : SessionId) (plan : Plan) (hplan : ∀ e ∈ plan.events, e ∈ events) :
    ((completeSetup r id plan).run a).2.EventsRight events := by
  have hclock : ((selectClock r).run (startFresh.run a).2).2.SwitchesMatch events :=
    ha.switches.startFresh.of_frame (framed_selectClock r _) (by rintro _ rfl; decide) fun _ => rfl
  have hframe := framed_joinAnnotations r ((enableEvents plan.events).run
    ((selectClock r).run (startFresh.run a).2).2).2
  have hjoined := (hclock.enableEvents hevents hplan).of_frame hframe nofun fun _ => rfl
  refine ⟨?_, ha.grants.completeSetup r id plan⟩
  rw [completeSetup_run]
  exact ⟨hjoined.table, hjoined.isOn_iff⟩

theorem setup (hevents : ProperEvents events) (ha : a.EventsRight events) (r : Request)
    (report : SetupReport) : ((setup r report).run a).2.EventsRight events := by
  have hessentials := ha.of_frame (framed_installEssentials r (r.plan a.catalog).syscallFilter a)
    isSwitch_essential fun _ => rfl
  match hrun : (Arbiter.setup r report).run a with
  | ((id, report'), a') =>
    cases setup_case hrun with
    | refused => exact ha
    | undone _ _ _ _ _ hundone =>
      rw [hundone] at hessentials
      exact hessentials
    | completed _ _ a₁ _ _ hdone =>
      rw [hdone] at hessentials
      exact hessentials.completeSetup hevents r id _ fun e he =>
        mem_of_mem_plan ha.switches.table he

theorem remove (hevents : ProperEvents events) (ha : a.EventsRight events) (id : SessionId) :
    ((remove id).run a).2.EventsRight events := by
  by_cases hregistered : a.isRegistered id
  · have hbefore : (a.beforeEvents id).SwitchesMatch events :=
      ha.switches.of_frame (frame_beforeEvents a id)
        (fun _ hpath => Simulation.isSwitch_eq_false (List.mem_append_right _ hpath)) fun _ => rfl
    have hshrunk := hbefore.disableEvents hevents (a.beforeEvents id).staleEvents
    rw [← shrinkEvents_run] at hshrunk
    refine ⟨?_, ha.grants.remove id⟩
    rw [remove_registered_run hregistered]
    exact hshrunk.of_frame (frame_deactivate id _) (by rintro _ rfl; decide) fun _ => rfl
  · rw [remove_run, if_neg hregistered]
    exact ha

theorem rig (ha : a.EventsRight events) (rigging : Rigging) :
    ({ a with facility := rigging.apply a.facility } : Arbiter Simulation).EventsRight events :=
  ⟨⟨ha.switches.table, by simpa using ha.switches.isOn_iff⟩, ha.grants⟩

theorem after (hevents : ProperEvents events) {steps : List Step}
    (hsteps : ∀ step ∈ steps, ¬step.isOutside) (ha : a.EventsRight events) :
    (a.after steps).EventsRight events := by
  refine (Along.of_forall steps a hsteps).invariant (fun a step ha hstep => ?_) ha
  cases step with
  | setup r report => exact ha.setup hevents r report
  | activate id => exact ha.of_frame (frame_activate id a) (by rintro _ rfl; decide) fun _ => rfl
  | remove id => exact ha.remove hevents id
  | resetTracer => exact ha.of_frame (framed_resetTracer a) (by decide) fun _ => rfl
  | rig rigging => exact ha.rig rigging
  | poke path value => exact absurd rfl hstep

end EventsRight

def switchedEvents (events : List Event) (a : Arbiter Simulation) : List Event :=
  events.filter fun e => a.installed.events.isEnabled e.id && !e.isAlwaysOn

theorem SwitchesMatch.enabledEvents_eq {events : List Event} {a : Arbiter Simulation}
    (ha : a.SwitchesMatch events) :
    a.facility.enabledEvents =
      ExtTreeSet.ofList ((a.switchedEvents events).map (toString ·.fullName)) := by
  ext text
  rw [ha.switchedBy.mem_enabledEvents, ExtTreeSet.mem_ofList]
  simp only [List.contains_eq_mem, decide_eq_true_eq, List.mem_map, switchedEvents, List.mem_filter,
    Bool.and_eq_true, Bool.not_eq_true', Bool.not_eq_true, and_assoc]

/-- Whatever is set up, removed, reset and made to fail, as long as nobody else writes control files:
the switches that are on are those of the installed events, and every session has what it was
granted. -/
theorem enabledEvents_after {events : List Event} (hevents : ProperEvents events)
    (syscalls : SyscallTable) (vendor : VendorCategories) (settings : Settings) {steps : List Step}
    (hsteps : ∀ step ∈ steps, ¬step.isOutside) :
    let a := (fresh ⟨.ofList events, syscalls, vendor⟩ settings).after steps
    a.facility.enabledEvents =
        ExtTreeSet.ofList ((a.switchedEvents events).map (toString ·.fullName)) ∧
      ∀ id config, a.session? id = some config →
        config.eventFilter.isSubset a.installed.events := by
  intro a
  have ha : a.EventsRight events :=
    (EventsRight.fresh syscalls vendor settings).after hevents hsteps
  refine ⟨ha.switches.enabledEvents_eq, fun id config hconfig => ?_⟩
  exact (EventFilter.isSubset_iff _ _).mpr (ha.grants id config hconfig)

/-- Two events are enabled, one of them cannot be turned off again, and another session follows. -/
def stuckSwitch : List Step :=
  [.setup { events := ["sched/*", "print"] } {},
    .rig (.failWritesTo "events/sched/sched_waking/enable"), .remove ⟨1⟩,
    .rig (.failWritesTo "events/enable"), .setup { events := ["sched/sched_switch"] } {}]

theorem enabledEvents_after_stuckSwitch :
    ProperEvents smallKernel ∧ (∀ step ∈ stuckSwitch, ¬step.isOutside) ∧
      let a := (fresh ⟨.ofList smallKernel, {}, {}⟩ {}).after stuckSwitch
      a.facility.enabledEvents = ExtTreeSet.ofList ["sched/sched_switch", "sched/sched_waking"] ∧
        ∀ id config, a.session? id = some config →
          config.eventFilter.isSubset a.installed.events := by
  have hevents : ProperEvents smallKernel := ⟨by decide, by decide, by decide⟩
  have hsteps : ∀ step ∈ stuckSwitch, ¬step.isOutside := by decide
  obtain ⟨henabled, hgrants⟩ := enabledEvents_after hevents {} {} {} hsteps
  have hnames : (((fresh ⟨.ofList smallKernel, {}, {}⟩ {}).after stuckSwitch).switchedEvents
      smallKernel).map (toString ·.fullName) = ["sched/sched_switch", "sched/sched_waking"] := by
    decide +kernel
  refine ⟨hevents, hsteps, ?_, hgrants⟩
  rw [henabled, hnames]

end Arbiter

end TraceArbiter
