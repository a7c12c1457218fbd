import TraceArbiter.Proofs.Arbiter.Settled
import TraceArbiter.Proofs.Event.Shrinking
import TraceArbiter.Proofs.Tracer.Sharing

/-!
# What sessions notice of each other

The writes of a setup and of a removal while there are sessions, with their values. What all sessions
share is settled by then, so a setup only adds: switches that are turned on, filters that let through
more, lines behind others. A removal only takes back what nobody else wants.
-/

namespace TraceArbiter

open Std

namespace Arbiter

variable {a a' : Arbiter Simulation} {r : Request} {id : SessionId}

/-! ### Switches -/

def SwitchesOn (events : List Event) (path value : String) : Prop :=
  value = Control.on ∧ ∃ e ∈ events, ¬e.isAlwaysOn ∧ path = Control.eventSwitch e.fullName

def SwitchesOff (table : EventTable) (ids : List EventId) (path value : String) : Prop :=
  value = Control.off ∧ ∃ id ∈ ids, ∃ e, table.getById id = some e ∧ ¬e.isAlwaysOn ∧
    path = Control.eventSwitch e.fullName

theorem logs_enableEvents (events : List Event) (a : Arbiter Simulation) :
    a.facility.Logs (SwitchesOn events) ((enableEvents events).run a).2.facility := by
  induction events generalizing a with
  | nil => exact .refl _ _
  | cons e events ih =>
    have hone : a.facility.Logs (SwitchesOn (e :: events)) ((enableEvent e).run a).2.facility := by
      rw [enableEvent_run]
      split
      · exact .refl _ _
      split
      · exact .refl _ _
      split
      · exact .refl _ _
      · next hswitched _ => exact .written _ ⟨rfl, e, .head _, hswitched, rfl⟩
    rw [enableEvents_cons_run]
    refine hone.trans ((ih _).mono ?_)
    rintro path value ⟨hvalue, e', he', hswitch⟩
    exact ⟨hvalue, e', .tail _ he', hswitch⟩

theorem logs_disableEvents (ids : List EventId) (a : Arbiter Simulation) :
    a.facility.Logs (SwitchesOff a.catalog.events ids) ((disableEvents ids).run a).2.facility := by
  induction ids generalizing a with
  | nil => exact .refl _ _
  | cons event ids ih =>
    have hone : a.facility.Logs (SwitchesOff a.catalog.events (event :: ids))
        ((disableEvent event).run a).2.facility := by
      rw [disableEvent_run]
      split
      · exact .refl _ _
      next e he =>
      split
      · exact .refl _ _
      split
      · exact .refl _ _
      · next hswitched _ => exact .written _ ⟨rfl, event, .head _, e, he, hswitched, rfl⟩
    refine hone.trans ((ih _).mono ?_)
    rw [(framed_disableEvent event a).catalog]
    rintro path value ⟨hvalue, event', hevent', hswitch⟩
    exact ⟨hvalue, event', .tail _ hevent', hswitch⟩

/-! ### The filter on system calls -/

theorem logs_installSyscallFilter (extra : SyscallFilter) (a : Arbiter Simulation) :
    a.facility.Logs (fun path value => path ∈ Control.syscallFilters ∧
        value = ((unionOfSyscalls a.configs).union extra).expression)
      ((installSyscallFilter extra).run.run a).2.facility := by
  have hwrite := Access.Logs.setSyscallFilter
    ((unionOfSyscalls a.configs).union extra).expression a.facility
  rw [installSyscallFilter_run]
  split
  · exact .refl _ _
  · split <;> next hrun => rw [hrun] at hwrite; exact hwrite

theorem logs_undoFilter (wrote : Bool) (a : Arbiter Simulation) :
    a.facility.Logs (fun path value => path ∈ Control.syscallFilters ∧
        value = (unionOfSyscalls a.configs).expression)
      ((undoFilter wrote).run a).2.facility := by
  cases wrote with
  | false => exact .refl _ _
  | true =>
    have hwrite := Access.Logs.setSyscallFilter (unionOfSyscalls a.configs).expression a.facility
    change a.facility.Logs _ (restoreSyscallFilter.run a).2.facility
    rw [restoreSyscallFilter_run]
    split <;> next hrun => rw [hrun] at hwrite; exact hwrite

/-! ### Setups -/

/-- A write for the essentials of a setup: to the tracer, which is not switched if it is shared, or of
a filter that lies above the given one. -/
def EssentialWrite (a : Arbiter Simulation) (bound : SyscallFilter) (path value : String) : Prop :=
  path ∈ Control.tracerFiles ∧ (a.installed.functionGraph → path ≠ Control.currentTracer) ∨
    path ∈ Control.syscallFilters ∧ ∃ f, bound ≤ f ∧ value = SyscallFilter.expression f

theorem logs_installTracerAndBuffer (hpages : a.installed.bufferPages ≠ 0) :
    a.facility.Logs (fun path _ => path ∈ Control.tracerFiles ∧
        (a.installed.functionGraph → path ≠ Control.currentTracer))
      ((installTracerAndBuffer r).run.run a).2.facility := by
  rw [installTracerAndBuffer_pinned hpages]
  by_cases hshared : a.installed.functionGraph
  · have hfiles : ∀ path ∈ Control.filterFiles,
        path ∈ Control.tracerFiles ∧ path ≠ Control.currentTracer := by decide
    refine (engageFunctionGraph_shared hshared).1.logs.mono fun path _ hpath => ?_
    exact ⟨(hfiles path hpath).1, fun _ => (hfiles path hpath).2⟩
  · refine (framed_engageFunctionGraph r a).facility.logs.mono fun path _ hpath => ?_
    exact ⟨hpath, fun h => absurd h hshared⟩

/-- What the tracer and the buffer take, in a state that differs from the first one only in the filter
on system calls. -/
theorem logs_rest {P : String → Prop} {a₁ : Arbiter Simulation} (bound : SyscallFilter)
    (hframe : Frame P Installed.withoutSyscallFilter a a₁) (hsettled : a.Settled)
    {result : Except SetupFailure Unit} (h : (installTracerAndBuffer r).run.run a₁ = (result, a')) :
    a₁.facility.Logs (EssentialWrite a bound) a'.facility := by
  have hsettled₁ := hsettled.of_frame hframe (fun _ => rfl) fun _ => rfl
  have hlogs := logs_installTracerAndBuffer (r := r) hsettled₁.buffer
  rw [h, hframe.belief Installed.functionGraph fun _ => rfl] at hlogs
  exact hlogs.mono fun path _ hpath => .inl hpath

theorem logs_filter {s s' : Simulation} {filter bound : SyscallFilter}
    (h : s.Logs (fun path value => path ∈ Control.syscallFilters ∧ value = filter.expression) s')
    (hbound : bound ≤ filter) : s.Logs (EssentialWrite a bound) s' :=
  h.mono fun _ _ hwrite => .inr ⟨hwrite.1, filter, hbound, hwrite.2⟩

theorem logs_essentials_installed {filter : SyscallFilter} (hsettled : a.Settled)
    (h : (installEssentials r filter).run.run a = (.ok (), a')) :
    a.facility.Logs (EssentialWrite a ((unionOfSyscalls a.configs).union filter)) a'.facility := by
  cases essentials_case h with
  | installed wrote a₁ _ hfilter hrest =>
    have hinstall := logs_installSyscallFilter filter a
    rw [hfilter] at hinstall
    have hframe := (framed_installSyscallFilter filter).of_run hfilter
    exact (logs_filter hinstall (SyscallFilter.le_refl _)).trans (logs_rest _ hframe hsettled hrest)

theorem logs_essentials_refused {filter : SyscallFilter} {failure : SetupFailure}
    (hsettled : a.Settled)
    (h : (installEssentials r filter).run.run a = (.error failure, a')) :
    a.facility.Logs (EssentialWrite a (unionOfSyscalls a.configs)) a'.facility := by
  have hinstall := logs_installSyscallFilter filter a
  have hundo : ∀ wrote (a₂ : Arbiter Simulation), a₂.configs = a.configs → a₂.facility.Logs
      (EssentialWrite a (unionOfSyscalls a.configs)) ((undoFilter wrote).run a₂).2.facility := by
    intro wrote a₂ hconfigs
    have hlogs := logs_undoFilter wrote a₂
    rw [hconfigs] at hlogs
    exact logs_filter hlogs (SyscallFilter.le_refl _)
  cases essentials_case h with
  | filterRefused _ a₁ hfilter =>
    have hframe := (framed_installSyscallFilter filter).of_run hfilter
    rw [hfilter] at hinstall
    exact (logs_filter hinstall (SyscallFilter.le_union_left ..)).trans
      (hundo true a₁ hframe.configs)
  | restRefused wrote a₁ _ a₂ hfilter hrest =>
    have hframe := (framed_installSyscallFilter filter).of_run hfilter
    have hconfigs := ((framed_installTracerAndBuffer r).of_run hrest).configs.trans hframe.configs
    rw [hfilter] at hinstall
    exact ((logs_filter hinstall (SyscallFilter.le_union_left ..)).trans
      (logs_rest _ hframe hsettled hrest)).trans (hundo wrote a₂ hconfigs)

theorem logs_completeSetup (hsessions : ¬a.sessions.isEmpty) (hclock : a.installed.clock.isSome)
    (r : Request) (id : SessionId) (plan : Plan) :
    a.facility.Logs (SwitchesOn plan.events) ((completeSetup r id plan).run a).2.facility := by
  have hchosen : (selectClock r).run a = ((), a) := by
    unfold selectClock
    rw [state_get_bind, if_neg (by simpa [Option.isSome_iff_ne_none] using hclock)]
    rfl
  have hjoin := (framed_joinAnnotations r ((enableEvents plan.events).run a).2).facility
  rw [completeSetup_run]
  dsimp only
  rw [startFresh_run hsessions, hchosen]
  exact (logs_enableEvents plan.events a).trans (hjoin.logs.mono fun _ _ h => h.elim)

theorem logs_setup {report report' : SetupReport} (hsessions : ¬a.sessions.isEmpty)
    (hsettled : a.Settled) (hids : a.IdsAllotted)
    (hrun : (setup r report).run a = ((id, report'), a')) :
    unionOfSyscalls a.configs ≤ unionOfSyscalls a'.configs ∧
      a.facility.Logs (fun path value => EssentialWrite a (unionOfSyscalls a'.configs) path value ∨
        SwitchesOn (r.plan a.catalog).events path value) a'.facility := by
  cases setup_case hrun with
  | refused => exact ⟨SyscallFilter.le_refl _, .refl _ _⟩
  | undone _ _ _ _ _ hundone =>
    rw [((framed_installEssentials r _).of_run hundone).configs]
    refine ⟨SyscallFilter.le_refl _, ?_⟩
    exact (logs_essentials_refused hsettled hundone).mono fun _ _ => .inl
  | completed _ _ a₁ hid _ hdone =>
    have hframe := (framed_installEssentials r _).of_run hdone
    have hunion := unionOfSyscalls_completeSetup r (r.plan a.catalog) (hids.of_frame hframe)
      (by rw [hframe.lastId]; exact hid)
    have hsessions₁ : ¬a₁.sessions.isEmpty := by
      rw [hframe.sessions]
      exact hsessions
    have hclock₁ : a₁.installed.clock.isSome := by
      rw [hframe.belief Installed.clock fun _ => rfl]
      exact hsettled.clock
    rw [hunion, hframe.configs]
    refine ⟨SyscallFilter.le_union_left .., ?_⟩
    have hessentials := logs_essentials_installed hsettled hdone
    have hcomplete := logs_completeSetup hsessions₁ hclock₁ r id (r.plan a.catalog)
    exact (hessentials.mono fun _ _ => .inl).trans (hcomplete.mono fun _ _ => .inr)

theorem appendsOnly_rest {P : String → Prop} {a₁ : Arbiter Simulation}
    (hframe : Frame P Installed.withoutSyscallFilter a a₁) (hsettled : a.Settled)
    (hshared : a.installed.functionGraph) {result : Except SetupFailure Unit}
    (h : (installTracerAndBuffer r).run.run a₁ = (result, a')) (file : String) :
    a₁.facility.AppendsOnly file a'.facility := by
  have hsettled₁ := hsettled.of_frame hframe (fun _ => rfl) fun _ => rfl
  have hshared₁ : a₁.installed.functionGraph := by
    rw [hframe.belief Installed.functionGraph fun _ => rfl]
    exact hshared
  have hengage := installTracerAndBuffer_pinned (r := r) hsettled₁.buffer
  rw [h] at hengage
  rw [show a' = _ from hengage]
  exact (engageFunctionGraph_shared hshared₁).2 file

/-- A setup that shares the tracer keeps what its filters hold. -/
theorem appendsOnly_setup {report report' : SetupReport} (hsettled : a.Settled)
    (hshared : a.installed.functionGraph) (hrun : (setup r report).run a = ((id, report'), a'))
    {file : String} (hfile : file ∈ Control.filterFiles) :
    a.facility.AppendsOnly file a'.facility := by
  have hfilter : file ∉ Control.syscallFilters := by
    revert file
    decide
  have hcompletion : ¬isCompletionFile file := by
    unfold isCompletionFile
    revert file
    decide
  -- Only the tracer and the buffer come near the filters of the tracer.
  cases setup_case hrun with
  | refused => exact .of_writesOnly (.refl (fun _ => False) _) id
  | undone _ _ _ _ _ hundone =>
    cases essentials_case hundone with
    | filterRefused _ a₁ hinstall =>
      have hframe := (framed_installSyscallFilter _).of_run hinstall
      exact .of_writesOnly (hframe.trans (framed_restoreSyscallFilter a₁)).facility hfilter
    | restRefused wrote a₁ _ a₂ hinstall hrest =>
      have hframe := (framed_installSyscallFilter _).of_run hinstall
      have hadded := appendsOnly_rest hframe hsettled hshared hrest file
      exact ((Simulation.AppendsOnly.of_writesOnly hframe.facility hfilter).trans hadded).trans
        (.of_writesOnly (framed_undoFilter wrote a₂).facility hfilter)
  | completed _ _ a₁ _ _ hdone =>
    cases essentials_case hdone with
    | installed wrote a₂ _ hinstall hrest =>
      have hframe := (framed_installSyscallFilter _).of_run hinstall
      have hadded := appendsOnly_rest hframe hsettled hshared hrest file
      exact ((Simulation.AppendsOnly.of_writesOnly hframe.facility hfilter).trans hadded).trans
        (.of_writesOnly (frame_completeSetup r id (r.plan a.catalog) a₁).facility hcompletion)

/-! ### Removals -/

theorem logs_deactivate (id : SessionId) (a : Arbiter Simulation) :
    a.facility.Logs (fun path value => path = Control.tracingOn ∧ value = Control.off ∧
        id ∈ a.active ∧ ((deactivate id).run a).2.active.isEmpty)
      ((deactivate id).run a).2.facility := by
  rw [deactivate_run]
  split
  · next hactive =>
    split
    · next hlast => exact .written _ ⟨rfl, rfl, hactive, hlast.1⟩
    · exact .refl _ _
  · exact .refl _ _

theorem logs_beforeEvents (a : Arbiter Simulation) (id : SessionId) :
    a.facility.Logs (fun path value => path ∈ Control.syscallFilters ∧
        value = (unionOfSyscalls (a.without id).configs).expression)
      (a.beforeEvents id).facility := by
  have hannotations := framed_shrinkAnnotations (a.without id)
  have hfilter := logs_installSyscallFilter .none (shrinkAnnotations.run (a.without id)).2
  rw [hannotations.configs, SyscallFilter.union_none] at hfilter
  exact (hannotations.facility.logs.mono fun _ _ h => h.elim).trans hfilter

theorem logs_remove (hregistered : a.isRegistered id) :
    a.facility.Logs (fun path value =>
        (path ∈ Control.syscallFilters ∧
          value = (unionOfSyscalls ((remove id).run a).2.configs).expression) ∨
        SwitchesOff a.catalog.events (a.without id).staleEvents path value ∨
        path = Control.tracingOn ∧ value = Control.off ∧ id ∈ a.active ∧
          ((remove id).run a).2.active.isEmpty)
      ((remove id).run a).2.facility := by
  have hframe := frame_beforeEvents a id
  have hevents := logs_disableEvents (a.beforeEvents id).staleEvents (a.beforeEvents id)
  have htracing := logs_deactivate id (shrinkEvents.run (a.beforeEvents id)).2
  rw [← shrinkEvents_run, hframe.staleEvents fun _ => rfl, hframe.catalog] at hevents
  rw [(framed_shrinkEvents _).active, hframe.active] at htracing
  rw [configs_remove hregistered, remove_registered_run hregistered]
  refine .trans ?_ (htracing.mono fun _ _ => Or.inr ∘ Or.inr)
  refine .trans ?_ (hevents.mono fun _ _ => Or.inr ∘ Or.inl)
  exact (logs_beforeEvents a id).mono fun _ _ => Or.inl

/-! ### Runs -/

def sharedFiles : List String :=
  [Control.tracingOn, Control.allEvents, Control.trace, Control.traceClock, Control.bufferSize]

/-- A write of a setup that the sessions do not suffer from, where `done` is the state after it. -/
structure SetupWrite (a done : Arbiter Simulation) (path value : String) : Prop where
  unshared : path ∉ sharedFiles
  switch : Simulation.isSwitch path → value = Control.on ∧ ∃ e,
    a.catalog.events.getById e.id = some e ∧ ¬e.isAlwaysOn ∧ path = Control.eventSwitch e.fullName
  tracer : a.installed.functionGraph → path ≠ Control.currentTracer
  filter : path ∈ Control.syscallFilters → ∃ f, value = SyscallFilter.expression f ∧
    ∀ id config, a.session? id = some config ∨ done.session? id = some config →
      config.syscallFilter ≤ f

/-- A write of a removal that the remaining sessions do not suffer from. -/
structure RemovalWrite (a : Arbiter Simulation) (id : SessionId) (removed : Arbiter Simulation)
    (path value : String) : Prop where
  switch : Simulation.isSwitch path → value = Control.off ∧ ∃ e,
    a.catalog.events.getById e.id = some e ∧ path = Control.eventSwitch e.fullName ∧
      ∀ id config, removed.session? id = some config → ¬config.eventFilter.isEnabled e.id
  tracing : path = Control.tracingOn → value = Control.off ∧ id ∈ a.active ∧ removed.active.isEmpty
  filter : path ∈ Control.syscallFilters → ∃ f, value = SyscallFilter.expression f ∧
    ∀ id config, removed.session? id = some config → config.syscallFilter ≤ f

theorem syscallFilter_le {bound : SyscallFilter} {config : SessionConfig}
    (hbound : unionOfSyscalls a.configs ≤ bound) (hconfig : a.session? id = some config) :
    config.syscallFilter ≤ bound :=
  SyscallFilter.le_trans (le_unionOfSyscalls (mem_configs.mpr ⟨id, hconfig⟩)) hbound

theorem EssentialWrite.setupWrite {done : Arbiter Simulation} {path value : String}
    (hle : unionOfSyscalls a.configs ≤ unionOfSyscalls done.configs)
    (h : EssentialWrite a (unionOfSyscalls done.configs) path value) :
    SetupWrite a done path value := by
  have htracer : ∀ path ∈ Control.tracerFiles, path ∉ sharedFiles ∧
      Simulation.isSwitch path = false ∧ path ∉ Control.syscallFilters := by decide
  have hfilters : ∀ path ∈ Control.syscallFilters, path ∉ sharedFiles ∧
      Simulation.isSwitch path = false ∧ path ≠ Control.currentTracer := by decide
  obtain ⟨hpath, hspared⟩ | ⟨hpath, f, hf, hvalue⟩ := h
  · obtain ⟨hunshared, hswitch, hfilter⟩ := htracer path hpath
    exact ⟨hunshared, by simp [hswitch], hspared, fun h => absurd h hfilter⟩
  · obtain ⟨hunshared, hswitch, htracer⟩ := hfilters path hpath
    refine ⟨hunshared, by simp [hswitch], fun _ => htracer, fun _ => ⟨f, hvalue, ?_⟩⟩
    rintro id config (hconfig | hconfig)
    · exact syscallFilter_le (SyscallFilter.le_trans hle hf) hconfig
    · exact syscallFilter_le hf hconfig

/-- Turning on an event of the table is no harm to the sessions. -/
theorem SwitchesOn.setupWrite {done : Arbiter Simulation} {events : List Event} {path value : String}
    (hevents : ∀ e ∈ events, a.catalog.events.getById e.id = some e)
    (h : SwitchesOn events path value) : SetupWrite a done path value := by
  obtain ⟨hvalue, e, he, hswitched, rfl⟩ := h
  have hne : ∀ path, Simulation.isSwitch path = false → Control.eventSwitch e.fullName ≠ path :=
    fun path hpath => Simulation.eventSwitch_ne hpath e.fullName
  refine ⟨?_, fun _ => ⟨hvalue, e, hevents e he, hswitched, rfl⟩, fun _ => hne _ (by decide), ?_⟩
  · simp only [sharedFiles, List.mem_cons, List.not_mem_nil, or_false, not_or]
    refine ⟨hne _ (by decide), Simulation.eventSwitch_ne_allEvents _, hne _ (by decide),
      hne _ (by decide), hne _ (by decide)⟩
  · intro hpath
    exact absurd rfl (hne _ (Simulation.isSwitch_eq_false (List.mem_append_right _ hpath)))

theorem removalWrites {events : List Event} (htable : a.catalog.events = .ofList events)
    (hregistered : a.isRegistered id) :
    a.facility.Logs (RemovalWrite a id ((remove id).run a).2) ((remove id).run a).2.facility := by
  have hfilters : ∀ path ∈ Control.syscallFilters,
      Simulation.isSwitch path = false ∧ path ≠ Control.tracingOn := by decide
  apply (logs_remove hregistered).mono
  rintro path value (⟨hpath, hvalue⟩ | ⟨hvalue, event, hstale, e, he, -, rfl⟩ | ⟨rfl, htracing⟩)
  · obtain ⟨hswitch, hne⟩ := hfilters path hpath
    refine ⟨by simp [hswitch], fun h => absurd h hne, fun _ => ⟨_, hvalue, ?_⟩⟩
    intro id config hconfig
    exact syscallFilter_le (SyscallFilter.le_refl _) hconfig
  · have hid : e.id = event := by
      rw [htable] at he
      exact (EventTable.mem_of_getById he).2
    subst hid
    have hunwanted : ∀ other config, ((remove id).run a).2.session? other = some config →
        ¬config.eventFilter.isEnabled e.id := by
      intro other config hconfig hwanted
      have hmem := mem_configs.mpr ⟨other, hconfig⟩
      rw [configs_remove hregistered] at hmem
      exact (mem_staleEvents.mp hstale).2 ((isEnabled_unionOfEvents _ _).mpr ⟨config, hmem, hwanted⟩)
    refine ⟨fun _ => ⟨hvalue, e, he, rfl, hunwanted⟩, fun htracing => ?_, fun hpath => ?_⟩
    · exact absurd htracing (Simulation.eventSwitch_ne (by decide) e.fullName)
    · have hswitch := (hfilters _ hpath).1
      exact absurd rfl (Simulation.eventSwitch_ne hswitch e.fullName)
  · refine ⟨fun h => absurd h (by decide), fun _ => htracing, fun h => absurd h (by decide)⟩

theorem mem_plan_events {events : List Event} {catalog : Catalog} {e : Event}
    (htable : catalog.events = .ofList events) (he : e ∈ (r.plan catalog).events) :
    catalog.events.getById e.id = some e := by
  obtain ⟨n, -, hget⟩ := List.mem_filterMap.mp he
  obtain ⟨id, -, hid⟩ := Option.bind_eq_some_iff.mp hget
  rw [htable] at hid ⊢
  obtain ⟨-, rfl⟩ := EventTable.mem_of_getById hid
  exact hid

/-- Whatever happened before, as long as there is a session: a setup does not write the files that
concern all sessions, turns on switches of events only, leaves a tracer that is engaged alone but for
lines that it adds to its filters, and never narrows the filter on system calls. A removal turns off
only what no remaining session records, and tracing only with the last session that was recording, and
does not narrow the filter below what the remaining sessions record. -/
theorem writes_amongSessions (events : List Event) (syscalls : SyscallTable)
    (vendor : VendorCategories) (settings : Settings) (steps : List Step) :
    let a := (fresh ⟨.ofList events, syscalls, vendor⟩ settings).after steps
    ¬a.sessions.isEmpty →
      (∀ r report,
        let done := ((setup r report).run a).2
        a.facility.Logs (SetupWrite a done) done.facility ∧
          (a.installed.functionGraph → ∀ file ∈ Control.filterFiles,
            a.facility.AppendsOnly file done.facility)) ∧
      ∀ id,
        let removed := ((remove id).run a).2
        a.facility.Logs (RemovalWrite a id removed) removed.facility := by
  intro a hsessions
  have hids : a.IdsAllotted :=
    invariant_after (fun _ step ha => ha.apply step) (fun _ _ hconfig => nomatch hconfig) steps
  have hsettled : a.Settled :=
    invariant_after (I := SettledBySessions) (fun _ step ha => ha.apply step)
      (fun h => absurd ExtTreeMap.isEmpty_empty h) steps hsessions
  have htable : a.catalog.events = .ofList events :=
    invariant_after (I := fun a => a.catalog.events = .ofList events)
      (fun a step ha => by rw [catalog_apply, ha]) rfl steps
  constructor
  · intro r report done
    have hrun : (setup r report).run a = ((_, _), done) := rfl
    obtain ⟨hle, hlogs⟩ := logs_setup hsessions hsettled hids hrun
    refine ⟨hlogs.mono ?_, fun hshared file => appendsOnly_setup hsettled hshared hrun⟩
    rintro path value (hwrite | hwrite)
    · exact hwrite.setupWrite hle
    · exact hwrite.setupWrite fun e => mem_plan_events htable
  · intro id removed
    by_cases hregistered : a.isRegistered id
    · exact removalWrites htable hregistered
    · have hsame : removed = a := by
        change ((remove id).run a).2 = a
        rw [remove_run, if_neg hregistered]
      rw [hsame]
      exact .refl _ _

/-- A session that records a system call and traces functions. -/
def tracingSession : List Step :=
  [.setup { recordCallAndGraph "0" with functionFilters := ["vfs_read"] } {}, .activate ⟨1⟩]

theorem writes_amongSessions_tracingSession :
    let a := (fresh ⟨.ofList smallKernel, {}, {}⟩ {}).after tracingSession
    let done := ((setup (traceFunctions ["vfs_write"] []) {}).run a).2
    let removed := ((remove ⟨1⟩).run a).2
    ¬a.sessions.isEmpty ∧ a.installed.functionGraph ∧
      a.facility.Logs (SetupWrite a done) done.facility ∧
      a.facility.AppendsOnly Control.functionFilter done.facility ∧
      done.facility.writesTo Control.functionFilter = ["", "vfs_read", "vfs_write"] ∧
      a.facility.Logs (RemovalWrite a ⟨1⟩ removed) removed.facility ∧
      removed.facility.writesTo Control.tracingOn = [Control.on, Control.off] := by
  have hruns :
      ¬((fresh ⟨.ofList smallKernel, {}, {}⟩ {}).after tracingSession).sessions.isEmpty ∧
      ((fresh ⟨.ofList smallKernel, {}, {}⟩ {}).after tracingSession).installed.functionGraph ∧
      ((setup (traceFunctions ["vfs_write"] []) {}).run
        ((fresh ⟨.ofList smallKernel, {}, {}⟩ {}).after tracingSession)).2.facility.writesTo
          Control.functionFilter = ["", "vfs_read", "vfs_write"] ∧
      ((remove ⟨1⟩).run
        ((fresh ⟨.ofList smallKernel, {}, {}⟩ {}).after tracingSession)).2.facility.writesTo
          Control.tracingOn = [Control.on, Control.off] := by
    decide +kernel
  obtain ⟨hsessions, hshared, hlines, hstopped⟩ := hruns
  obtain ⟨hsetup, hremove⟩ := writes_amongSessions smallKernel {} {} {} tracingSession hsessions
  obtain ⟨hlogs, happends⟩ := hsetup (traceFunctions ["vfs_write"] []) {}
  exact ⟨hsessions, hshared, hlogs, happends hshared _ (by decide), hlines, hremove ⟨1⟩, hstopped⟩

end Arbiter

end TraceArbiter
