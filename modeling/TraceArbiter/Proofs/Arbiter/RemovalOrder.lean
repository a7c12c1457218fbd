import TraceArbiter.Proofs.Arbiter.Registry
import TraceArbiter.Proofs.Arbiter.Undisturbed

/-!
# The order of removals

Removing sessions one after the other goes through states that depend on the order: other events are
turned off, annotations are started anew with other lists or stopped, another session is the last one to
record. In undisturbed runs this makes no difference in the end. Each removal leaves, of what there was
before it, what the remaining sessions ask for, and leaving that twice is leaving what is asked for in
the end.
-/

namespace TraceArbiter

open Std

/-! ### Annotations -/

/-- Annotations are recorded for the same apps and categories. -/
structure AnnotationSession.SameNames (s t : AnnotationSession) : Prop where
  apps : ∀ app, app ∈ s.apps ↔ app ∈ t.apps
  categories : ∀ category, category ∈ s.categories ↔ category ∈ t.categories

namespace AnnotationState

variable {s s' t : AnnotationState} {configs : List SessionConfig}

theorem mem_keptApps {app : String} :
    app ∈ s.keptApps configs ↔ app ∈ s.apps ∧ app ∈ Arbiter.unionOfApps configs :=
  Arbiter.mem_filter_mem

theorem mem_keptCategories {category : String} :
    category ∈ s.keptCategories configs ↔
      category ∈ s.categories ∧ category ∈ Arbiter.unionOfCategories configs :=
  Arbiter.mem_filter_mem

/-- Where annotations can be started, shrinking keeps of the running names those that are asked for. -/
theorem ShrinkCase.mem_iff (h : ShrinkCase configs s s') (hs : s.NamesRight)
    (hfailure : s.failure = none) :
    (∀ app, app ∈ s'.apps ↔ app ∈ s.apps ∧ app ∈ Arbiter.unionOfApps configs) ∧
      ∀ category, category ∈ s'.categories ↔
        category ∈ s.categories ∧ category ∈ Arbiter.unionOfCategories configs := by
  have hkept (hwanted : s.Wanted configs) :
      (∀ app, app ∈ s.apps ↔ app ∈ s.apps ∧ app ∈ Arbiter.unionOfApps configs) ∧
        ∀ category, category ∈ s.categories ↔
          category ∈ s.categories ∧ category ∈ Arbiter.unionOfCategories configs :=
    ⟨fun _ => (and_iff_left_of_imp (hwanted.apps ·)).symm,
      fun _ => (and_iff_left_of_imp (hwanted.categories ·)).symm⟩
  cases h with
  | off hoff => exact hkept (wanted_of_off hs hoff)
  | wanted happs hcategories => exact hkept (wanted_of_length happs hcategories)
  | stopped happs hcategories =>
    constructor
    · intro app
      rw [← mem_keptApps, happs]
      rfl
    · intro category
      rw [← mem_keptCategories, hcategories]
      rfl
  | restarted => exact ⟨fun _ => mem_keptApps, fun _ => mem_keptCategories⟩
  | refused _ reason hreason =>
    rw [hfailure] at hreason
    cases hreason

/-- Whether annotations are on depends on the names that are running only. -/
theorem NamesRight.on_eq (hs : s.NamesRight) (ht : t.NamesRight)
    (happs : ∀ app, app ∈ s.apps ↔ app ∈ t.apps)
    (hcategories : ∀ category, category ∈ s.categories ↔ category ∈ t.categories) : s.on = t.on := by
  have hnil : ∀ names names' : List String, (∀ name, name ∈ names ↔ name ∈ names') →
      (names ≠ [] ↔ names' ≠ []) := by
    intro names names' hsame
    simp only [ne_eq, List.eq_nil_iff_forall_not_mem, hsame]
  rw [Bool.eq_iff_iff, hs.on_iff, ht.on_iff, hnil _ _ happs, hnil _ _ hcategories]

theorem Mirrored.sameNames (hs : s.Mirrored) (ht : t.Mirrored) (hon : s.on = t.on)
    (happs : ∀ app, app ∈ s.apps ↔ app ∈ t.apps)
    (hcategories : ∀ category, category ∈ s.categories ↔ category ∈ t.categories) :
    Option.Rel AnnotationSession.SameNames s.running t.running := by
  rw [hs, ht, hon]
  split
  · exact .some ⟨happs, hcategories⟩
  · exact .none

end AnnotationState

/-! ### Switches -/

/-- The switch of the event, if it has one. -/
def EventTable.switch? (table : EventTable) (event : EventId) : Option String :=
  (table.getById event).bind fun e =>
    if e.isAlwaysOn then none else some (Control.eventSwitch e.fullName)

namespace Arbiter

variable {a p q : Arbiter Simulation} {id : SessionId}

theorem value?_disableEvent (hwrites : a.facility.failingWrites = ∅) (event : EventId)
    (path : String) :
    ((disableEvent event).run a).2.facility.value? path =
      if a.catalog.events.switch? event = some path then some Control.off
      else a.facility.value? path := by
  rw [disableEvent_run]
  unfold EventTable.switch?
  cases a.catalog.events.getById event with
  | none => rfl
  | some e =>
    rw [Option.bind_some]
    dsimp only
    by_cases halways : e.isAlwaysOn
    · rw [if_pos halways, if_pos halways]
      rfl
    · rw [if_neg halways, if_neg halways, hwrites, if_neg ExtTreeSet.not_mem_empty]
      simp only [Simulation.value?_written, Option.some_inj]

/-- Where no write fails, all the switches are turned off that the events have. -/
theorem value?_disableEvents (hwrites : a.facility.failingWrites = ∅) (events : List EventId)
    (path : String) :
    ((disableEvents events).run a).2.facility.value? path =
      if path ∈ events.filterMap a.catalog.events.switch? then some Control.off
      else a.facility.value? path := by
  induction events generalizing a with
  | nil => rfl
  | cons event events ih =>
    have hframe := framed_disableEvent event a
    have hrest := ih (hframe.facility.failingWrites_eq.trans hwrites)
    unfold disableEvents
    rw [state_bind, hrest, value?_disableEvent hwrites, hframe.catalog]
    simp only [List.mem_filterMap, List.exists_mem_cons_iff]
    by_cases hfirst : a.catalog.events.switch? event = some path
    · simp [hfirst]
    · simp [hfirst]

/-- The installed events that none of the given sessions records. -/
def dropped (a : Arbiter Simulation) (configs : List SessionConfig) : List EventId :=
  a.installed.events.toList.filter fun event => !(unionOfEvents configs).isEnabled event

theorem mem_dropped {configs : List SessionConfig} {event : EventId} :
    event ∈ a.dropped configs ↔
      a.installed.events.isEnabled event ∧ ¬(unionOfEvents configs).isEnabled event := by
  simp [dropped, EventFilter.mem_toList]

/-- Of the switches, a removal turns off those of the events that nobody records any more. -/
theorem value?_switch_remove (hwrites : a.facility.failingWrites = ∅)
    (hregistered : a.isRegistered id) {path : String} (hpath : Simulation.isSwitch path) :
    ((remove id).run a).2.facility.value? path =
      if path ∈ (a.dropped ((remove id).run a).2.configs).filterMap a.catalog.events.switch? then
        some Control.off
      else a.facility.value? path := by
  have hbefore := frame_beforeEvents a id
  have hstale : (a.beforeEvents id).staleEvents = a.dropped (a.without id).configs :=
    hbefore.staleEvents fun _ => rfl
  have hkept : (a.beforeEvents id).facility.value? path = a.facility.value? path := by
    refine hbefore.facility.value?_eq path fun hfilter => ?_
    rw [Simulation.isSwitch_eq_false (List.mem_append_right _ hfilter)] at hpath
    cases hpath
  have hstop : ∀ b : Arbiter Simulation,
      ((deactivate id).run b).2.facility.value? path = b.facility.value? path := by
    intro b
    refine (frame_deactivate id b).facility.value?_eq path ?_
    rintro rfl
    exact absurd hpath (by decide)
  rw [configs_remove hregistered, remove_registered_run hregistered, hstop, shrinkEvents_run,
    value?_disableEvents (hbefore.facility.failingWrites_eq.trans hwrites), hstale, hbefore.catalog,
    hkept]
  rfl

/-! ### Sessions -/

theorem configs_subset (hsessions : ∀ id config, p.session? id = some config →
    a.session? id = some config) : p.configs ⊆ a.configs := by
  intro config hmem
  obtain ⟨id, hconfig⟩ := mem_configs.mp hmem
  exact mem_configs.mpr ⟨id, hsessions id config hconfig⟩

theorem session?_remove (a : Arbiter Simulation) (id id' : SessionId) :
    ((remove id).run a).2.session? id' =
      if id' = id ∧ id'.isValid then none else a.session? id' := by
  by_cases hregistered : a.isRegistered id
  · have hvalid := (isRegistered_iff_isValid.mp hregistered).1
    rw [session?_of_erase ((sessions_remove id a).trans (if_pos hregistered))]
    by_cases heq : id = id'
    · rw [if_pos heq, if_pos ⟨heq.symm, heq ▸ hvalid⟩]
    · rw [if_neg heq, if_neg fun h => heq h.1.symm]
  · rw [remove_run, if_neg hregistered]
    split
    · next h =>
      obtain ⟨rfl, hvalid⟩ := h
      rw [isRegistered_iff_isValid, and_iff_right hvalid] at hregistered
      exact Option.not_isSome_iff_eq_none.mp hregistered
    · rfl

theorem session?_removals (a : Arbiter Simulation) (ids : List SessionId) (id : SessionId) :
    (a.after (ids.map .remove)).session? id =
      if id ∈ ids ∧ id.isValid then none else a.session? id := by
  induction ids generalizing a with
  | nil => rfl
  | cons first ids ih =>
    have hrest := ih ((remove first).run a).2
    rw [session?_remove, ← ite_or] at hrest
    refine hrest.trans ?_
    simp only [← or_and_right, List.mem_cons, or_comm]

/-- Those go on recording that are still registered. -/
theorem mem_active_remove (ha : a.ActiveRegistered) {id' : SessionId} :
    id' ∈ ((remove id).run a).2.active ↔
      id' ∈ a.active ∧ (((remove id).run a).2.session? id').isSome := by
  by_cases hregistered : a.isRegistered id
  · obtain ⟨shrunk, hshrunk, hrun⟩ := remove_case hregistered
    have hvalid := (isRegistered_iff_isValid.mp hregistered).1
    have hactive : id' ∈ ((remove id).run a).2.active ↔ id' ≠ id ∧ id' ∈ a.active := by
      rw [hrun, mem_active_deactivate, hshrunk.active]
      rfl
    rw [hactive, session?_remove, and_comm]
    refine and_congr_right fun hrecording => ?_
    by_cases heq : id' = id
    · rw [if_pos ⟨heq, heq ▸ hvalid⟩]
      exact iff_of_false (not_not_intro heq) Bool.false_ne_true
    · rw [if_neg fun h => heq h.1]
      exact iff_of_true heq (ha id' hrecording)
  · rw [remove_run, if_neg hregistered]
    exact (and_iff_left_of_imp (ha id')).symm

/-! ### What removals leave -/

/-- What removals leave when they are refused nothing: of everything that there was, what the sessions
that are left ask for. -/
structure ShrunkTo (a p : Arbiter Simulation) : Prop where
  catalog : p.catalog = a.catalog
  sessions : ∀ id config, p.session? id = some config → a.session? id = some config
  active : ∀ id, id ∈ p.active ↔ id ∈ a.active ∧ (p.session? id).isSome
  events : ∀ event, p.installed.events.isEnabled event ↔
    a.installed.events.isEnabled event ∧ (unionOfEvents p.configs).isEnabled event
  switches : ∀ path, Simulation.isSwitch path → p.facility.value? path =
    if path ∈ (a.dropped p.configs).filterMap a.catalog.events.switch? then some Control.off
    else a.facility.value? path
  apps : ∀ app, app ∈ p.installed.apps ↔ app ∈ a.installed.apps ∧ app ∈ unionOfApps p.configs
  categories : ∀ category, category ∈ p.installed.categories ↔
    category ∈ a.installed.categories ∧ category ∈ unionOfCategories p.configs

theorem unionOfEvents_mono {configs configs' : List SessionConfig} (h : configs ⊆ configs')
    {event : EventId} (henabled : (unionOfEvents configs).isEnabled event) :
    (unionOfEvents configs').isEnabled event := by
  obtain ⟨config, hmem, hgranted⟩ := (isEnabled_unionOfEvents _ _).mp henabled
  exact (isEnabled_unionOfEvents _ _).mpr ⟨config, h hmem, hgranted⟩

/-- What is left of what is left, if the second restriction is the sharper one. -/
theorem iff_and_trans {b b' b'' c c' : Prop} (h : b' ↔ b ∧ c) (h' : b'' ↔ b' ∧ c') (hc : c' → c) :
    b'' ↔ b ∧ c' := by
  rw [h', h, and_assoc, and_iff_right_of_imp hc]

namespace ShrunkTo

theorem refl (ha : a.Orderly) : ShrunkTo a a where
  catalog := rfl
  sessions := fun _ _ hconfig => hconfig
  active := fun id => (and_iff_left_of_imp (ha.active id)).symm
  events := by
    intro event
    rw [ha.events.installed, and_self]
  switches := by
    intro path _
    have hnone : a.dropped a.configs = [] := by
      refine List.eq_nil_iff_forall_not_mem.mpr fun event hevent => ?_
      obtain ⟨hinstalled, hunwanted⟩ := mem_dropped.mp hevent
      rw [ha.events.installed] at hinstalled
      exact hunwanted hinstalled
    rw [hnone]
    rfl
  apps := fun _ => (and_iff_left_of_imp (ha.annotations.wanted.apps ·)).symm
  categories := fun _ => (and_iff_left_of_imp (ha.annotations.wanted.categories ·)).symm

theorem trans (h : ShrunkTo a p) (h' : ShrunkTo p q) : ShrunkTo a q where
  catalog := h'.catalog.trans h.catalog
  sessions := fun id config hconfig => h.sessions id config (h'.sessions id config hconfig)
  active := fun id => by
    refine iff_and_trans (h.active id) (h'.active id) fun hsome => ?_
    obtain ⟨config, hconfig⟩ := Option.isSome_iff_exists.mp hsome
    exact Option.isSome_iff_exists.mpr ⟨config, h'.sessions id config hconfig⟩
  events := fun event => iff_and_trans (h.events event) (h'.events event)
    (unionOfEvents_mono (configs_subset h'.sessions))
  switches := fun path hpath => by
    -- An event that is dropped in the end was dropped at once or recorded in between.
    have hdropped : path ∈ (a.dropped q.configs).filterMap a.catalog.events.switch? ↔
        path ∈ (p.dropped q.configs).filterMap a.catalog.events.switch? ∨
          path ∈ (a.dropped p.configs).filterMap a.catalog.events.switch? := by
      simp only [List.mem_filterMap, ← exists_or, ← or_and_right, mem_dropped, h.events]
      refine exists_congr fun event => and_congr_left fun _ => ?_
      have hmono : (unionOfEvents q.configs).isEnabled event →
          (unionOfEvents p.configs).isEnabled event :=
        unionOfEvents_mono (configs_subset h'.sessions)
      tauto
    rw [h'.switches path hpath, h.switches path hpath, h.catalog]
    simp only [hdropped, ite_or]
  apps := fun app => iff_and_trans (h.apps app) (h'.apps app)
    (unionOfApps_mono (configs_subset h'.sessions) ·)
  categories := fun category => iff_and_trans (h.categories category) (h'.categories category)
    (unionOfCategories_mono (configs_subset h'.sessions) ·)

theorem remove_registered (ha : a.Orderly) (hregistered : a.isRegistered id) :
    ShrunkTo a ((remove id).run a).2 where
  catalog := (frame_remove id a).catalog
  sessions := fun id' config hconfig => by
    rw [session?_remove] at hconfig
    split at hconfig
    · cases hconfig
    · exact hconfig
  active := fun id' => mem_active_remove ha.active
  events := fun event => by
    rw [isEnabled_remove hregistered, ha.unfailing.lockedSwitch?, Option.isSome_none]
    exact and_congr_right fun _ => or_iff_left Bool.false_ne_true
  switches := fun path => value?_switch_remove ha.unfailing.writes hregistered
  apps := by
    rw [configs_remove hregistered]
    exact ((annotationState_remove hregistered).mem_iff ha.annotations.names
      ha.unfailing.annotations).1
  categories := by
    rw [configs_remove hregistered]
    exact ((annotationState_remove hregistered).mem_iff ha.annotations.names
      ha.unfailing.annotations).2

theorem remove (ha : a.Orderly) (id : SessionId) : ShrunkTo a ((remove id).run a).2 := by
  by_cases hregistered : a.isRegistered id
  · exact remove_registered ha hregistered
  · rw [remove_run, if_neg hregistered]
    exact refl ha

theorem removals (ha : a.Orderly) (ids : List SessionId) :
    ShrunkTo a (a.after (ids.map .remove)) := by
  induction ids generalizing a with
  | nil => exact refl ha
  | cons id ids ih =>
    have hrest := ih (ha.apply (show (Step.remove id).isUndisturbed from rfl))
    exact (remove ha id).trans hrest

end ShrunkTo

/-! ### In any order -/

/-- The sessions are the same, what is installed for them, and what the facility does for them. -/
structure SameOutcome (p q : Arbiter Simulation) : Prop where
  sessions : p.sessions = q.sessions
  active : p.active = q.active
  events : p.installed.events = q.installed.events
  syscallFilter : p.installed.syscallFilter = q.installed.syscallFilter
  annotationsOn : p.installed.annotationsOn = q.installed.annotationsOn
  apps : ∀ app, app ∈ p.installed.apps ↔ app ∈ q.installed.apps
  categories : ∀ category, category ∈ p.installed.categories ↔ category ∈ q.installed.categories
  enabledEvents : p.facility.enabledEvents = q.facility.enabledEvents
  tracingOn : p.facility.value? Control.tracingOn = q.facility.value? Control.tracingOn
  /-- A filter that was never written counts as cleared. -/
  filters : ∀ path ∈ Control.syscallFilters,
    (p.facility.value? path).getD SyscallFilter.clearExpression =
      (q.facility.value? path).getD SyscallFilter.clearExpression
  annotations : Option.Rel AnnotationSession.SameNames p.facility.annotations q.facility.annotations

theorem Orderly.tracing (ha : a.Orderly) :
    a.facility.value? Control.tracingOn =
      some (if a.active.isEmpty then Control.off else Control.on) := by
  split
  · exact ha.tracingOff ‹_›
  · exact ha.tracingOn ‹_›

/-- What removals leave depends on the sessions that are left only. -/
theorem ShrunkTo.sameOutcome (hp : ShrunkTo a p) (hq : ShrunkTo a q) (hp' : p.Orderly)
    (hq' : q.Orderly) (hsessions : p.sessions = q.sessions) : SameOutcome p q := by
  have hsession : p.session? = q.session? := by
    funext id
    unfold session?
    rw [hsessions]
  have hconfigs : p.configs = q.configs := by
    unfold configs
    rw [hsessions]
  have hactive : p.active = q.active := by
    ext id
    rw [hp.active, hq.active, hsession]
  have happs : ∀ app, app ∈ p.installed.apps ↔ app ∈ q.installed.apps := fun app => by
    rw [hp.apps, hq.apps, hconfigs]
  have hcategories : ∀ category,
      category ∈ p.installed.categories ↔ category ∈ q.installed.categories := fun category => by
    rw [hp.categories, hq.categories, hconfigs]
  have hon : p.installed.annotationsOn = q.installed.annotationsOn :=
    hp'.annotations.names.on_eq hq'.annotations.names happs hcategories
  exact {
    sessions := hsessions
    active := hactive
    events := by rw [hp'.events.installed, hq'.events.installed, hconfigs]
    syscallFilter := by
      rw [hp'.filter.installed.believed, hq'.filter.installed.believed, hconfigs]
    annotationsOn := hon
    apps := happs
    categories := hcategories
    enabledEvents := by
      ext text
      rw [Simulation.mem_enabledEvents, Simulation.mem_enabledEvents]
      refine exists_congr fun path => and_congr_left fun hname => ?_
      have hpath := Simulation.isSwitch_of_switchName? hname
      rw [hp.switches path hpath, hq.switches path hpath, hconfigs]
    tracingOn := by rw [hp'.tracing, hq'.tracing, hactive]
    filters := fun path hpath => by
      rw [hp'.filter.installed.written path hpath, hq'.filter.installed.written path hpath, hconfigs]
    annotations := hp'.mirrored.sameNames hq'.mirrored hon happs hcategories }

/-- Sessions that are removed one after the other may be removed in any order. -/
theorem sameOutcome_removals {ids ids' : List SessionId} (ha : a.Orderly)
    (hids : ∀ id, id ∈ ids ↔ id ∈ ids') :
    SameOutcome (a.after (ids.map .remove)) (a.after (ids'.map .remove)) := by
  have horderly : ∀ ids : List SessionId, (a.after (ids.map .remove)).Orderly := fun ids =>
    ha.after fun step hstep => by
      obtain ⟨id, -, rfl⟩ := List.mem_map.mp hstep
      rfl
  refine (ShrunkTo.removals ha ids).sameOutcome (ShrunkTo.removals ha ids') (horderly _) (horderly _) ?_
  refine ExtTreeMap.ext_getElem? fun id => ?_
  change Arbiter.session? _ id = Arbiter.session? _ id
  simp only [session?_removals, hids]

/-- As long as nothing is made to fail and nobody else writes control files: whichever of two ids is
removed first, in the end the sessions are the same and the same ones are recording, the same events
and the same filter on system calls are installed, the same switches are on and tracing is on or off
alike, and the same annotations are running. -/
theorem removals_commute (catalog : Catalog) (settings : Settings) {steps : List Step}
    (hsteps : ∀ step ∈ steps, step.isUndisturbed) (id id' : SessionId) :
    let a := (fresh catalog settings).after steps
    SameOutcome (a.after [.remove id, .remove id']) (a.after [.remove id', .remove id]) := by
  intro a
  have ha : a.Orderly := (Orderly.fresh catalog settings).after hsteps
  have hids : ∀ first : SessionId, first ∈ [id, id'] ↔ first ∈ [id', id] := fun _ => by simp [or_comm]
  exact sameOutcome_removals ha hids

/-- Three sessions share events and apps, of which the first records all system calls, the second a
single one and the third none. -/
def sharedSessions : List Step :=
  [.rig (.setExternalAgent true), .rig (.setExternalAgent false),
    .setup { events := ["raw_syscalls/*", "sched/*"], apps := ["map", "mail"] } {},
    .setup { events := ["raw_syscalls/*", "print"], syscalls := ["1"], apps := ["mail", "chat"] } {},
    .setup { events := ["sched/sched_switch"], apps := ["chat", "mail"] } {}, .activate ⟨2⟩]

/-- The filter is written in one order only, and the apps end up in different orders. -/
theorem removals_commute_sharedSessions :
    (∀ step ∈ sharedSessions, step.isUndisturbed) ∧
      let a := (fresh smallCatalog {}).after sharedSessions
      let p := a.after [.remove ⟨1⟩, .remove ⟨2⟩]
      let q := a.after [.remove ⟨2⟩, .remove ⟨1⟩]
      a.isRegistered ⟨1⟩ ∧ a.isRegistered ⟨2⟩ ∧
        p.installed.apps = ["mail", "chat"] ∧ q.installed.apps = ["chat", "mail"] ∧
        p.facility.value? Simulation.entryFilter = some "0" ∧
        q.facility.value? Simulation.entryFilter = none ∧ SameOutcome p q := by
  have hsteps : ∀ step ∈ sharedSessions, step.isUndisturbed := by decide
  have hruns :
      ((fresh smallCatalog {}).after sharedSessions).isRegistered ⟨1⟩ ∧
      ((fresh smallCatalog {}).after sharedSessions).isRegistered ⟨2⟩ ∧
      (((fresh smallCatalog {}).after sharedSessions).after
        [.remove ⟨1⟩, .remove ⟨2⟩]).installed.apps = ["mail", "chat"] ∧
      (((fresh smallCatalog {}).after sharedSessions).after
        [.remove ⟨2⟩, .remove ⟨1⟩]).installed.apps = ["chat", "mail"] ∧
      (((fresh smallCatalog {}).after sharedSessions).after
        [.remove ⟨1⟩, .remove ⟨2⟩]).facility.value? Simulation.entryFilter = some "0" ∧
      (((fresh smallCatalog {}).after sharedSessions).after
        [.remove ⟨2⟩, .remove ⟨1⟩]).facility.value? Simulation.entryFilter = none := by
    decide +kernel
  obtain ⟨hfirst, hsecond, hmail, hchat, hcleared, hunwritten⟩ := hruns
  have hsame := removals_commute smallCatalog {} hsteps ⟨1⟩ ⟨2⟩
  exact ⟨hsteps, hfirst, hsecond, hmail, hchat, hcleared, hunwritten, hsame⟩

end Arbiter

end TraceArbiter
