import TraceArbiter.Proofs.Annotation.Steps
import TraceArbiter.Proofs.Arbiter.ChosenOnce
import TraceArbiter.Proofs.Event.Accounted
import TraceArbiter.Proofs.Syscall.Installed
import TraceArbiter.Proofs.Tracer.Engaged

/-!
# Setting up the same request again

A setup looks at what is installed before it writes anything, so one that finds everything done writes
nothing. What a setup that works leaves behind, as long as nothing fails, is a state in which a second
setup of the same request finds everything done: the sessions record its system calls already, its
events are installed, its annotations are running or somebody else holds them. Main statement: the
second setup does nothing but register a session of the same configuration.
-/

namespace TraceArbiter

open Std

/-- The request adds nothing to a tracer that is engaged already. -/
def Request.AddsNoFilters (r : Request) : Prop :=
  r.functionGraph → r.functionFilters = [] ∧ r.functionGraphRoots = []

/-! ### Annotations -/

namespace AnnotationState

variable {r : Request} {s s' : AnnotationState} {errors : List String}

/-- Joining annotations would change nothing. -/
inductive Joined (r : Request) (s : AnnotationState) : Prop
  | unwanted (happs : r.apps = []) (hcategories : r.categories = [])
  | held (hoff : s.on = false) (hheld : s.externalAgent)
  | covered (hon : s.on) (happs : r.apps ⊆ s.apps) (hcategories : r.categories ⊆ s.categories)

/-- Unless annotations cannot be started, joining them once is enough. -/
theorem JoinCase.joined (h : JoinCase r s errors s') (hfailure : s.failure = none) :
    s'.Joined r := by
  cases h with
  | unwanted happs hcategories => exact .unwanted happs hcategories
  | held hoff hheld => exact .held hoff hheld
  | covered hon happs hcategories => exact .covered hon happs hcategories
  | started =>
    exact .covered rfl (Arbiter.subset_mergeNames_right _ _) (Arbiter.subset_mergeNames_right _ _)
  | refused reason hrefused =>
    rw [hfailure] at hrefused
    cases hrefused

end AnnotationState

namespace Arbiter

variable {a a' : Arbiter Simulation} {r : Request} {id : SessionId} {report report' : SetupReport}

theorem joinAnnotations_joined (h : a.annotationState.Joined r) :
    ∃ errors, (joinAnnotations r).run a = (errors, a) := by
  unfold joinAnnotations
  rw [state_get_bind]
  split
  · exact ⟨_, rfl⟩
  next hwanted =>
  split
  · exact ⟨_, rfl⟩
  next hfree =>
  cases h with
  | unwanted happs hcategories =>
    rw [Request.wantsAnnotations_eq_false_iff.mpr ⟨happs, hcategories⟩] at hwanted
    exact absurd rfl hwanted
  | held hoff hheld =>
    have hheld : Facility.externalAgentActive a.facility = true := hheld
    have hoff : a.installed.annotationsOn = false := hoff
    rw [hoff, hheld] at hfree
    exact absurd rfl hfree
  | covered hon happs hcategories =>
    have hon : a.installed.annotationsOn = true := hon
    have happs : mergeNames a.installed.apps r.apps = a.installed.apps := mergeNames_of_subset happs
    have hcategories : mergeNames a.installed.categories r.categories = a.installed.categories :=
      mergeNames_of_subset hcategories
    unfold extendAnnotations
    rw [state_get_bind]
    dsimp only
    rw [happs, hcategories, if_pos (by simp [hon])]
    exact ⟨_, rfl⟩

/-! ### Events -/

/-- The filter of a session that was granted every event of a list. -/
def allOf (events : List Event) : EventFilter :=
  .ofList (events.map Event.id)

theorem isEnabled_allOf {events : List Event} {e : Event} (he : e ∈ events) :
    (allOf events).isEnabled e.id :=
  (EventFilter.isEnabled_ofList ..).mpr (List.mem_map_of_mem he)

theorem allOf_cons (e : Event) (events : List Event) :
    (allOf events).add e.id = allOf (e :: events) := by
  refine EventFilter.ext_isEnabled fun id => ?_
  rw [EventFilter.isEnabled_add, allOf, allOf, EventFilter.isEnabled_ofList,
    EventFilter.isEnabled_ofList, List.map_cons, List.mem_cons, eq_comm]

/-- Where no write fails every event is granted. -/
theorem enableEvents_unfailing (events : List Event) (hfailures : a.facility.failingWrites = ∅) :
    ((enableEvents events).run a).1 = (allOf events, []) := by
  induction events generalizing a with
  | nil => rfl
  | cons e events ih =>
    have hon : ((enableEvent e).run a).1 = true := by
      rw [enableEvent_eq_true_iff, Refuses, hfailures]
      exact fun hrefuses => ExtTreeSet.not_mem_empty hrefuses.2.2
    have hrest := ih (a := ((enableEvent e).run a).2)
      ((Frame.allows.enableEvent e a).facility.failingWrites_eq.trans hfailures)
    rw [enableEvents_cons_run]
    dsimp only
    rw [hon, if_pos rfl, hrest, allOf_cons]

/-- Events that are installed are granted without a write. -/
theorem enableEvents_installed {events : List Event}
    (h : ∀ e ∈ events, a.installed.events.isEnabled e.id) :
    (enableEvents events).run a = ((allOf events, []), a) := by
  induction events with
  | nil => rfl
  | cons e events ih =>
    have hfirst : (enableEvent e).run a = (true, a) := by
      rw [enableEvent_run, if_pos (h e (.head _))]
    rw [enableEvents_cons_run, hfirst]
    dsimp only
    rw [ih fun e' he' => h e' (.tail _ he'), if_pos rfl, allOf_cons]

/-! ### A request that is served -/

/-- The configuration of a session that was granted everything that the catalog has for its
request. -/
def fullConfig (a : Arbiter Simulation) (r : Request) : SessionConfig :=
  a.configFor r (allOf (r.plan a.catalog).events) (r.plan a.catalog).syscallFilter

/-- Tracing that was found in order stays so once there is a session. -/
theorem checkTracing_again (hactive : a.ActiveRegistered)
    (hpassed : (checkTracing (σ := Simulation)).run.run a = (.ok (), a))
    (htracing : Control.isTracingOn a'.facility = Control.isTracingOn a.facility)
    (hsame : a'.active = a.active) (hregistered : ¬a'.sessions.isEmpty) :
    (checkTracing (σ := Simulation)).run.run a' = (.ok (), a') := by
  unfold checkTracing at hpassed ⊢
  rw [run_bind, requireRead_run] at hpassed ⊢
  rw [htracing]
  cases hread : Control.isTracingOn a.facility with
  | error e =>
    rw [hread] at hpassed
    cases hpassed
  | ok on =>
    rw [hread] at hpassed
    dsimp only at hpassed ⊢
    rw [run_get_bind] at hpassed ⊢
    rw [if_neg hregistered, if_neg]
    · rfl
    intro hdisabled
    rw [hsame] at hdisabled
    split at hpassed
    · next hnobody =>
      rw [hactive.isEmpty_active hnobody] at hdisabled
      cases hdisabled
    · cases hpassed

/-- Everything that a setup of the request sees to is done. -/
structure Served (r : Request) (a : Arbiter Simulation) : Prop where
  tracing : (checkTracing (σ := Simulation)).run.run a = (.ok (), a)
  tracer : r.functionGraph → a.installed.functionGraph
  filter : (unionOfSyscalls a.configs).union (r.plan a.catalog).syscallFilter =
    a.installed.syscallFilter
  settled : a.Settled
  registered : ¬a.sessions.isEmpty
  events : ∀ e ∈ (r.plan a.catalog).events, a.installed.events.isEnabled e.id
  annotations : a.annotationState.Joined r

namespace Served

/-- Of the checks, only the one for an id can refuse the setup. -/
theorem preflight (h : Served r a) :
    (preflight r).run.run a = (newId (σ := Simulation)).run.run a := by
  have hfree : TracerFree r a := fun hwanted hidle => absurd (h.tracer hwanted) hidle
  unfold Arbiter.preflight
  rw [run_bind_ok h.tracing, run_bind_ok (checkTracer_free hfree)]

theorem installSyscallFilter (h : Served r a) :
    (installSyscallFilter (r.plan a.catalog).syscallFilter).run.run a = (.ok false, a) := by
  rw [installSyscallFilter_run, h.filter, if_pos rfl]
  rfl

theorem engageFunctionGraph (h : Served r a) (hplain : r.AddsNoFilters) :
    (engageFunctionGraph r).run.run a = (.ok false, a) := by
  unfold Arbiter.engageFunctionGraph
  split
  · rfl
  next hwanted =>
  have hwanted : r.functionGraph = true := by simpa using hwanted
  obtain ⟨hfilters, hroots⟩ := hplain hwanted
  have hadd : (addFunctionFilters r).run.run a = (.ok (), a) := by
    rw [addFunctionFilters_run, hfilters, hroots, if_neg fun h => h.1 rfl]
    exact if_neg fun h => h.1 rfl
  rw [run_get_bind, if_pos (h.tracer hwanted), run_bind_ok hadd]
  rfl

theorem pinBuffer (h : Served r a) : (pinBuffer r).run.run a = (.ok (), a) := by
  rw [pinBuffer_run]
  exact if_pos h.settled.buffer

theorem installEssentials (h : Served r a) (hplain : r.AddsNoFilters) :
    (installEssentials r (r.plan a.catalog).syscallFilter).run.run a = (.ok (), a) := by
  have hrest : (installTracerAndBuffer r).run.run a = (.ok (), a) := by
    unfold installTracerAndBuffer
    rw [run_bind_ok (h.engageFunctionGraph hplain), orUndo_run, h.pinBuffer]
  unfold Arbiter.installEssentials
  rw [run_bind, orUndo_run, h.installSyscallFilter]
  dsimp only
  rw [orUndo_run, hrest]

theorem completeSetup (h : Served r a) (id : SessionId) :
    ((completeSetup r id (r.plan a.catalog)).run a).2 =
      ((register id (a.fullConfig r)).run a).2 := by
  obtain ⟨errors, hjoin⟩ := joinAnnotations_joined h.annotations
  rw [completeSetup_run, startFresh_run h.registered]
  dsimp only
  rw [selectClock_selected h.settled.clock]
  dsimp only
  rw [enableEvents_installed h.events]
  dsimp only
  rw [hjoin]
  rfl

/-- A setup that finds everything done does nothing but register its session. -/
theorem setup (h : Served r a) (hplain : r.AddsNoFilters) (hid : a.lastId.next? = some id)
    (report : SetupReport) :
    ((setup r report).run a).1.1 = id ∧
      ((setup r report).run a).2 = ((register id (a.fullConfig r)).run a).2 := by
  rw [setup_run, h.preflight, newId_run, hid]
  dsimp only
  rw [h.installEssentials hplain]
  exact ⟨rfl, h.completeSetup id⟩

theorem setup_exhausted (h : Served r a) (hid : a.lastId.next? = none) (report : SetupReport) :
    ((Arbiter.setup r report).run a).1.1 = .invalid ∧ ((Arbiter.setup r report).run a).2 = a := by
  rw [setup_run, h.preflight, newId_run, hid]
  exact ⟨rfl, rfl⟩

end Served

/-! ### The state after a setup -/

theorem checkTracing_of_preflight (h : (preflight r).run.run a = (.ok id, a)) :
    (checkTracing (σ := Simulation)).run.run a = (.ok (), a) := by
  unfold preflight at h
  obtain ⟨failure, hrefused⟩ | hpassed := checkTracing_run a
  · rw [run_bind_error hrefused] at h
    cases h
  · exact hpassed

/-- The essentials end with the filter that they install. -/
theorem syscallFilter_essentials {filter : SyscallFilter}
    (h : (installEssentials r filter).run.run a = (.ok (), a')) :
    a'.installed.syscallFilter = (unionOfSyscalls a.configs).union filter := by
  cases essentials_case h with
  | installed _ a₁ _ hfilter hrest =>
    rw [((framed_installTracerAndBuffer r).of_run hrest).belief Installed.syscallFilter fun _ => rfl]
    rw [installSyscallFilter_run] at hfilter
    split at hfilter
    · cases hfilter
      rfl
    · split at hfilter <;> cases hfilter
      rfl

/-- Where no write fails, a completed setup is granted everything. -/
theorem completeSetup_unfailing (r : Request) (id : SessionId) (plan : Plan)
    (hwrites : a.facility.failingWrites = ∅) :
    let done := ((completeSetup r id plan).run a).2
    (∀ e ∈ plan.events, done.installed.events.isEnabled e.id) ∧
      done.session? id = some (done.configFor r (allOf plan.events) plan.syscallFilter) := by
  have hfailures : (a.beforeEnabling r).facility.failingWrites = ∅ := by
    unfold beforeEnabling
    rw [(framed_selectClock r _).facility.failingWrites_eq,
      (framed_startFresh a).facility.failingWrites_eq, hwrites]
  have hgranted := enableEvents_unfailing plan.events hfailures
  rw [completeSetup_run]
  refine ⟨fun e he => ?_, ?_⟩
  · dsimp only
    rw [(framed_joinAnnotations r _).belief Installed.events fun _ => rfl]
    refine isEnabled_enableEvents.mpr (.inr ?_)
    change ((enableEvents plan.events).run (a.beforeEnabling r)).1.1.isEnabled e.id
    rw [hgranted]
    exact isEnabled_allOf he
  · rw [session?, ExtTreeMap.getElem?_insert_self]
    change some (Arbiter.configFor _ r
      ((enableEvents plan.events).run (a.beforeEnabling r)).1.1 plan.syscallFilter) = _
    rw [hgranted]
    rfl

/-- What a setup that works leaves behind where no write fails and annotations can be started. -/
theorem served_setup (hids : a.IdsAllotted) (hactive : a.ActiveRegistered)
    (hwrites : a.facility.failingWrites = ∅) (hannotations : a.facility.annotationFailure = none)
    (h : (setup r report).run a = ((id, report'), a')) (hid : id ≠ .invalid) :
    Served r a' ∧ a'.session? id = some (a'.fullConfig r) := by
  have hturn := TracerTurn.setup h
  have hsame := sameTracing_setup r report a
  have hpassed := checkTracing_of_preflight (preflight_of_setup h hid)
  have hjoined : a'.annotationState.Joined r := by
    obtain ⟨rfl, -⟩ | ⟨-, errors, -, hjoin, -⟩ := annotationState_setup h
    · exact absurd rfl hid
    · exact hjoin.joined hannotations
  rw [h] at hsame
  obtain ⟨a₁, hnext, hdone, rfl, -⟩ := setup_completed h hid
  have hessentials := (framed_installEssentials r _).of_run hdone
  have hcompleted := frame_completeSetup r id (r.plan a.catalog) a₁
  have hcatalog : ((completeSetup r id (r.plan a.catalog)).run a₁).2.catalog = a.catalog :=
    hcompleted.catalog.trans hessentials.catalog
  obtain ⟨hevents, hconfig⟩ := completeSetup_unfailing r id (r.plan a.catalog)
    (hessentials.facility.failingWrites_eq.trans hwrites)
  have hregistered : ¬((completeSetup r id (r.plan a.catalog)).run a₁).2.sessions.isEmpty := by
    obtain ⟨-, config, -, hsessions⟩ := sessions_completeSetup r id (r.plan a.catalog) a₁
    simp [hsessions]
  refine ⟨⟨?_, fun hwanted => ?_, ?_, ?_, hregistered, ?_, hjoined⟩, ?_⟩
  · refine checkTracing_again hactive hpassed ?_ hsame.active hregistered
    have hreads := hcompleted.facility.failingReads_eq.trans hessentials.facility.failingReads_eq
    unfold Control.isTracingOn
    rw [Simulation.read_congr hreads hsame.switch]
  · cases hturn with
    | kept _ hengaged => exact hengaged
    | engaged _ hengaged => exact hengaged
    | apart _ _ hunwanted => exact absurd ⟨hwanted, hid⟩ hunwanted
  · rw [hcatalog, hcompleted.belief Installed.syscallFilter fun _ => rfl,
      syscallFilter_essentials hdone, unionOfSyscalls_completeSetup r _ (hids.of_frame hessentials)
        (by rw [hessentials.lastId, hnext]), hessentials.configs, SyscallFilter.union_assoc,
      SyscallFilter.le_iff_union_eq.mp (SyscallFilter.le_refl _)]
  · exact settled_completeSetup r id _ (buffer_essentials hdone)
  · rw [hcatalog]
    exact hevents
  · rw [fullConfig, hcatalog]
    exact hconfig

/-- In every state that a run over any facility can reach, whatever others do: once a setup has worked
while writes are taken and annotations can be started, a second one of the same request, which adds
nothing to the filters of an engaged tracer, works as well. It registers a session of the same
configuration under the next id and changes nothing else, neither what is installed nor anything in the
facility, its log and the number of annotation starts included. If the ids are used up, it changes
nothing at all. -/
theorem setup_again (s : Simulation) (catalog : Catalog) (settings : Settings) (steps : List Step)
    (r : Request) (report report' : SetupReport) :
    let a := (freshOver s catalog settings).after steps
    let once := (setup r report).run a
    let again := (setup r report').run once.2
    r.AddsNoFilters → a.facility.failingWrites = ∅ → a.facility.annotationFailure = none →
      once.1.1 ≠ .invalid →
      ∃ config, once.2.session? once.1.1 = some config ∧
        (∀ id, once.1.1.next? = some id →
          again.1.1 = id ∧ id ≠ once.1.1 ∧ again.2.session? id = some config ∧
            again.2.session? once.1.1 = some config ∧
            again.2 = { once.2 with lastId := id, sessions := once.2.sessions.insert id config }) ∧
        (once.1.1.next? = none → again.1.1 = .invalid ∧ again.2 = once.2) := by
  intro a once again hplain hwrites hannotations hworks
  have hids : a.IdsAllotted := (registryOf_after s catalog settings steps).idsAllotted
  have hactive : a.ActiveRegistered := invariant_after (fun _ step h => h.apply step) nofun steps
  have hrun : (setup r report).run a = ((once.1.1, once.1.2), once.2) := rfl
  obtain ⟨hserved, hconfig⟩ := served_setup hids hactive hwrites hannotations hrun hworks
  have hlast : once.2.lastId = once.1.1 := lastId_setup hrun hworks
  refine ⟨once.2.fullConfig r, hconfig, fun id hid => ?_, fun hexhausted => ?_⟩
  · obtain ⟨hgiven, hstate⟩ := hserved.setup hplain (by rw [hlast, hid]) report'
    have hne : id ≠ once.1.1 := by
      have hnext := SessionId.toNat_next? hid
      rintro rfl
      omega
    have hsessions : again.2.sessions = once.2.sessions.insert id (once.2.fullConfig r) :=
      congrArg Arbiter.sessions hstate
    refine ⟨hgiven, hne, ?_, ?_, hstate⟩
    · rw [session?_of_insert hsessions, if_pos rfl]
    · rw [session?_of_insert hsessions, if_neg hne]
      exact hconfig
  · exact hserved.setup_exhausted (by rw [hlast, hexhausted]) report'

/-- Asks for some of everything, for one app twice. -/
def someOfEverything : Request where
  events := ["raw_syscalls/*", "sched/sched_switch"]
  syscalls := ["0"]
  apps := ["app", "app"]
  categories := ["gfx"]
  functionGraph := true

/-- The request changes nothing when it is made again behind another session's. -/
theorem setup_again_someOfEverything :
    let once := (setup someOfEverything {}).run ((freshOver .idle smallCatalog {}).after
      [recordCall "1"])
    let again := (setup someOfEverything {}).run once.2
    once.1.1 = ⟨2⟩ ∧ again.1.1 = ⟨3⟩ ∧ again.2.facility = once.2.facility ∧
      again.2.installed = once.2.installed ∧ again.2.session? ⟨3⟩ = again.2.session? ⟨2⟩ := by
  have hruns :
      ((setup someOfEverything {}).run ((freshOver .idle smallCatalog {}).after
        [recordCall "1"])).1.1 = ⟨2⟩ ∧
      ((freshOver .idle smallCatalog {}).after [recordCall "1"]).facility.failingWrites = ∅ ∧
      ((freshOver .idle smallCatalog {}).after [recordCall "1"]).facility.annotationFailure =
        none := by
    decide +kernel
  obtain ⟨hid, hwrites, hannotations⟩ := hruns
  have hplain : someOfEverything.AddsNoFilters := fun _ => ⟨rfl, rfl⟩
  obtain ⟨config, hconfig, hagain, -⟩ := setup_again .idle smallCatalog {} [recordCall "1"]
    someOfEverything {} {} hplain hwrites hannotations (by rw [hid]; decide)
  rw [hid] at hconfig hagain
  obtain ⟨hnext, -, hnew, hold, hstate⟩ := hagain ⟨3⟩ (by decide)
  refine ⟨hid, hnext, ?_, ?_, hnew.trans hold.symm⟩
  · rw [hstate]
  · rw [hstate]

end Arbiter

end TraceArbiter
