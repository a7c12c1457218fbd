import TraceArbiter.Arbiter.Activation
import TraceArbiter.Arbiter.Removal
import TraceArbiter.Arbiter.Setup
import TraceArbiter.Arbiter.TracerReset
import TraceArbiter.Proofs.Running

/-!
# The stages of the operations

Everything an operation can do, said once. A setup is refused before it has written anything, is
undone when its essentials fail, or is completed; a removal that finds its session runs four parts in
turn. What is proved about an operation goes through the stages given here, and looks into a part
only where the part matters.
-/

namespace TraceArbiter

open Std

/-! ### Ids -/

namespace SessionId

variable {id id' : SessionId}

theorem isValid_iff : id.isValid ↔ id ≠ invalid := by
  unfold isValid
  rw [decide_eq_true_eq]
  refine not_congr ⟨fun hraw => ?_, fun hid => by rw [hid]; rfl⟩
  exact congrArg mk hraw

theorem toNat_next? (h : id.next? = some id') : id'.raw.toNat = id.raw.toNat + 1 := by
  unfold next? at h
  split at h
  · next hlt =>
    cases h
    rw [UInt64.toNat_add, UInt64.toNat_one]
    exact Nat.mod_eq_of_lt hlt
  · cases h

theorem next?_ne_invalid (h : id.next? = some id') : id' ≠ invalid := by
  rintro rfl
  have hnat := toNat_next? h
  change 0 = _ at hnat
  omega

end SessionId

namespace Arbiter

variable {σ : Type} [Facility σ] {r : Request} {report : SetupReport} {a a' : Arbiter σ}

/-! ### Before anything is written -/

theorem checkTracing_run (a : Arbiter σ) :
    (∃ failure, (checkTracing (σ := σ)).run.run a = (.error failure, a)) ∨
      (checkTracing (σ := σ)).run.run a = (.ok (), a) := by
  unfold checkTracing
  rw [run_bind, requireRead_run]
  cases Control.isTracingOn a.facility with
  | error e => exact .inl ⟨_, rfl⟩
  | ok tracingOn =>
    dsimp only
    rw [run_get_bind]
    split
    · split
      · exact .inl ⟨_, rfl⟩
      · exact .inr rfl
    · split
      · exact .inl ⟨_, rfl⟩
      · exact .inr rfl

/-- What has to hold of the tracer for a setup to go on. -/
def TracerFree (r : Request) (a : Arbiter σ) : Prop :=
  r.functionGraph → ¬a.installed.functionGraph → Control.tracer a.facility = .ok Control.idleTracer

theorem checkTracer_run (r : Request) (a : Arbiter σ) :
    (∃ failure, (checkTracer r).run.run a = (.error failure, a)) ∨
      (checkTracer r).run.run a = (.ok (), a) ∧ TracerFree r a := by
  unfold checkTracer
  rw [run_get_bind]
  split
  · rw [run_bind, requireRead_run]
    cases htracer : Control.tracer a.facility with
    | error e => exact .inl ⟨_, rfl⟩
    | ok tracer =>
      dsimp only
      split
      · exact .inl ⟨_, rfl⟩
      · next hidle => exact .inr ⟨rfl, fun _ _ => by rw [htracer, Decidable.not_not.mp hidle]⟩
  · next hwanted =>
    refine .inr ⟨rfl, fun hr hinstalled => absurd ?_ hwanted⟩
    simp [hr, hinstalled]

omit [Facility σ] in
theorem newId_run (a : Arbiter σ) :
    (newId (σ := σ)).run.run a = match a.lastId.next? with
      | some id => (.ok id, a)
      | none => (.error .idsExhausted, a) := by
  unfold newId
  rw [run_get_bind]
  cases a.lastId.next? <;> rfl

/-- Nothing changes before a setup has gone through its checks. -/
theorem preflight_run (r : Request) (a : Arbiter σ) :
    (∃ failure, (preflight r).run.run a = (.error failure, a)) ∨
      ∃ id, (preflight r).run.run a = (.ok id, a) ∧ a.lastId.next? = some id ∧ TracerFree r a := by
  unfold preflight
  obtain ⟨failure, h⟩ | h := checkTracing_run a
  · exact .inl ⟨failure, run_bind_error h⟩
  rw [run_bind_ok h]
  obtain ⟨failure, h⟩ | ⟨h, hfree⟩ := checkTracer_run r a
  · exact .inl ⟨failure, run_bind_error h⟩
  rw [run_bind_ok h, newId_run]
  cases a.lastId.next? with
  | none => exact .inl ⟨_, rfl⟩
  | some id => exact .inr ⟨id, rfl, rfl, hfree⟩

/-- Why the checks refuse a setup. -/
inductive PreflightRefusal (r : Request) (a : Arbiter σ) : SetupFailure → Prop
  | unreadable (path : String) (e : FacilityError) (hread : Facility.read a.facility path = .error e) :
      PreflightRefusal r a (.facility e)
  | inUse (hnobody : a.sessions.isEmpty) (hon : Control.isTracingOn a.facility = .ok true) :
      PreflightRefusal r a .tracingInUse
  | disabled (hactive : ¬a.active.isEmpty) (hoff : Control.isTracingOn a.facility = .ok false) :
      PreflightRefusal r a .tracingDisabledExternally
  | busy (tracer : String) (hwanted : r.functionGraph) (hidle : ¬a.installed.functionGraph)
      (htracer : Control.tracer a.facility = .ok tracer) (hbusy : tracer ≠ Control.idleTracer) :
      PreflightRefusal r a (.tracerBusy tracer)
  | exhausted (hid : a.lastId.next? = none) : PreflightRefusal r a .idsExhausted

omit [Facility σ] in
theorem map_eq_error {ε α β : Type} {x : Except ε α} {f : α → β} {e : ε} (h : x.map f = .error e) :
    x = .error e := by
  cases x with
  | ok => cases h
  | error =>
    cases h
    rfl

theorem checkTracing_case {failure : SetupFailure}
    (h : (checkTracing (σ := σ)).run.run a = (.error failure, a')) :
    PreflightRefusal r a failure := by
  unfold checkTracing at h
  rw [run_bind, requireRead_run] at h
  cases hread : Control.isTracingOn a.facility with
  | error e =>
    rw [hread] at h
    cases h
    exact .unreadable Control.tracingOn e (map_eq_error hread)
  | ok tracingOn =>
    rw [hread] at h
    dsimp only at h
    rw [run_get_bind] at h
    split at h
    · next hnobody =>
      split at h <;> cases h
      next hon =>
      subst hon
      exact .inUse hnobody hread
    · split at h <;> cases h
      next hoff =>
      rw [Bool.and_eq_true, Bool.not_eq_true', Bool.not_eq_true'] at hoff
      rw [hoff.2] at hread
      exact .disabled (by simp [hoff.1]) hread

theorem checkTracer_case {failure : SetupFailure}
    (h : (checkTracer r).run.run a = (.error failure, a')) : PreflightRefusal r a failure := by
  unfold checkTracer at h
  rw [run_get_bind] at h
  split at h
  · next hwanted =>
    rw [Bool.and_eq_true, Bool.not_eq_true'] at hwanted
    rw [run_bind, requireRead_run] at h
    cases hread : Control.tracer a.facility with
    | error e =>
      rw [hread] at h
      cases h
      exact .unreadable Control.currentTracer e (map_eq_error hread)
    | ok tracer =>
      rw [hread] at h
      dsimp only at h
      split at h <;> cases h
      next hbusy => exact .busy tracer hwanted.1 (by simp [hwanted.2]) hread hbusy
  · cases h

theorem preflight_case {failure : SetupFailure}
    (h : (preflight r).run.run a = (.error failure, a')) : PreflightRefusal r a failure := by
  unfold preflight at h
  obtain ⟨e, htracing⟩ | htracing := checkTracing_run a
  · rw [run_bind_error htracing] at h
    cases h
    exact checkTracing_case htracing
  rw [run_bind_ok htracing] at h
  obtain ⟨e, htracer⟩ | ⟨htracer, -⟩ := checkTracer_run r a
  · rw [run_bind_error htracer] at h
    cases h
    exact checkTracer_case htracer
  rw [run_bind_ok htracer, newId_run] at h
  split at h
  · cases h
  · next hid =>
    cases h
    exact .exhausted hid

/-! ### The essentials -/

/-- What a setup writes to the filter on system calls when it undoes its own filter. -/
def undoFilter (wrote : Bool) : ArbiterM σ Unit :=
  if wrote then restoreSyscallFilter else recallSyscallFilter

/-- The ways to install the essentials, by what that gives and the state after it. -/
inductive EssentialsCase (r : Request) (filter : SyscallFilter) (a : Arbiter σ) :
    Except SetupFailure Unit → Arbiter σ → Prop
  | filterRefused (failure : SetupFailure) (a₁ : Arbiter σ)
      (hfilter : (installSyscallFilter filter).run.run a = (.error failure, a₁)) :
      EssentialsCase r filter a (.error failure) (restoreSyscallFilter.run a₁).2
  | restRefused (wrote : Bool) (a₁ : Arbiter σ) (failure : SetupFailure) (a₂ : Arbiter σ)
      (hfilter : (installSyscallFilter filter).run.run a = (.ok wrote, a₁))
      (hrest : (installTracerAndBuffer r).run.run a₁ = (.error failure, a₂)) :
      EssentialsCase r filter a (.error failure) ((undoFilter wrote).run a₂).2
  | installed (wrote : Bool) (a₁ a₂ : Arbiter σ)
      (hfilter : (installSyscallFilter filter).run.run a = (.ok wrote, a₁))
      (hrest : (installTracerAndBuffer r).run.run a₁ = (.ok (), a₂)) :
      EssentialsCase r filter a (.ok ()) a₂

theorem essentials_case {filter : SyscallFilter} {result : Except SetupFailure Unit}
    (h : (installEssentials r filter).run.run a = (result, a')) :
    EssentialsCase r filter a result a' := by
  unfold installEssentials at h
  rw [run_bind, orUndo_run] at h
  match hfilter : (installSyscallFilter filter).run.run a with
  | (.error failure, a₁) =>
    rw [hfilter] at h
    cases h
    exact .filterRefused failure a₁ hfilter
  | (.ok wrote, a₁) =>
    rw [hfilter] at h
    dsimp only at h
    rw [orUndo_run] at h
    match hrest : (installTracerAndBuffer r).run.run a₁ with
    | (.error failure, a₂) =>
      rw [hrest] at h
      cases h
      exact .restRefused wrote a₁ failure a₂ hfilter hrest
    | (.ok (), a₂) =>
      rw [hrest] at h
      cases h
      exact .installed wrote a₁ _ hfilter hrest

/-! ### Setting up -/

/-- A setup by what its checks and its essentials give. -/
theorem setup_run (r : Request) (report : SetupReport) (a : Arbiter σ) :
    (setup r report).run a = match (preflight r).run.run a with
      | (.error failure, a) => ((.invalid, { report with failure := some failure }), a)
      | (.ok id, a) =>
        let plan := r.plan a.catalog
        let looked := { report with
          unknownEvents := report.unknownEvents ∪ plan.unknownEvents
          unknownSyscalls := report.unknownSyscalls ∪ plan.unknownSyscalls }
        match (installEssentials r plan.syscallFilter).run.run a with
        | (.error failure, a) => ((.invalid, { looked with failure := some failure }), a)
        | (.ok (), a) =>
          let done := (completeSetup r id plan).run a
          ((id, { looked with
            failedEvents := looked.failedEvents.insertMany done.1.1
            annotationErrors := looked.annotationErrors ++ done.1.2 }), done.2) := by
  unfold setup
  rw [state_bind]
  match hpreflight : (preflight r).run.run a with
  | (.error failure, a) => rfl
  | (.ok id, a) =>
    dsimp only
    rw [state_get_bind, state_bind]
    match hessentials : (installEssentials r (r.plan a.catalog).syscallFilter).run.run a with
    | (.error failure, a) => rfl
    | (.ok (), a) => rfl

/-- The ways a setup can go, by what it gives and the state after it. -/
inductive SetupCase (r : Request) (a : Arbiter σ) : SessionId → SetupReport → Arbiter σ → Prop
  | refused (report : SetupReport) (failure : SetupFailure) (hreport : report.failure = some failure)
      (hpreflight : (preflight r).run.run a = (.error failure, a)) :
      SetupCase r a .invalid report a
  | undone (report : SetupReport) (failure : SetupFailure) (a' : Arbiter σ)
      (hreport : report.failure = some failure) (hfree : TracerFree r a)
      (hessentials : (installEssentials r (r.plan a.catalog).syscallFilter).run.run a =
        (.error failure, a')) :
      SetupCase r a .invalid report a'
  | completed (id : SessionId) (report : SetupReport) (a₁ : Arbiter σ)
      (hid : a.lastId.next? = some id) (hfree : TracerFree r a)
      (hessentials : (installEssentials r (r.plan a.catalog).syscallFilter).run.run a = (.ok (), a₁)) :
      SetupCase r a id report ((completeSetup r id (r.plan a.catalog)).run a₁).2

theorem setup_case {id : SessionId} {report' : SetupReport}
    (h : (setup r report).run a = ((id, report'), a')) : SetupCase r a id report' a' := by
  rw [setup_run] at h
  obtain ⟨failure, hpreflight⟩ | ⟨id', hpreflight, hid, hfree⟩ := preflight_run r a
  · rw [hpreflight] at h
    cases h
    exact .refused _ failure rfl hpreflight
  rw [hpreflight] at h
  dsimp only at h
  match hessentials : (installEssentials r (r.plan a.catalog).syscallFilter).run.run a with
  | (.error failure, a₁) =>
    rw [hessentials] at h
    cases h
    exact .undone _ failure _ rfl hfree hessentials
  | (.ok (), a₁) =>
    rw [hessentials] at h
    cases h
    exact .completed _ _ a₁ hid hfree hessentials

/-- What a setup that gives a session does once its checks are passed, and what it reports of that. -/
theorem setup_reported {id : SessionId} {report' : SetupReport}
    (h : (setup r report).run a = ((id, report'), a')) (hid : id ≠ .invalid) :
    let plan := r.plan a.catalog
    ∃ a₁, a.lastId.next? = some id ∧
      (installEssentials r plan.syscallFilter).run.run a = (.ok (), a₁) ∧
      a' = ((completeSetup r id plan).run a₁).2 ∧
      report' = { report with
        unknownEvents := report.unknownEvents ∪ plan.unknownEvents
        unknownSyscalls := report.unknownSyscalls ∪ plan.unknownSyscalls
        failedEvents := report.failedEvents.insertMany ((completeSetup r id plan).run a₁).1.1
        annotationErrors :=
          report.annotationErrors ++ ((completeSetup r id plan).run a₁).1.2 } := by
  rw [setup_run] at h
  obtain ⟨failure, hpreflight⟩ | ⟨id', hpreflight, hnext, -⟩ := preflight_run r a
  · rw [hpreflight] at h
    cases h
    exact absurd rfl hid
  rw [hpreflight] at h
  dsimp only at h
  match hessentials : (installEssentials r (r.plan a.catalog).syscallFilter).run.run a with
  | (.error failure, a₁) =>
    rw [hessentials] at h
    cases h
    exact absurd rfl hid
  | (.ok (), a₁) =>
    rw [hessentials] at h
    cases h
    exact ⟨a₁, hnext, hessentials, rfl, rfl⟩

theorem preflight_of_setup {id : SessionId} {report' : SetupReport}
    (h : (setup r report).run a = ((id, report'), a')) (hid : id ≠ .invalid) :
    (preflight r).run.run a = (.ok id, a) := by
  obtain ⟨failure, hpreflight⟩ | ⟨id', hpreflight, hnext, -⟩ := preflight_run r a
  · rw [setup_run, hpreflight] at h
    cases h
    exact absurd rfl hid
  · obtain ⟨-, hnext', -⟩ := setup_reported h hid
    rw [hnext, Option.some_inj] at hnext'
    rw [hpreflight, hnext']

theorem setup_completed {id : SessionId} {report' : SetupReport}
    (h : (setup r report).run a = ((id, report'), a')) (hid : id ≠ .invalid) :
    ∃ a₁, a.lastId.next? = some id ∧
      (installEssentials r (r.plan a.catalog).syscallFilter).run.run a = (.ok (), a₁) ∧
      a' = ((completeSetup r id (r.plan a.catalog)).run a₁).2 ∧ report'.failure = report.failure ∧
      report'.annotationErrors =
        report.annotationErrors ++ ((completeSetup r id (r.plan a.catalog)).run a₁).1.2 := by
  obtain ⟨a₁, hnext, hdone, ha', rfl⟩ := setup_reported h hid
  exact ⟨a₁, hnext, hdone, ha', rfl, rfl⟩

/-- A setup that works reports no failure of its own. -/
theorem failure_setup {id : SessionId} {report' : SetupReport}
    (h : (setup r report).run a = ((id, report'), a')) (hid : id ≠ .invalid) :
    report'.failure = report.failure := by
  obtain ⟨-, -, -, -, hfailure, -⟩ := setup_completed h hid
  exact hfailure

/-- What a completed setup does after its essentials, stage by stage. -/
theorem completeSetup_run (r : Request) (id : SessionId) (plan : Plan) (a : Arbiter σ) :
    ((completeSetup r id plan).run a).2 =
      let fresh := (startFresh.run a).2
      let clocked := ((selectClock r).run fresh).2
      let enabled := (enableEvents plan.events).run clocked
      let joined := ((joinAnnotations r).run enabled.2).2
      { joined with
        lastId := id
        sessions := joined.sessions.insert id
          (joined.configFor r enabled.1.1 plan.syscallFilter) } := rfl

/-- All that a completed setup does before it comes to annotations. -/
def beforeJoining (r : Request) (events : List Event) : ArbiterM σ (EventFilter × List Event) := do
  startFresh
  selectClock r
  enableEvents events

theorem completeSetup_eq (r : Request) (id : SessionId) (plan : Plan) :
    (completeSetup r id plan : ArbiterM σ _) = (do
      let enabled ← beforeJoining r plan.events
      let annotationErrors ← joinAnnotations r
      register id ((← get).configFor r enabled.1 plan.syscallFilter)
      pure (enabled.2.map (toString ·.fullName), annotationErrors)) := rfl

/-! ### Removing -/

/-- The state in which the parts of a removal start. -/
def without (a : Arbiter σ) (id : SessionId) : Arbiter σ :=
  { a with sessions := a.sessions.erase id }

omit [Facility σ] in
theorem session?_of_without {id id' : SessionId} {config : SessionConfig}
    (h : (a.without id).session? id' = some config) : a.session? id' = some config := by
  change (a.sessions.erase id)[id']? = some config at h
  rw [ExtTreeMap.getElem?_erase] at h
  split at h
  · cases h
  · exact h

theorem remove_run_of_registered {id : SessionId} {a : Arbiter σ} (hregistered : a.isRegistered id) :
    (remove id).run a =
      (do shrinkAnnotations; shrinkSyscallFilter; shrinkEvents; deactivate id; pure true
        : ArbiterM σ Bool).run (a.without id) := by
  unfold remove
  rw [state_get_bind, hregistered]
  rfl

theorem remove_run (id : SessionId) (a : Arbiter σ) :
    (remove id).run a =
      if a.isRegistered id then
        let annotated := (shrinkAnnotations.run (a.without id)).2
        let filtered := (shrinkSyscallFilter.run annotated).2
        let shrunk := (shrinkEvents.run filtered).2
        (true, ((deactivate id).run shrunk).2)
      else (false, a) := by
  unfold remove
  rw [state_get_bind]
  cases a.isRegistered id <;> rfl

theorem shrinkSyscallFilter_run (a : Arbiter σ) :
    shrinkSyscallFilter.run a = ((), ((installSyscallFilter .none).run.run a).2) := rfl

/-- The state in which a removal comes to the events. -/
def beforeEvents (a : Arbiter σ) (id : SessionId) : Arbiter σ :=
  (shrinkSyscallFilter.run (shrinkAnnotations.run (a.without id)).2).2

theorem remove_registered_run {id : SessionId} {a : Arbiter σ} (hregistered : a.isRegistered id) :
    (remove id).run a =
      (true, ((deactivate id).run (shrinkEvents.run (a.beforeEvents id)).2).2) := by
  rw [remove_run, if_pos hregistered]
  rfl

end Arbiter

end TraceArbiter
