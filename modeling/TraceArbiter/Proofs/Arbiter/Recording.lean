import TraceArbiter.Proofs.Arbiter.FailedSetup
import TraceArbiter.Proofs.Arbiter.RemovalRefusals

/-!
# Tracing follows the sessions

The switch of tracing is written when the first session starts recording and when the last one stops,
and at no other time. So tracing is on while anybody records, and off while nobody does, but for a
removal that was refused to turn it off.
-/

namespace TraceArbiter

open Std

namespace Arbiter

variable {a a' : Arbiter Simulation} {id : SessionId}

/-! ### Activating -/

theorem activate_run (id : SessionId) (a : Arbiter Simulation) :
    (activate id).run a =
      if a.isRegistered id ∧ id ∉ a.active then
        if a.active.isEmpty then
          if Control.tracingOn ∈ a.facility.failingWrites then (false, a)
          else (true, { a with
            active := a.active.insert id
            facility := a.facility.written Control.tracingOn Control.on Control.on })
        else (true, { a with active := a.active.insert id })
      else (false, a) := by
  have hwrite : (Control.setTracingOn true : Access Simulation Unit).run.run a.facility = _ :=
    a.facility.write_run Control.on (by decide) (by decide)
  unfold activate
  rw [state_get_bind]
  by_cases hfree : a.isRegistered id ∧ id ∉ a.active
  · have hfree' : ¬(!a.isRegistered id || a.active.contains id) := by
      simpa using hfree
    rw [if_pos hfree, if_neg hfree']
    dsimp only
    by_cases hempty : a.active.isEmpty
    · rw [if_pos hempty, if_neg (by simp [hempty]), state_bind, access_run, hwrite]
      by_cases hfails : Control.tracingOn ∈ a.facility.failingWrites
      · rw [if_pos hfails, if_pos hfails]
        rfl
      · rw [if_neg hfails, if_neg hfails]
        rfl
    · rw [if_neg hempty, if_pos (by simp [hempty])]
      rfl
  · have htaken : (!a.isRegistered id || a.active.contains id) := by
      simpa [imp_iff_not_or] using hfree
    rw [if_neg hfree, if_pos htaken]
    rfl

/-- A session starts recording if it is registered and not recording, and tracing can be turned on if
nobody else has done so. -/
theorem activate_eq_true_iff :
    ((activate id).run a).1 = true ↔ a.isRegistered id ∧ id ∉ a.active ∧
      (a.active.isEmpty → Control.tracingOn ∉ a.facility.failingWrites) := by
  rw [activate_run]
  by_cases hfree : a.isRegistered id ∧ id ∉ a.active
  · rw [if_pos hfree]
    by_cases hempty : a.active.isEmpty
    · by_cases hfails : Control.tracingOn ∈ a.facility.failingWrites
      · simp [hempty, hfails]
      · simp [hempty, hfails, hfree]
    · simp [hempty, hfree]
  · rw [if_neg hfree]
    refine iff_of_false Bool.false_ne_true ?_
    rintro ⟨hregistered, hinactive, -⟩
    exact hfree ⟨hregistered, hinactive⟩

theorem activate_eq_self (h : ((activate id).run a).1 = false) : ((activate id).run a).2 = a := by
  rw [activate_run] at h ⊢
  split at h
  · split at h
    · split at h
      · rw [if_pos ‹_›, if_pos ‹_›, if_pos ‹_›]
      · cases h
    · cases h
  · rw [if_neg ‹_›]

theorem setTracingOn_ok_iff (s : Simulation) :
    ((Control.setTracingOn true : Access Simulation Unit).run.run s).1 = .ok () ↔
      Control.tracingOn ∉ s.failingWrites := by
  have hwrite : (Control.setTracingOn true : Access Simulation Unit).run.run s = _ :=
    s.write_run Control.on (by decide) (by decide)
  rw [hwrite]
  split <;> simp [*]

/-! ### The switch of tracing -/

/-- The same sessions are recording, and the switch of tracing has not moved. -/
structure SameTracing (a a' : Arbiter Simulation) : Prop where
  active : a'.active = a.active
  switch : a'.facility.value? Control.tracingOn = a.facility.value? Control.tracingOn

theorem Frame.sameTracing {P : String → Prop} {view : Installed → Installed} (h : Frame P view a a')
    (hP : ¬P Control.tracingOn) : SameTracing a a' :=
  ⟨h.active, h.facility.value?_eq _ hP⟩

theorem sameTracing_setup (r : Request) (report : SetupReport) (a : Arbiter Simulation) :
    SameTracing a ((setup r report).run a).2 := by
  have hunwritten : ¬isSetupFile Control.tracingOn := by
    unfold isSetupFile isCompletionFile
    decide
  have hsetup := (frame_setup r report a).sameTracing hunwritten
  exact ⟨hsetup.active, hsetup.switch⟩

def TracingOn (a : Arbiter Simulation) : Prop :=
  ¬a.active.isEmpty → a.facility.value? Control.tracingOn = some Control.on

def TracingOff (a : Arbiter Simulation) : Prop :=
  a.active.isEmpty → a.facility.value? Control.tracingOn = some Control.off

theorem TracingOn.of_same (ha : a.TracingOn) (h : SameTracing a a') : a'.TracingOn := by
  unfold TracingOn
  rw [h.active, h.switch]
  exact ha

theorem TracingOff.of_same (ha : a.TracingOff) (h : SameTracing a a') : a'.TracingOff := by
  unfold TracingOff
  rw [h.active, h.switch]
  exact ha

theorem TracingOn.activate (ha : a.TracingOn) (id : SessionId) :
    ((activate id).run a).2.TracingOn := by
  rw [activate_run]
  split
  · split
    · split
      · exact ha
      · intro _
        exact Simulation.value?_written .. |>.trans (if_pos rfl)
    · next hrecording => exact fun _ => ha hrecording
  · exact ha

theorem TracingOff.activate (ha : a.TracingOff) (id : SessionId) :
    ((activate id).run a).2.TracingOff := by
  rw [activate_run]
  split
  · split
    · split
      · exact ha
      · intro hempty
        simp at hempty
    · intro hempty
      simp at hempty
  · exact ha

theorem TracingOn.deactivate (ha : a.TracingOn) (id : SessionId) :
    ((deactivate id).run a).2.TracingOn := by
  rw [deactivate_run]
  split
  · next hactive =>
    have hrecording : ¬a.active.isEmpty := by
      rw [ExtTreeSet.isEmpty_iff]
      rintro hempty
      simp [hempty] at hactive
    split
    · next hlast => exact fun hleft => absurd hlast.1 hleft
    · exact fun _ => ha hrecording
  · exact ha

/-- The last session to stop recording turns tracing off, unless that is refused. -/
theorem TracingOff.deactivate (ha : a.TracingOff) {id : SessionId} (hlocked : a.lockedTracing id = []) :
    ((deactivate id).run a).2.TracingOff := by
  rw [deactivate_run]
  split
  · next hactive =>
    split
    · intro _
      exact Simulation.value?_written .. |>.trans (if_pos rfl)
    · next hkept =>
      intro hlast
      refine absurd hlocked ?_
      unfold lockedTracing
      rw [if_pos]
      · exact List.cons_ne_nil _ _
      · refine ⟨hactive, hlast, Decidable.not_not.mp fun htaken => hkept ⟨hlast, htaken⟩⟩
  · exact ha

theorem Frame.sameTracing_shrunk {view : Installed → Installed} {shrunk : Arbiter Simulation}
    (h : Frame isShrinkFile view (a.without id) shrunk) : SameTracing a shrunk :=
  ⟨h.active, h.facility.value?_eq Control.tracingOn (by unfold isShrinkFile; decide)⟩

theorem TracingOn.remove (ha : a.TracingOn) (id : SessionId) :
    ((remove id).run a).2.TracingOn := by
  by_cases hregistered : a.isRegistered id
  · obtain ⟨shrunk, hshrunk, hrun⟩ := remove_case hregistered
    rw [hrun]
    exact (ha.of_same hshrunk.sameTracing_shrunk).deactivate id
  · rw [remove_run, if_neg hregistered]
    exact ha

/-- A removal is refused to turn tracing off when its session is the last to record and the switch is
made to fail. -/
theorem tracingOn_mem_refusedWrites_remove :
    Control.tracingOn ∈ refusedWrites (remove id) a ↔
      a.isRegistered id ∧ id ∈ a.active ∧ (a.active.erase id).isEmpty ∧
        Control.tracingOn ∈ a.facility.failingWrites := by
  by_cases hregistered : a.isRegistered id
  · obtain ⟨filters, hfilters, hrefused⟩ := refusedWrites_remove hregistered
    have hfilter : Control.tracingOn ∉ filters := fun h =>
      absurd (hfilters _ h) (by decide)
    have hswitch : Control.tracingOn ∉
        (a.without id).staleEvents.filterMap a.lockedSwitch? := by
      rw [List.mem_filterMap]
      rintro ⟨event, -, hlocked⟩
      obtain ⟨e, -, -, -, hpath⟩ := lockedSwitch?_eq_some.mp hlocked
      exact Simulation.eventSwitch_ne (by decide) _ hpath
    rw [hrefused, List.mem_append, List.mem_append, or_iff_right (not_or_intro hfilter hswitch),
      and_iff_right hregistered]
    unfold lockedTracing
    rw [List.mem_ite_nil_right, List.mem_singleton, eq_self, and_true]
  · have hnothing : refusedWrites (remove id) a = [] := by
      unfold refusedWrites
      rw [remove_run, if_neg (show ¬(a.watched []).isRegistered id from hregistered)]
      rfl
    rw [hnothing]
    exact iff_of_false List.not_mem_nil fun h => hregistered h.1

theorem TracingOff.remove (ha : a.TracingOff) {id : SessionId}
    (hremovable : Control.tracingOn ∉ refusedWrites (remove id) a) :
    ((remove id).run a).2.TracingOff := by
  by_cases hregistered : a.isRegistered id
  · obtain ⟨shrunk, hshrunk, hrun⟩ := remove_case hregistered
    rw [tracingOn_mem_refusedWrites_remove, and_iff_right hregistered] at hremovable
    have hunlocked : a.lockedTracing id = [] := if_neg hremovable
    rw [hrun]
    refine (ha.of_same hshrunk.sameTracing_shrunk).deactivate ?_
    rw [hshrunk.lockedTracing]
    exact hunlocked
  · rw [remove_run, if_neg hregistered]
    exact ha

/-! ### Runs -/

theorem sameTracing_poke {path : String} (value : String) (a : Arbiter Simulation)
    (hpath : ¬(Step.poke path value).pokes Control.tracingOn) :
    SameTracing a ((Step.poke path value).apply a) := by
  refine ⟨rfl, ?_⟩
  change (a.facility.poke path value).value? Control.tracingOn = _
  rw [Simulation.value?_poke, if_neg fun h => hpath (decide_eq_true h)]

theorem TracingOn.apply_unpoked {step : Step} (hpokes : ¬step.pokes Control.tracingOn)
    (ha : a.TracingOn) : (step.apply a).TracingOn := by
  cases step with
  | setup r report => exact ha.of_same (sameTracing_setup r report a)
  | activate id => exact ha.activate id
  | remove id => exact ha.remove id
  | resetTracer => exact ha.of_same ((framed_resetTracer a).sameTracing (by decide))
  | rig rigging => exact ha.of_same ⟨rfl, Rigging.value?_apply a.facility rigging _⟩
  | poke path value => exact ha.of_same (sameTracing_poke value a hpokes)

theorem TracingOn.apply {step : Step} (houtside : ¬step.isOutside) (ha : a.TracingOn) :
    (step.apply a).TracingOn :=
  ha.apply_unpoked (step.not_pokes _ houtside)

def TracingRemovable (a : Arbiter Simulation) (step : Step) : Prop :=
  step.isRemoval → Control.tracingOn ∉ step.refusedWrites a

instance (a : Arbiter Simulation) (step : Step) : Decidable (TracingRemovable a step) :=
  inferInstanceAs (Decidable (_ → _))

theorem TracingOff.apply_unpoked {step : Step} (hpokes : ¬step.pokes Control.tracingOn)
    (hremovable : a.TracingRemovable step) (ha : a.TracingOff) : (step.apply a).TracingOff := by
  cases step with
  | setup r report => exact ha.of_same (sameTracing_setup r report a)
  | activate id => exact ha.activate id
  | remove id => exact ha.remove (hremovable rfl)
  | resetTracer => exact ha.of_same ((framed_resetTracer a).sameTracing (by decide))
  | rig rigging => exact ha.of_same ⟨rfl, Rigging.value?_apply a.facility rigging _⟩
  | poke path value => exact ha.of_same (sameTracing_poke value a hpokes)

theorem TracingOff.apply {step : Step} (houtside : ¬step.isOutside)
    (hremovable : a.TracingRemovable step) (ha : a.TracingOff) : (step.apply a).TracingOff :=
  ha.apply_unpoked (step.not_pokes _ houtside) hremovable

theorem TracingOn.isTracingOn_ne (ha : a.TracingOn) (hactive : ¬a.active.isEmpty) :
    Control.isTracingOn a.facility ≠ .ok false := by
  have hread : Facility.read a.facility Control.tracingOn =
      if a.facility.failingReads.contains Control.tracingOn then
        .error (.readFailed Control.tracingOn Simulation.injected)
      else .ok Control.on := by
    change a.facility.read Control.tracingOn = _
    unfold Simulation.read
    rw [ha hactive]
  unfold Control.isTracingOn
  rw [hread]
  split
  · exact nofun
  · decide

/-- No setup fails because it finds tracing turned off, so a report that says so said so before. -/
theorem TracingOn.failure_setup (ha : a.TracingOn) (r : Request) (report : SetupReport)
    (hfailure : ((setup r report).run a).1.2.failure = some .tracingDisabledExternally) :
    ((setup r report).run a).1.1 ≠ .invalid ∧
      report.failure = some .tracingDisabledExternally := by
  match hrun : (setup r report).run a with
  | ((id, report'), a') =>
    rw [hrun] at hfailure
    have hid : id ≠ .invalid := by
      cases setup_case hrun with
      | refused _ failure hreport hpreflight =>
        obtain rfl : failure = .tracingDisabledExternally :=
          Option.some.inj (hreport.symm.trans hfailure)
        cases preflight_case hpreflight with
        | disabled hactive hoff => exact absurd hoff (ha.isTracingOn_ne hactive)
      | undone _ failure _ hreport _ hundone =>
        obtain ⟨path, rfl⟩ := essentials_failure hundone
        exact absurd (hreport.symm.trans hfailure) nofun
      | completed _ _ _ hnext => exact SessionId.next?_ne_invalid hnext
    refine ⟨hid, ?_⟩
    rw [← Arbiter.failure_setup hrun hid]
    exact hfailure

/-- As long as nobody else writes control files: tracing is on while a session is recording, so no
setup finds it turned off, and it is off while no session is recording, unless a removal was refused to
turn it off. A session that is registered and not recording starts recording, unless it is the first
and tracing cannot be turned on; and nothing changes when it does not. -/
theorem tracing_after (catalog : Catalog) (settings : Settings) {steps : List Step}
    (houtside : ∀ step ∈ steps, ¬step.isOutside) :
    let a := (fresh catalog settings).after steps
    (¬a.active.isEmpty → a.facility.value? Control.tracingOn = some Control.on) ∧
      (∀ r report,
        ((setup r report).run a).1.2.failure = some .tracingDisabledExternally →
          ((setup r report).run a).1.1 ≠ .invalid ∧
            report.failure = some .tracingDisabledExternally) ∧
      (Along TracingRemovable (fresh catalog settings) steps →
        a.active.isEmpty → a.facility.value? Control.tracingOn = some Control.off) ∧
      ∀ id,
        (((activate id).run a).1 = true ↔ (a.session? id).isSome ∧ id ∉ a.active ∧
          (a.active.isEmpty →
            ((Control.setTracingOn true : Access Simulation Unit).run.run a.facility).1 = .ok ())) ∧
        (((activate id).run a).1 = false → ((activate id).run a).2 = a) := by
  intro a
  have hsteps := Along.of_forall steps (fresh catalog settings) houtside
  have hon : a.TracingOn := hsteps.invariant (fun a step ha hstep => ha.apply hstep) nofun
  refine ⟨hon, hon.failure_setup, fun hremovable => ?_, fun id => ⟨?_, activate_eq_self⟩⟩
  · have hfresh : (fresh catalog settings).TracingOff := fun _ =>
      show Simulation.idle.value? Control.tracingOn = some Control.off by decide
    exact (hsteps.and hremovable).invariant (fun a step ha hstep => ha.apply hstep.1 hstep.2) hfresh
  · rw [activate_eq_true_iff, setTracingOn_ok_iff,
      isRegistered_iff (session?_invalid_after catalog settings steps)]

/-- The first of two sessions starts recording when tracing can be turned on again, and is removed. -/
def lockedStart : List Step :=
  [.setup {} {}, .setup {} {}, .rig (.failWritesTo Control.tracingOn), .activate ⟨1⟩,
    .rig .clearFailures, .activate ⟨1⟩, .remove ⟨1⟩]

theorem tracing_after_lockedStart :
    (∀ step ∈ lockedStart, ¬step.isOutside) ∧
      Along TracingRemovable (fresh smallCatalog {}) lockedStart ∧
      let a := (fresh smallCatalog {}).after lockedStart
      a.active.isEmpty ∧ a.facility.value? Control.tracingOn = some Control.off ∧
        ((activate ⟨2⟩).run a).1 = true ∧ ((activate ⟨1⟩).run a).2 = a := by
  have houtside : ∀ step ∈ lockedStart, ¬step.isOutside := by decide
  have hruns : Along TracingRemovable (fresh smallCatalog {}) lockedStart ∧
      ((fresh smallCatalog {}).after lockedStart).active.isEmpty ∧
      (((fresh smallCatalog {}).after lockedStart).session? ⟨2⟩).isSome ∧
      ((activate ⟨1⟩).run ((fresh smallCatalog {}).after lockedStart)).1 = false ∧
      ((Control.setTracingOn true : Access Simulation Unit).run.run
        ((fresh smallCatalog {}).after lockedStart).facility).1 = .ok () := by
    decide +kernel
  obtain ⟨hremovable, hempty, hregistered, hgone, hfree⟩ := hruns
  obtain ⟨-, -, hoff, hactivate⟩ := tracing_after smallCatalog {} houtside
  refine ⟨houtside, hremovable, hempty, hoff hremovable hempty, ?_, (hactivate ⟨1⟩).2 hgone⟩
  refine (hactivate ⟨2⟩).1.mpr ⟨hregistered, ?_, fun _ => hfree⟩
  rw [ExtTreeSet.isEmpty_iff.mp hempty]
  exact ExtTreeSet.not_mem_empty

end Arbiter

end TraceArbiter
