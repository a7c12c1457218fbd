import TraceArbiter.Proofs.Arbiter.Blame
import TraceArbiter.Proofs.Arbiter.Recording

/-!
# Tracing that was left on

A removal that is refused to turn tracing off goes on as if it had not been, and nothing turns tracing
off until a session has recorded again. If the sessions are all removed before that happens, the next
setup takes the arbiter's own tracing for somebody else's and refuses, and so does every setup after
it, with or without failures. Main statement: as long as nobody else writes the switch of tracing, this
is the only way for a setup to find tracing in use, and without it a setup works once writes do.
-/

namespace TraceArbiter

open Std

namespace Arbiter

variable {a a' : Arbiter Simulation} {id : SessionId} {step : Step} {steps : List Step}

/-! ### Sessions that are recording -/

def ActiveRegistered (a : Arbiter Simulation) : Prop :=
  ∀ id ∈ a.active, (a.session? id).isSome

theorem mem_active_deactivate {id' : SessionId} :
    id' ∈ ((deactivate id).run a).2.active ↔ id' ≠ id ∧ id' ∈ a.active := by
  have herase : id' ∈ a.active.erase id ↔ id' ≠ id ∧ id' ∈ a.active := by
    rw [ExtTreeSet.mem_erase]
    exact and_congr_left' (LawfulEqOrd.compare_eq_iff_eq.not.trans ne_comm)
  rw [deactivate_run]
  split
  · split <;> exact herase
  · next hinactive =>
    refine ⟨fun hactive => ⟨?_, hactive⟩, And.right⟩
    rintro rfl
    exact hinactive hactive

namespace ActiveRegistered

theorem setup (ha : a.ActiveRegistered) (r : Request) (report : SetupReport) :
    ((setup r report).run a).2.ActiveRegistered := by
  intro id hactive
  rw [(sameTracing_setup r report a).active] at hactive
  have hregistered := ha id hactive
  match hrun : (Arbiter.setup r report).run a with
  | ((id', report'), a') =>
    unfold session? at hregistered ⊢
    obtain ⟨-, hsame⟩ | ⟨-, config, hinsert⟩ := sessions_setup hrun
    · rw [hsame]
      exact hregistered
    · rw [hinsert, ExtTreeMap.getElem?_insert]
      split
      · rfl
      · exact hregistered

theorem activate (ha : a.ActiveRegistered) (id : SessionId) :
    ((activate id).run a).2.ActiveRegistered := by
  intro id' hactive
  unfold session?
  rw [(frame_activate id a).sessions]
  rw [activate_run] at hactive
  split at hactive
  · next hfree =>
    have hjoined : id' ∈ a.active.insert id → (a.session? id').isSome := by
      rw [ExtTreeSet.mem_insert, LawfulEqOrd.compare_eq_iff_eq]
      rintro (rfl | hactive)
      · exact (isRegistered_iff_isValid.mp hfree.1).2
      · exact ha id' hactive
    split at hactive
    · split at hactive
      · exact ha id' hactive
      · exact hjoined hactive
    · exact hjoined hactive
  · exact ha id' hactive

theorem remove (ha : a.ActiveRegistered) (id : SessionId) :
    ((remove id).run a).2.ActiveRegistered := by
  by_cases hregistered : a.isRegistered id
  · obtain ⟨shrunk, hshrunk, hrun⟩ := remove_case hregistered
    intro id' hactive
    rw [hrun, mem_active_deactivate, hshrunk.active] at hactive
    unfold session?
    rw [sessions_remove, if_pos hregistered, ExtTreeMap.getElem?_erase, if_neg]
    · exact ha id' hactive.2
    · rw [LawfulEqOrd.compare_eq_iff_eq]
      exact hactive.1.symm
  · rw [remove_run, if_neg hregistered]
    exact ha

theorem apply (ha : a.ActiveRegistered) (step : Step) : (step.apply a).ActiveRegistered := by
  cases step with
  | setup r report => exact ha.setup r report
  | activate id => exact ha.activate id
  | remove id => exact ha.remove id
  | resetTracer =>
    have hreset := framed_resetTracer a
    intro id hactive
    change id ∈ (Arbiter.resetTracer.run a).2.active at hactive
    rw [hreset.active] at hactive
    change ((Arbiter.resetTracer.run a).2.session? id).isSome
    unfold session?
    rw [hreset.sessions]
    exact ha id hactive
  | rig rigging => exact ha
  | poke path value => exact ha

theorem isEmpty_active (ha : a.ActiveRegistered) (hnobody : a.sessions.isEmpty) :
    a.active.isEmpty := by
  rw [ExtTreeSet.isEmpty_iff, ExtTreeSet.eq_empty_iff_forall_not_mem]
  intro id hactive
  have hregistered := ha id hactive
  unfold session? at hregistered
  rw [ExtTreeMap.isEmpty_iff.mp hnobody] at hregistered
  simp at hregistered

end ActiveRegistered

/-! ### The checks of a setup -/

theorem checkTracing_idle (hnobody : a.sessions.isEmpty)
    (hoff : Control.isTracingOn a.facility = .ok false) :
    (checkTracing (σ := Simulation)).run.run a = (.ok (), a) := by
  unfold checkTracing
  rw [run_bind, requireRead_run, hoff]
  dsimp only
  rw [run_get_bind, if_pos hnobody]
  rfl

theorem checkTracing_inUse (hnobody : a.sessions.isEmpty)
    (hon : Control.isTracingOn a.facility = .ok true) :
    (checkTracing (σ := Simulation)).run.run a = (.error .tracingInUse, a) := by
  unfold checkTracing
  rw [run_bind, requireRead_run, hon]
  dsimp only
  rw [run_get_bind, if_pos hnobody]
  rfl

theorem checkTracer_free {r : Request} (hfree : TracerFree r a) :
    (checkTracer r).run.run a = (.ok (), a) := by
  unfold checkTracer
  rw [run_get_bind]
  split
  · next hwanted =>
    rw [Bool.and_eq_true, Bool.not_eq_true'] at hwanted
    rw [run_bind, requireRead_run, hfree hwanted.1 (by simp [hwanted.2])]
    rfl
  · rfl

theorem preflight_idle {r : Request} (hnobody : a.sessions.isEmpty)
    (hoff : Control.isTracingOn a.facility = .ok false) (hfree : TracerFree r a)
    (hid : a.lastId.next? = some id) : (preflight r).run.run a = (.ok id, a) := by
  unfold preflight
  rw [run_bind_ok (checkTracing_idle hnobody hoff), run_bind_ok (checkTracer_free hfree), newId_run,
    hid]

theorem setup_tracingInUse (hnobody : a.sessions.isEmpty)
    (hon : Control.isTracingOn a.facility = .ok true) (r : Request) (report : SetupReport) :
    (setup r report).run a =
      ((.invalid, { report with failure := some .tracingInUse }), a) := by
  have hpreflight : (preflight r).run.run a = (.error .tracingInUse, a) :=
    run_bind_error (checkTracing_inUse hnobody hon)
  unfold setup
  rw [state_bind, hpreflight]
  rfl

/-- Nothing that a setup cannot do without fails where no write fails. -/
theorem setup_works {r : Request} (hpreflight : (preflight r).run.run a = (.ok id, a))
    (hfailures : a.facility.failingWrites = ∅) (report : SetupReport) :
    ((setup r report).run a).1.1 = id := by
  obtain ⟨⟨⟩, a', hessentials⟩ :=
    (blames_installEssentials r (r.plan a.catalog).syscallFilter).succeeds hfailures
  unfold setup
  rw [state_bind, hpreflight]
  dsimp only
  rw [state_get_bind, state_bind, hessentials]
  rfl

/-! ### Leaving tracing on -/

/-- The last session to record was removed without turning tracing off, and none has recorded since. -/
def LeftOn (a : Arbiter Simulation) (steps : List Step) : Prop :=
  ∃ before id rest, steps = before ++ .remove id :: rest ∧
    Control.tracingOn ∈ refusedWrites (remove id) (a.after before) ∧
    Throughout (fun a => a.active.isEmpty) ((Step.remove id).apply (a.after before)) rest

theorem leftOn_iff_since :
    LeftOn a steps ↔ Since
      (fun a step => ∃ id, step = .remove id ∧ Control.tracingOn ∈ refusedWrites (remove id) a ∧
        (step.apply a).active.isEmpty)
      (fun a step => (step.apply a).active.isEmpty) a steps := by
  constructor
  · rintro ⟨before, id, rest, rfl, hrefused, hidle⟩
    obtain ⟨hempty, hrest⟩ := throughout_iff_along.mp hidle
    exact ⟨before, .remove id, rest, rfl, ⟨id, rfl, hrefused, hempty⟩, hrest⟩
  · rintro ⟨before, _, rest, rfl, ⟨id, rfl, hrefused, hempty⟩, hrest⟩
    exact ⟨before, id, rest, rfl, hrefused, throughout_iff_along.mpr ⟨hempty, hrest⟩⟩

theorem leftOn_snoc :
    LeftOn a (steps ++ [step]) ↔
      LeftOn a steps ∧ (step.apply (a.after steps)).active.isEmpty ∨
        ∃ id, step = .remove id ∧ Control.tracingOn ∈ refusedWrites (remove id) (a.after steps) ∧
          (step.apply (a.after steps)).active.isEmpty := by
  rw [leftOn_iff_since, leftOn_iff_since, since_snoc, or_comm]

theorem not_leftOn_nil : ¬LeftOn a [] :=
  leftOn_iff_since.not.mpr not_since_nil

theorem not_leftOn_of_removable (hremovable : Along TracingRemovable a steps) :
    ¬LeftOn a steps := by
  rintro ⟨before, id, rest, rfl, hrefused, -⟩
  exact hremovable.at_step rfl hrefused

/-! ### The switch of tracing along a run -/

/-- The switch moves only when a session is the first to record or the last to stop. -/
theorem switch_apply (hpokes : ¬step.pokes Control.tracingOn) (hbefore : a.active.isEmpty)
    (hafter : (step.apply a).active.isEmpty) :
    (step.apply a).facility.value? Control.tracingOn = a.facility.value? Control.tracingOn := by
  cases step with
  | setup r report => exact (sameTracing_setup r report a).switch
  | activate id =>
    change ((activate id).run a).2.active.isEmpty at hafter
    change ((activate id).run a).2.facility.value? Control.tracingOn = _
    rw [activate_run] at hafter ⊢
    by_cases hfree : a.isRegistered id ∧ id ∉ a.active
    · rw [if_pos hfree, if_pos hbefore] at hafter ⊢
      by_cases hfails : Control.tracingOn ∈ a.facility.failingWrites
      · rw [if_pos hfails]
      · rw [if_neg hfails] at hafter
        simp at hafter
    · rw [if_neg hfree]
  | remove id =>
    change ((remove id).run a).2.facility.value? Control.tracingOn = _
    by_cases hregistered : a.isRegistered id
    · obtain ⟨shrunk, hshrunk, hrun⟩ := remove_case hregistered
      have hinactive : id ∉ shrunk.active := by
        rw [hshrunk.active]
        change id ∉ a.active
        rw [ExtTreeSet.isEmpty_iff.mp hbefore]
        exact ExtTreeSet.not_mem_empty
      rw [hrun, deactivate_run, if_neg hinactive]
      exact hshrunk.sameTracing_shrunk.switch
    · rw [remove_run, if_neg hregistered]
  | resetTracer => exact ((framed_resetTracer a).sameTracing (by decide)).switch
  | rig rigging => exact Rigging.value?_apply a.facility rigging _
  | poke path value => exact (sameTracing_poke value a hpokes).switch

theorem TracingOn.remove_refused (ha : a.TracingOn)
    (hrefused : Control.tracingOn ∈ refusedWrites (Arbiter.remove id) a) :
    ((Arbiter.remove id).run a).2.facility.value? Control.tracingOn = some Control.on := by
  obtain ⟨hregistered, hactive, -, hfails⟩ := tracingOn_mem_refusedWrites_remove.mp hrefused
  obtain ⟨shrunk, hshrunk, hrun⟩ := remove_case hregistered
  have hfails' : Control.tracingOn ∈ shrunk.facility.failingWrites := by
    rw [hshrunk.facility.failingWrites_eq]
    exact hfails
  have hrecording : ¬a.active.isEmpty := fun hempty => by
    rw [ExtTreeSet.isEmpty_iff.mp hempty] at hactive
    exact ExtTreeSet.not_mem_empty hactive
  have hkept : ((Arbiter.deactivate id).run shrunk).2.facility = shrunk.facility := by
    rw [deactivate_run, if_neg (not_and_of_not_right _ (not_not_intro hfails'))]
    split <;> rfl
  rw [hrun, hkept]
  exact hshrunk.sameTracing_shrunk.switch.trans (ha hrecording)

/-- What the run so far says of the switch of tracing. -/
structure TracingTold (start : Arbiter Simulation) (steps : List Step) : Prop where
  on : (start.after steps).TracingOn
  leftOn : LeftOn start steps →
    (start.after steps).active.isEmpty ∧
      (start.after steps).facility.value? Control.tracingOn = some Control.on
  off : ¬LeftOn start steps → (start.after steps).TracingOff

theorem TracingTold.snoc {start : Arbiter Simulation} (h : TracingTold start steps)
    (hpokes : ¬step.pokes Control.tracingOn) : TracingTold start (steps ++ [step]) where
  on := by
    rw [after_snoc]
    exact h.on.apply_unpoked hpokes
  leftOn := by
    rw [leftOn_snoc, after_snoc]
    rintro (⟨hleft, hempty⟩ | ⟨id, rfl, hrefused, hempty⟩)
    · obtain ⟨hidle, hon⟩ := h.leftOn hleft
      exact ⟨hempty, (switch_apply hpokes hidle hempty).trans hon⟩
    · exact ⟨hempty, h.on.remove_refused hrefused⟩
  off := by
    rw [leftOn_snoc, after_snoc, not_or]
    rintro ⟨hkept, hturned⟩ hempty
    -- Nobody is recording after the step, so had tracing been left on before it, it would be still.
    have hoff : (start.after steps).TracingOff := h.off fun hleft => hkept ⟨hleft, hempty⟩
    refine hoff.apply_unpoked hpokes (fun hremoval hrefused => ?_) hempty
    cases step with
    | remove id => exact hturned ⟨id, rfl, hrefused, hempty⟩
    | _ => exact Bool.false_ne_true hremoval

theorem TracingTold.fresh (catalog : Catalog) (settings : Settings)
    (hpokes : ∀ step ∈ steps, ¬step.pokes Control.tracingOn) :
    TracingTold (fresh catalog settings) steps := by
  induction steps using List.reverseRecOn with
  | nil =>
    exact ⟨nofun, fun hleft => absurd hleft not_leftOn_nil, fun _ _ =>
      show Simulation.idle.value? Control.tracingOn = some Control.off by decide⟩
  | append_singleton steps step ih =>
    have hsteps : ∀ s ∈ steps, ¬s.pokes Control.tracingOn := fun s hs =>
      hpokes s (List.mem_append_left _ hs)
    exact (ih hsteps).snoc (hpokes step (List.mem_append_right _ (.head _)))

/-! ### Setups that find tracing in use -/

theorem isTracingOn_eq {s : Simulation} {content : String}
    (hvalue : s.value? Control.tracingOn = some content)
    (hreads : Control.tracingOn ∉ s.failingReads) :
    Control.isTracingOn s = .ok (Text.trim content = Control.on) := by
  have hread : Facility.read s Control.tracingOn = .ok content := by
    change s.read Control.tracingOn = .ok content
    unfold Simulation.read
    rw [if_neg fun h => hreads (ExtTreeSet.mem_iff_contains.mpr h), hvalue]
  unfold Control.isTracingOn
  rw [hread]
  rfl

theorem not_mem_failingReads {s : Simulation} {b : Bool} (h : Control.isTracingOn s = .ok b) :
    Control.tracingOn ∉ s.failingReads := by
  intro hfails
  have hread : Facility.read s Control.tracingOn =
      .error (.readFailed Control.tracingOn Simulation.injected) := by
    change s.read Control.tracingOn = _
    unfold Simulation.read
    rw [if_pos (ExtTreeSet.mem_iff_contains.mp hfails)]
  unfold Control.isTracingOn at h
  rw [hread] at h
  cases h

theorem inUse_of_setup {r : Request} {report : SetupReport}
    (hinvalid : ((setup r report).run a).1.1 = .invalid)
    (hfailure : ((setup r report).run a).1.2.failure = some .tracingInUse) :
    a.sessions.isEmpty ∧ Control.isTracingOn a.facility = .ok true := by
  match hrun : (setup r report).run a with
  | ((id, report'), a') =>
    rw [hrun] at hinvalid hfailure
    cases setup_case hrun with
    | refused _ failure hreport hpreflight =>
      obtain rfl : failure = .tracingInUse := Option.some.inj (hreport.symm.trans hfailure)
      cases preflight_case hpreflight with
      | inUse hnobody hon => exact ⟨hnobody, hon⟩
    | undone _ failure _ hreport _ hundone =>
      obtain ⟨path, rfl⟩ := essentials_failure hundone
      exact absurd (hreport.symm.trans hfailure) nofun
    | completed _ _ _ hnext => exact absurd hinvalid (SessionId.next?_ne_invalid hnext)

/-- As long as nobody else writes the switch of tracing: a setup is refused because tracing is in use
exactly when there are no sessions and the last one to record was removed without turning tracing off,
which takes a removal whose write to the switch is refused. If it was turned off, a setup without
sessions works once the switch can be read and writes are taken again, given that the tracer is free
and an id is left. -/
theorem setup_tracingInUse_iff (catalog : Catalog) (settings : Settings) {steps : List Step}
    (hpokes : ∀ step ∈ steps, ¬step.pokes Control.tracingOn) :
    let a := (fresh catalog settings).after steps
    (∀ r report,
        ((setup r report).run a).1.1 = .invalid ∧
            ((setup r report).run a).1.2.failure = some .tracingInUse ↔
          a.sessions.isEmpty ∧ Control.tracingOn ∉ a.facility.failingReads ∧
            LeftOn (fresh catalog settings) steps) ∧
      (a.sessions.isEmpty → Control.tracingOn ∉ a.facility.failingReads →
        ¬LeftOn (fresh catalog settings) steps → a.facility.failingWrites = ∅ →
          ∀ r report id, TracerFree r a → a.lastId.next? = some id →
            ((setup r report).run a).1.1 = id) ∧
      (Along TracingRemovable (fresh catalog settings) steps →
        ¬LeftOn (fresh catalog settings) steps) := by
  intro a
  have htold : TracingTold (fresh catalog settings) steps := .fresh catalog settings hpokes
  have hregistered : a.ActiveRegistered :=
    invariant_after (fun _ step ha => ha.apply step)
      (fun _ hactive => absurd hactive ExtTreeSet.not_mem_empty) steps
  have hoff (hnobody : a.sessions.isEmpty) (hreads : Control.tracingOn ∉ a.facility.failingReads)
      (hleft : ¬LeftOn (fresh catalog settings) steps) :
      Control.isTracingOn a.facility = .ok false :=
    isTracingOn_eq (htold.off hleft (hregistered.isEmpty_active hnobody)) hreads
  refine ⟨fun r report => ⟨?_, ?_⟩, ?_, not_leftOn_of_removable⟩
  · rintro ⟨hinvalid, hfailure⟩
    obtain ⟨hnobody, hon⟩ := inUse_of_setup hinvalid hfailure
    have hreads := not_mem_failingReads hon
    refine ⟨hnobody, hreads, Classical.byContradiction fun hleft => ?_⟩
    rw [hoff hnobody hreads hleft] at hon
    cases hon
  · rintro ⟨hnobody, hreads, hleft⟩
    have hon : Control.isTracingOn a.facility = .ok true :=
      isTracingOn_eq (htold.leftOn hleft).2 hreads
    rw [setup_tracingInUse hnobody hon]
    exact ⟨rfl, rfl⟩
  · intro hnobody hreads hleft hwrites r report id hfree hid
    exact setup_works (preflight_idle hnobody (hoff hnobody hreads hleft) hfree hid) hwrites report

/-- A session records and is removed while the switch of tracing cannot be written. Then everything
works again. -/
def lockedStop : List Step :=
  [.setup {} {}, .activate ⟨1⟩, .rig (.failWritesTo Control.tracingOn), .remove ⟨1⟩,
    .rig .clearFailures]

theorem setup_tracingInUse_lockedStop :
    (∀ step ∈ lockedStop, ¬step.pokes Control.tracingOn) ∧
      ∀ r report,
        ((setup r report).run ((fresh smallCatalog {}).after lockedStop)).1.1 = .invalid ∧
          ((setup r report).run ((fresh smallCatalog {}).after lockedStop)).1.2.failure =
            some .tracingInUse := by
  have hpokes : ∀ step ∈ lockedStop, ¬step.pokes Control.tracingOn := by decide
  have hruns : ((fresh smallCatalog {}).after lockedStop).sessions.isEmpty ∧
      Control.tracingOn ∉ ((fresh smallCatalog {}).after lockedStop).facility.failingReads ∧
      Control.tracingOn ∈ refusedWrites (remove ⟨1⟩)
        ((fresh smallCatalog {}).after (lockedStop.take 3)) ∧
      ((fresh smallCatalog {}).after (lockedStop.take 4)).active.isEmpty ∧
      ((fresh smallCatalog {}).after lockedStop).active.isEmpty := by
    decide +kernel
  obtain ⟨hnobody, hreads, hrefused, hempty, hstill⟩ := hruns
  have hleft : LeftOn (fresh smallCatalog {}) lockedStop :=
    ⟨lockedStop.take 3, ⟨1⟩, [.rig .clearFailures], rfl, hrefused,
      throughout_cons.mpr ⟨hempty, throughout_nil.mpr hstill⟩⟩
  obtain ⟨hiff, -, -⟩ := setup_tracingInUse_iff smallCatalog {} hpokes
  exact ⟨hpokes, fun r report => (hiff r report).mpr ⟨hnobody, hreads, hleft⟩⟩

/-- Nobody else has written anything, nothing fails, and there is no session; yet none can be set
up. -/
theorem lockedOut_after_lockedStop :
    let a := (fresh smallCatalog {}).after lockedStop
    (∀ step ∈ lockedStop, ¬step.isOutside) ∧ a.sessions.isEmpty ∧
      a.facility.failingWrites.isEmpty ∧ a.facility.failingReads.isEmpty ∧
        ((setup {} {}).run a).1.1 = .invalid ∧
          ((setup {} {}).run a).1.2.failure = some .tracingInUse := by
  decide +kernel

end Arbiter

end TraceArbiter
