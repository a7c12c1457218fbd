import TraceArbiter.Proofs.Annotation.Mirror
import TraceArbiter.Proofs.Annotation.Oblivious

/-!
# Annotations that somebody else holds

As long as another agent holds the annotations, an arbiter that has not started any leaves them alone.
Sessions that wanted some are registered with their lists all the same, and a removal works out anew
what is wanted; that turns into no start, because only what is running is ever shrunk. Of a setup, the
agent concerns nothing but what is reported of annotations.
-/

namespace TraceArbiter

open Std

namespace Arbiter

open AnnotationState

variable {a : Arbiter Simulation} {id : SessionId} {r : Request}

/-- What a setup reports of annotations that somebody else holds. -/
def heldErrors (r : Request) : List String :=
  if r.apps = [] ∧ r.categories = [] then [] else [heldElsewhere]

/-! ### Joining and shrinking -/

theorem joinAnnotations_held (hoff : a.installed.annotationsOn = false)
    (hheld : a.facility.externalAgent) : (joinAnnotations r).run a = (heldErrors r, a) := by
  unfold joinAnnotations heldErrors
  rw [state_get_bind]
  have hwants : (!r.wantsAnnotations) = true ↔ r.apps = [] ∧ r.categories = [] := by
    rw [Bool.not_eq_true', Request.wantsAnnotations_eq_false_iff]
  by_cases hwanted : r.apps = [] ∧ r.categories = []
  · rw [if_pos (hwants.mpr hwanted), if_pos hwanted]
    rfl
  · have hblocked : (!a.installed.annotationsOn &&
        Facility.externalAgentActive a.facility) = true := by
      rw [hoff]
      exact hheld
    rw [if_neg (mt hwants.mp hwanted), if_pos hblocked, if_neg hwanted]
    rfl

theorem shrinkAnnotations_off (hoff : a.installed.annotationsOn = false) :
    shrinkAnnotations.run a = ((), a) := by
  unfold shrinkAnnotations
  rw [state_get_bind]
  dsimp only
  rw [hoff, Bool.false_and]
  rfl

/-! ### Single steps -/

theorem annotationState_remove_off (hoff : a.installed.annotationsOn = false) (id : SessionId) :
    ((remove id).run a).2.annotationState = a.annotationState := by
  by_cases hregistered : a.isRegistered id
  · have hshrink : shrinkAnnotations.run (a.without id) = ((), a.without id) :=
      shrinkAnnotations_off hoff
    rw [annotationState_remove_eq hregistered, hshrink]
    rfl
  · rw [remove_run, if_neg hregistered]

/-- Completing a setup reports that annotations are held, and leaves them alone. -/
theorem completeSetup_held (hoff : a.installed.annotationsOn = false)
    (hheld : a.facility.externalAgent) (r : Request) (id : SessionId) (plan : Plan) :
    ((completeSetup r id plan).run a).1.2 = heldErrors r ∧
      ((completeSetup r id plan).run a).2.annotationState = a.annotationState := by
  have hbefore := annotationState_beforeJoining r plan.events a
  have hjoin : (joinAnnotations r).run ((beforeJoining r plan.events).run a).2 =
      (heldErrors r, _) :=
    joinAnnotations_held ((congrArg AnnotationState.on hbefore).trans hoff)
      ((congrArg AnnotationState.externalAgent hbefore).trans hheld)
  constructor
  · exact congrArg Prod.fst hjoin
  · exact (congrArg (fun done => done.2.annotationState) hjoin).trans hbefore

theorem setup_held (hoff : a.installed.annotationsOn = false) (hheld : a.facility.externalAgent)
    (r : Request) (report : SetupReport) :
    let done := (setup r report).run a
    done.2.annotationState = a.annotationState ∧
      (done.1.1 ≠ .invalid → done.1.2.annotationErrors = report.annotationErrors ++ heldErrors r) := by
  match hrun : (setup r report).run a with
  | ((id, report'), a') =>
    dsimp only
    by_cases hid : id = .invalid
    · obtain ⟨-, hsame, -⟩ | ⟨hnext, -⟩ := annotationState_setup hrun
      · exact ⟨hsame, fun hne => absurd hid hne⟩
      · exact absurd hid (SessionId.next?_ne_invalid hnext)
    · obtain ⟨a₁, -, hdone, rfl, -, herrors⟩ := setup_completed hrun hid
      have hsame := annotationState_essentials hdone
      obtain ⟨hheldErrors, hstate⟩ := completeSetup_held
        ((congrArg AnnotationState.on hsame).trans hoff)
        ((congrArg AnnotationState.externalAgent hsame).trans hheld) r id (r.plan a.catalog)
      exact ⟨hstate.trans hsame, fun _ => by rw [herrors, hheldErrors]⟩

/-- A setup that gives a session registers it with the lists of its request. -/
theorem session?_setup {report : SetupReport} (hworks : ((setup r report).run a).1.1 ≠ .invalid) :
    let done := (setup r report).run a
    ∃ config, done.2.session? done.1.1 = some config ∧ config.apps = r.apps ∧
      config.categories = r.categories := by
  match hrun : (setup r report).run a with
  | ((id, report'), a') =>
    rw [hrun] at hworks
    obtain ⟨hid, -⟩ | ⟨-, -, -, -, config, happs, hcategories, hsessions⟩ :=
      annotationState_setup hrun
    · exact absurd hid hworks
    · refine ⟨config, ?_, happs, hcategories⟩
      change a'.sessions[id]? = some config
      rw [hsessions, ExtTreeMap.getElem?_insert_self]

/-- No step starts or stops annotations that are off and held by somebody else. -/
theorem held_apply (hoff : a.installed.annotationsOn = false) (hheld : a.facility.externalAgent)
    (step : Step) :
    let s := (step.apply a).annotationState
    s.on = false ∧ s.running = a.annotationState.running ∧ s.starts = a.annotationState.starts := by
  have hkept : ∀ s : AnnotationState, s = a.annotationState →
      s.on = false ∧ s.running = a.annotationState.running ∧
        s.starts = a.annotationState.starts := by
    rintro s rfl
    exact ⟨hoff, rfl, rfl⟩
  cases step with
  | setup r report => exact hkept _ (setup_held hoff hheld r report).1
  | activate id => exact hkept _ (annotationState_activate id a)
  | remove id => exact hkept _ (annotationState_remove_off hoff id)
  | resetTracer => exact hkept _ (annotationState_resetTracer a)
  | rig rigging => cases rigging <;> exact ⟨hoff, rfl, rfl⟩
  | poke path value => exact hkept _ rfl

/-! ### Runs -/

theorem held_after (hoff : a.installed.annotationsOn = false) {steps : List Step}
    (hheld : Throughout (fun b => b.facility.externalAgent) a steps) :
    let s := (a.after steps).annotationState
    s.on = false ∧ s.running = a.annotationState.running ∧ s.starts = a.annotationState.starts := by
  induction steps generalizing a with
  | nil => exact ⟨hoff, rfl, rfl⟩
  | cons step steps ih =>
    rw [throughout_cons] at hheld
    obtain ⟨hstillOff, hrunning, hstarts⟩ := held_apply hoff hheld.1 step
    obtain ⟨hlastOff, hlastRunning, hlastStarts⟩ := ih hstillOff hheld.2
    exact ⟨hlastOff, hlastRunning.trans hrunning, hlastStarts.trans hstarts⟩

/-- The arbiter in the same state, except that nobody else holds the annotations. -/
def withoutAgent (a : Arbiter Simulation) : Arbiter Simulation :=
  { a with facility := a.facility.setExternalAgent false }

/-- Once annotations are off, and for as long as another agent holds them: they stay off; what the
facility is recording and how often it was started do not change, and no removal changes them; and a
setup that gives a session registers it with its lists, adds one error if there is anything in them,
and does everything else as if there were no agent. -/
theorem annotations_heldElsewhere (hoff : a.installed.annotationsOn = false) (steps : List Step)
    (hheld : Throughout (fun b => b.facility.externalAgent) a steps) :
    let b := a.after steps
    b.installed.annotationsOn = false ∧ b.facility.annotations = a.facility.annotations ∧
      b.facility.annotationStarts = a.facility.annotationStarts ∧
      (∀ id, ((remove id).run b).2.annotationState = b.annotationState) ∧
      ∀ r report,
        let done := (setup r report).run b
        (done.1.1 ≠ .invalid →
          done.1.2.annotationErrors = report.annotationErrors ++ heldErrors r ∧
            ∃ config, done.2.session? done.1.1 = some config ∧ config.apps = r.apps ∧
              config.categories = r.categories) ∧
          apartFromAnnotations done = apartFromAnnotations ((setup r report).run b.withoutAgent) := by
  intro b
  obtain ⟨hstillOff, hrunning, hstarts⟩ := held_after hoff hheld
  have hstillHeld : b.facility.externalAgent := hheld steps List.prefix_rfl
  refine ⟨hstillOff, hrunning, hstarts, annotationState_remove_off hstillOff, fun r report => ?_⟩
  intro done
  constructor
  · intro hworks
    refine ⟨(setup_held hstillOff hstillHeld r report).2 hworks, ?_⟩
    exact session?_setup hworks
  · rw [← setup_withoutAnnotations r report b, ← setup_withoutAnnotations r report b.withoutAgent]
    rfl

/-- The arbiter has started annotations and stopped them again when another agent takes them. -/
def takenOver : List Step :=
  [.setup { apps := ["launcher"] } {}, .remove ⟨1⟩, .rig (.setExternalAgent true)]

/-- Two sessions want annotations in vain, and the first of them goes. -/
def inVain : List Step :=
  [.setup { apps := ["browser"] } {}, .setup { categories := ["gfx"] } {}, .remove ⟨2⟩]

theorem annotations_heldElsewhere_takenOver :
    let a := (fresh smallCatalog {}).after takenOver
    let b := a.after inVain
    let r : Request := { apps := ["camera"], events := ["sched/sched_switch"] }
    a.installed.annotationsOn = false ∧ Throughout (fun b => b.facility.externalAgent) a inVain ∧
      b.configs.map (·.categories) = [["gfx"]] ∧ b.installed.annotationsOn = false ∧
      b.facility.annotations = none ∧ b.facility.annotationStarts = 1 ∧
      ((setup r {}).run b).1.1 = ⟨4⟩ ∧
      ((setup r {}).run b).1.2.annotationErrors = [heldElsewhere] ∧
      ((setup r {}).run b).2.facility.enabledEvents.toList = ["sched/sched_switch"] ∧
      apartFromAnnotations ((setup r {}).run b) =
        apartFromAnnotations ((setup r {}).run b.withoutAgent) := by
  have hstart :
      ((fresh smallCatalog {}).after takenOver).installed.annotationsOn = false ∧
      ((fresh smallCatalog {}).after takenOver).facility.annotations = none ∧
      ((fresh smallCatalog {}).after takenOver).facility.annotationStarts = 1 := by
    decide +kernel
  have hheld : Throughout (fun b => b.facility.externalAgent)
      ((fresh smallCatalog {}).after takenOver) inVain :=
    throughout_iff_along.mpr (by decide +kernel)
  have hrun :
      (((fresh smallCatalog {}).after takenOver).after inVain).configs.map (·.categories) =
        [["gfx"]] ∧
      ((setup { apps := ["camera"], events := ["sched/sched_switch"] } {}).run
        (((fresh smallCatalog {}).after takenOver).after inVain)).1.1 = ⟨4⟩ ∧
      ((setup { apps := ["camera"], events := ["sched/sched_switch"] } {}).run
        (((fresh smallCatalog {}).after takenOver).after inVain)).2.facility.enabledEvents.toList =
          ["sched/sched_switch"] := by
    decide +kernel
  obtain ⟨hoff, hnone, hone⟩ := hstart
  obtain ⟨hconfigs, hid, henabled⟩ := hrun
  obtain ⟨hstillOff, hrunning, hstarts, -, hsetup⟩ := annotations_heldElsewhere hoff inVain hheld
  obtain ⟨hworks, hsame⟩ := hsetup { apps := ["camera"], events := ["sched/sched_switch"] } {}
  obtain ⟨herrors, -⟩ := hworks (by rw [hid]; decide)
  exact ⟨hoff, hheld, hconfigs, hstillOff, hrunning.trans hnone, hstarts.trans hone, hid, herrors,
    henabled, hsame⟩

end Arbiter

end TraceArbiter
