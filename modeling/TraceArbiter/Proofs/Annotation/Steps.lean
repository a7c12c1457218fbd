import TraceArbiter.Proofs.Annotation.Names
import TraceArbiter.Proofs.Arbiter.FilesOnly
import TraceArbiter.Proofs.Run

/-!
# Annotations, step by step

All that annotations depend on, taken from the beliefs of an arbiter and from its facility, and what
each operation may do to it. Setups join annotations and removals shrink them; both do so by starting
annotations anew with other lists, and nothing else that the arbiter does concerns them.
-/

namespace TraceArbiter

open Std

structure AnnotationState where
  on : Bool
  apps : List String
  categories : List String
  /-- What the facility is recording. -/
  running : Option AnnotationSession
  starts : Nat
  failure : Option String
  externalAgent : Bool

namespace AnnotationState

def start (s : AnnotationState) (apps categories : List String) : AnnotationState :=
  { s with apps, categories, running := some ⟨apps, categories⟩, starts := s.starts + 1 }

def stop (s : AnnotationState) : AnnotationState :=
  { s with on := false, apps := [], categories := [], running := none }

/-- The ways to join annotations, by what went wrong and the state after it. -/
inductive JoinCase (r : Request) (s : AnnotationState) : List String → AnnotationState → Prop
  | unwanted (happs : r.apps = []) (hcategories : r.categories = []) : JoinCase r s [] s
  | held (hoff : s.on = false) (hheld : s.externalAgent) : JoinCase r s [Arbiter.heldElsewhere] s
  | covered (hon : s.on) (happs : r.apps ⊆ s.apps) (hcategories : r.categories ⊆ s.categories) :
      JoinCase r s [] s
  | started (hwanted : r.apps ≠ [] ∨ r.categories ≠ []) :
      JoinCase r s [] { s.start (Arbiter.mergeNames s.apps r.apps)
        (Arbiter.mergeNames s.categories r.categories) with on := true }
  | refused (reason : String) (hfailure : s.failure = some reason) :
      JoinCase r s [FacilityError.message (.unsupported reason)] s

/-- What the sessions want of the apps that are running. -/
def keptApps (s : AnnotationState) (configs : List SessionConfig) : List String :=
  (Arbiter.unionOfApps configs).filter (· ∈ s.apps)

def keptCategories (s : AnnotationState) (configs : List SessionConfig) : List String :=
  (Arbiter.unionOfCategories configs).filter (· ∈ s.categories)

/-- The ways to shrink annotations to what the sessions want, by the state after it. -/
inductive ShrinkCase (configs : List SessionConfig) (s : AnnotationState) : AnnotationState → Prop
  | off (hoff : s.on = false) : ShrinkCase configs s s
  | wanted (happs : (s.keptApps configs).length = s.apps.length)
      (hcategories : (s.keptCategories configs).length = s.categories.length) :
      ShrinkCase configs s s
  | stopped (happs : s.keptApps configs = []) (hcategories : s.keptCategories configs = []) :
      ShrinkCase configs s s.stop
  | restarted (hon : s.on) (hleft : s.keptApps configs ≠ [] ∨ s.keptCategories configs ≠ []) :
      ShrinkCase configs s (s.start (s.keptApps configs) (s.keptCategories configs))
  | refused (hleft : s.keptApps configs ≠ [] ∨ s.keptCategories configs ≠ []) (reason : String)
      (hfailure : s.failure = some reason) : ShrinkCase configs s s

end AnnotationState

namespace Simulation

def annotating (s : Simulation) (apps categories : List String) : Simulation :=
  { s with
    annotations := some ⟨apps, categories⟩
    annotationStarts := s.annotationStarts + 1 }

theorem startAnnotations_run (s : Simulation) (apps categories : List String) :
    (Facility.startAnnotations apps categories : Access Simulation Unit).run.run s =
      match s.annotationFailure with
      | some reason => (.error (.unsupported reason), s)
      | none => (.ok (), s.annotating apps categories) := by
  change (startAnnotations apps categories).run.run s = _
  unfold startAnnotations
  rw [run_get_bind]
  change StateT.run (ExceptT.run (match s.annotationFailure with
    | some reason => throw (FacilityError.unsupported reason)
    | none => set (s.annotating apps categories))) s = _
  cases s.annotationFailure <;> rfl

end Simulation

namespace Arbiter

open AnnotationState

variable {a a' : Arbiter Simulation} {id : SessionId} {r : Request}

def annotationState (a : Arbiter Simulation) : AnnotationState where
  on := a.installed.annotationsOn
  apps := a.installed.apps
  categories := a.installed.categories
  running := a.facility.annotations
  starts := a.facility.annotationStarts
  failure := a.facility.annotationFailure
  externalAgent := a.facility.externalAgent

/-! ### Joining and shrinking -/

theorem extendAnnotations_case (a : Arbiter Simulation) (hwanted : r.apps ≠ [] ∨ r.categories ≠ []) :
    JoinCase r a.annotationState ((extendAnnotations r).run a).1
      ((extendAnnotations r).run a).2.annotationState := by
  unfold extendAnnotations
  rw [state_get_bind]
  dsimp only
  split
  · next hcovered =>
    simp only [Bool.and_eq_true, decide_eq_true_eq] at hcovered
    obtain ⟨⟨hon, happs⟩, hcategories⟩ := hcovered
    exact .covered hon (length_mergeNames_eq_iff.mp happs) (length_mergeNames_eq_iff.mp hcategories)
  · rw [state_bind, access_run, Simulation.startAnnotations_run]
    cases hfailure : a.facility.annotationFailure with
    | some reason => exact .refused reason hfailure
    | none => exact .started hwanted

theorem joinAnnotations_case (r : Request) (a : Arbiter Simulation) :
    JoinCase r a.annotationState ((joinAnnotations r).run a).1
      ((joinAnnotations r).run a).2.annotationState := by
  unfold joinAnnotations
  rw [state_get_bind]
  split
  · next hunwanted =>
    rw [Bool.not_eq_true', Request.wantsAnnotations_eq_false_iff] at hunwanted
    exact .unwanted hunwanted.1 hunwanted.2
  next hwanted =>
  split
  · next hheld =>
    rw [Bool.and_eq_true, Bool.not_eq_true'] at hheld
    exact .held hheld.1 hheld.2
  · exact extendAnnotations_case a (Request.wantsAnnotations_iff.mp (by simpa using hwanted))

theorem shrinkAnnotations_case (a : Arbiter Simulation) :
    ShrinkCase a.configs a.annotationState (shrinkAnnotations.run a).2.annotationState := by
  unfold shrinkAnnotations
  rw [state_get_bind]
  dsimp only
  split
  · next hchanged =>
    have hon : a.installed.annotationsOn = true := (Bool.and_eq_true_iff.mp hchanged).1
    split
    · next hnone =>
      rw [Bool.and_eq_true, List.isEmpty_iff, List.isEmpty_iff] at hnone
      exact .stopped hnone.1 hnone.2
    · next hleft =>
      rw [Bool.and_eq_true, List.isEmpty_iff, List.isEmpty_iff, not_and_or] at hleft
      rw [state_bind, access_run, Simulation.startAnnotations_run]
      cases hfailure : a.facility.annotationFailure with
      | some reason => exact .refused hleft reason hfailure
      | none => exact .restarted hon hleft
  · next hsame =>
    rw [Bool.and_eq_true, not_and_or, Bool.not_eq_true] at hsame
    obtain hoff | hlengths := hsame
    · exact .off hoff
    · simp only [ne_eq, Bool.or_eq_true, decide_eq_true_eq, not_or, not_not] at hlengths
      exact .wanted hlengths.1 hlengths.2

/-! ### Everything else -/

theorem annotationState_of_frame {P : String → Prop} {view : Installed → Installed}
    (h : Frame P view a a') (hfiles : SameButFiles a a')
    (hview : ∀ i, (view i).annotationsOn = i.annotationsOn ∧ (view i).apps = i.apps ∧
      (view i).categories = i.categories) :
    a'.annotationState = a.annotationState := by
  have hrunning := congrArg Simulation.annotations hfiles
  have hstarts := congrArg Simulation.annotationStarts hfiles
  have hfailure := congrArg Simulation.annotationFailure hfiles
  have hagent := congrArg Simulation.externalAgent hfiles
  unfold annotationState
  rw [h.belief Installed.annotationsOn fun i => (hview i).1,
    h.belief Installed.apps fun i => (hview i).2.1,
    h.belief Installed.categories fun i => (hview i).2.2]
  exact congr (congr (congr (congrArg _ hrunning) hstarts) hfailure) hagent

theorem annotationState_essentials {filter : SyscallFilter} {result : Except SetupFailure Unit}
    (h : (installEssentials r filter).run.run a = (result, a')) :
    a'.annotationState = a.annotationState :=
  annotationState_of_frame ((framed_installEssentials r filter).of_run h)
    ((SameButFiles.allows.installEssentials r filter).of_run h) fun _ => ⟨rfl, rfl, rfl⟩

theorem annotationState_beforeJoining (r : Request) (events : List Event) (a : Arbiter Simulation) :
    ((beforeJoining r events).run a).2.annotationState = a.annotationState := by
  have hfresh : (startFresh.run a).2.annotationState = a.annotationState :=
    annotationState_of_frame (framed_startFresh a) (SameButFiles.allows.startFresh a) fun _ =>
      ⟨rfl, rfl, rfl⟩
  have hclock : ((selectClock r).run (startFresh.run a).2).2.annotationState =
      (startFresh.run a).2.annotationState :=
    annotationState_of_frame (framed_selectClock r _) (SameButFiles.allows.selectClock r _) fun _ =>
      ⟨rfl, rfl, rfl⟩
  let clocked := ((selectClock r).run (startFresh.run a).2).2
  have hevents : ((enableEvents events).run clocked).2.annotationState = clocked.annotationState :=
    annotationState_of_frame (framed_enableEvents events clocked)
      (SameButFiles.allows.enableEvents events clocked) fun _ => ⟨rfl, rfl, rfl⟩
  exact hevents.trans (hclock.trans hfresh)

theorem completeSetup_case (r : Request) (id : SessionId) (plan : Plan) (a : Arbiter Simulation) :
    JoinCase r a.annotationState ((completeSetup r id plan).run a).1.2
        ((completeSetup r id plan).run a).2.annotationState ∧
      ∃ config : SessionConfig, config.apps = r.apps ∧ config.categories = r.categories ∧
        ((completeSetup r id plan).run a).2.sessions = a.sessions.insert id config := by
  constructor
  · have hjoin := joinAnnotations_case r ((beforeJoining r plan.events).run a).2
    rw [annotationState_beforeJoining] at hjoin
    exact hjoin
  · rw [completeSetup_run]
    refine ⟨_, rfl, rfl, congrArg (fun sessions : ExtTreeMap SessionId SessionConfig =>
      sessions.insert id _) ?_⟩
    rw [(framed_joinAnnotations r _).sessions, (framed_enableEvents plan.events _).sessions,
      (framed_selectClock r _).sessions, (framed_startFresh a).sessions]

/-! ### Whole operations -/

/-- A setup that gives no session leaves annotations as they are; one that gives a session joins them,
and keeps with the session what was asked for. -/
theorem annotationState_setup {report report' : SetupReport}
    (h : (setup r report).run a = ((id, report'), a')) :
    id = .invalid ∧ a'.annotationState = a.annotationState ∧ a'.sessions = a.sessions ∨
      a.lastId.next? = some id ∧ ∃ errors,
        report'.annotationErrors = report.annotationErrors ++ errors ∧
        JoinCase r a.annotationState errors a'.annotationState ∧
        ∃ config : SessionConfig, config.apps = r.apps ∧ config.categories = r.categories ∧
          a'.sessions = a.sessions.insert id config := by
  by_cases hid : id = .invalid
  · left
    refine ⟨hid, ?_⟩
    cases setup_case h with
    | refused => exact ⟨rfl, rfl⟩
    | undone _ _ _ _ _ hundone =>
      exact ⟨annotationState_essentials hundone, ((framed_installEssentials r _).of_run hundone).sessions⟩
    | completed _ _ _ hnext => exact absurd hid (SessionId.next?_ne_invalid hnext)
  · right
    obtain ⟨a₁, hnext, hdone, rfl, -, herrors⟩ := setup_completed h hid
    obtain ⟨hjoin, config, happs, hcategories, hsessions⟩ :=
      completeSetup_case r id (r.plan a.catalog) a₁
    rw [annotationState_essentials hdone] at hjoin
    rw [((framed_installEssentials r _).of_run hdone).sessions] at hsessions
    exact ⟨hnext, _, herrors, hjoin, config, happs, hcategories, hsessions⟩

/-- Of a removal, only what it does to annotations first concerns them. -/
theorem annotationState_remove_eq (hregistered : a.isRegistered id) :
    ((remove id).run a).2.annotationState =
      (shrinkAnnotations.run (a.without id)).2.annotationState := by
  rw [remove_run, if_pos hregistered]
  dsimp only
  generalize (shrinkAnnotations.run (a.without id)).2 = annotated
  have hfilter : (shrinkSyscallFilter.run annotated).2.annotationState =
      annotated.annotationState :=
    annotationState_of_frame (framed_shrinkSyscallFilter _) (SameButFiles.allows.shrinkSyscallFilter _)
      fun _ => ⟨rfl, rfl, rfl⟩
  generalize (shrinkSyscallFilter.run annotated).2 = filtered at hfilter
  have hevents : (shrinkEvents.run filtered).2.annotationState = filtered.annotationState :=
    annotationState_of_frame (framed_shrinkEvents _) (SameButFiles.allows.shrinkEvents _)
      fun _ => ⟨rfl, rfl, rfl⟩
  generalize (shrinkEvents.run filtered).2 = shrunk at hevents
  have hstop := annotationState_of_frame (frame_deactivate id shrunk)
    (SameButFiles.allows.deactivate id shrunk) fun _ => ⟨rfl, rfl, rfl⟩
  exact hstop.trans (hevents.trans hfilter)

theorem annotationState_remove (hregistered : a.isRegistered id) :
    ShrinkCase (a.without id).configs a.annotationState ((remove id).run a).2.annotationState := by
  rw [annotationState_remove_eq hregistered]
  exact shrinkAnnotations_case (a.without id)

theorem annotationState_activate (id : SessionId) (a : Arbiter Simulation) :
    ((activate id).run a).2.annotationState = a.annotationState := by
  have hactivate := annotationState_of_frame (frame_activate id a) (SameButFiles.allows.activate id a)
    fun _ => ⟨rfl, rfl, rfl⟩
  exact hactivate

theorem annotationState_resetTracer (a : Arbiter Simulation) :
    (resetTracer.run a).2.annotationState = a.annotationState :=
  annotationState_of_frame (framed_resetTracer a) (SameButFiles.allows.resetTracer a) fun _ =>
    ⟨rfl, rfl, rfl⟩

end Arbiter

end TraceArbiter
