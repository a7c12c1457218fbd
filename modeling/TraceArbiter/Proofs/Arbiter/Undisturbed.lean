import TraceArbiter.Proofs.Annotation.Wanted
import TraceArbiter.Proofs.Arbiter.Lockout
import TraceArbiter.Proofs.Event.Shrinking

/-!
# Undisturbed runs

A run during which nothing is made to fail and nobody else writes control files, though somebody else
may take the annotations and leave them. Nothing is refused then, so everything that is believed about
the facility is right, and nothing is left installed that no session asks for.
-/

namespace TraceArbiter

open Std

def Rigging.isFailure : Rigging → Bool
  | .failWritesTo _ | .failReadsOf _ | .failAnnotations _ => true
  | .clearFailures | .setExternalAgent _ => false

/-- The step makes nothing fail, and it is not a write by somebody else. -/
def Step.isUndisturbed : Step → Bool
  | .rig rigging => !rigging.isFailure
  | .poke _ _ => false
  | _ => true

theorem Step.not_isOutside {step : Step} (h : step.isUndisturbed) : ¬step.isOutside := by
  cases step with
  | poke => exact absurd h Bool.false_ne_true
  | _ => exact Bool.false_ne_true

namespace AnnotationState

variable {s s' : AnnotationState} {r : Request} {errors : List String}
  {configs : List SessionConfig}

theorem JoinCase.failure_eq (h : JoinCase r s errors s') : s'.failure = s.failure := by
  cases h <;> rfl

theorem ShrinkCase.failure_eq (h : ShrinkCase configs s s') : s'.failure = s.failure := by
  cases h <;> rfl

end AnnotationState

namespace Arbiter

variable {a a' : Arbiter Simulation} {id : SessionId} {step : Step} {steps : List Step}

/-! ### Nothing fails -/

/-- No write is made to fail, and no start of annotations. -/
structure Unfailing (a : Arbiter Simulation) : Prop where
  writes : a.facility.failingWrites = ∅
  annotations : a.facility.annotationFailure = none

namespace Unfailing

theorem of_same (ha : a.Unfailing)
    (hwrites : a'.facility.failingWrites = a.facility.failingWrites)
    (hannotations : a'.annotationState.failure = a.annotationState.failure) : a'.Unfailing :=
  ⟨hwrites.trans ha.writes, hannotations.trans ha.annotations⟩

theorem setup (ha : a.Unfailing) (r : Request) (report : SetupReport) :
    ((setup r report).run a).2.Unfailing := by
  refine ha.of_same (frame_setup r report a).facility.failingWrites_eq ?_
  match hrun : (Arbiter.setup r report).run a with
  | ((id, report'), a') =>
    obtain ⟨-, hsame, -⟩ | ⟨-, errors, -, hjoin, -⟩ := annotationState_setup hrun
    · exact congrArg AnnotationState.failure hsame
    · exact hjoin.failure_eq

theorem remove (ha : a.Unfailing) (id : SessionId) : ((remove id).run a).2.Unfailing := by
  refine ha.of_same (frame_remove id a).facility.failingWrites_eq ?_
  by_cases hregistered : a.isRegistered id
  · exact (annotationState_remove hregistered).failure_eq
  · rw [remove_run, if_neg hregistered]

theorem apply (ha : a.Unfailing) (hstep : step.isUndisturbed) : (step.apply a).Unfailing := by
  cases step with
  | setup r report => exact ha.setup r report
  | activate id =>
    exact ha.of_same (frame_activate id a).facility.failingWrites_eq
      (congrArg AnnotationState.failure (annotationState_activate id a))
  | remove id => exact ha.remove id
  | resetTracer =>
    exact ha.of_same (framed_resetTracer a).facility.failingWrites_eq
      (congrArg AnnotationState.failure (annotationState_resetTracer a))
  | rig rigging =>
    cases rigging with
    | failWritesTo | failReadsOf | failAnnotations => exact absurd hstep Bool.false_ne_true
    | clearFailures => exact ⟨rfl, rfl⟩
    | setExternalAgent => exact ha.of_same rfl rfl
  | poke => exact absurd hstep Bool.false_ne_true

theorem not_mem_failingWrites (ha : a.Unfailing) (path : String) :
    path ∉ a.facility.failingWrites := by
  rw [ha.writes]
  exact ExtTreeSet.not_mem_empty

theorem refusedWrites_remove (ha : a.Unfailing) (id : SessionId) :
    refusedWrites (Arbiter.remove id) a = [] :=
  List.eq_nil_iff_forall_not_mem.mpr fun path hpath =>
    ha.not_mem_failingWrites path (mem_failingWrites_of_refused hpath)

theorem lockedSwitch? (ha : a.Unfailing) (event : EventId) : a.lockedSwitch? event = none := by
  refine Option.eq_none_iff_forall_ne_some.mpr fun path hlocked => ?_
  obtain ⟨e, -, -, hfails, -⟩ := lockedSwitch?_eq_some.mp hlocked
  exact ha.not_mem_failingWrites path hfails

end Unfailing

/-! ### Nothing is left behind -/

/-- What holds in every state of an undisturbed run: what is installed is what the registered sessions
ask for. -/
structure Orderly (a : Arbiter Simulation) : Prop where
  unfailing : a.Unfailing
  active : a.ActiveRegistered
  filter : a.FilterRight
  events : a.EventsExact
  tracingOn : a.TracingOn
  tracingOff : a.TracingOff
  annotations : a.OnlyWanted
  mirrored : a.annotationState.Mirrored

theorem Orderly.fresh (catalog : Catalog) (settings : Settings) :
    (Arbiter.fresh catalog settings).Orderly where
  unfailing := ⟨rfl, rfl⟩
  active := nofun
  filter := .fresh catalog settings
  events := .fresh catalog settings
  tracingOn := nofun
  tracingOff := fun _ => show Simulation.idle.value? Control.tracingOn = some Control.off by decide
  annotations := ⟨.of_off rfl rfl rfl, fun _ _ hconfig => (nomatch hconfig),
    ⟨List.nil_subset _, List.nil_subset _⟩⟩
  mirrored := rfl

theorem Orderly.apply (ha : a.Orderly) (hstep : step.isUndisturbed) : (step.apply a).Orderly := by
  have houtside := Step.not_isOutside hstep
  have hunrefused : step.isRemoval → step.refusedWrites a = [] := by
    intro hremoval
    cases step with
    | remove id => exact ha.unfailing.refusedWrites_remove id
    | _ => exact absurd hremoval Bool.false_ne_true
  have hfilter : (a.after [step]).FilterRight := by
    refine ha.filter.after (by simpa using houtside) ⟨fun hremoval path hpath => ?_, trivial⟩
    rw [hunrefused hremoval] at hpath
    cases hpath
  have hevents : (a.after [step]).EventsExact := by
    refine ha.events.after ⟨fun hremoval path hpath => ?_, trivial⟩
    rw [hunrefused hremoval] at hpath
    cases hpath
  have htracing : TracingRemovable a step := by
    intro hremoval
    rw [hunrefused hremoval]
    exact List.not_mem_nil
  have hrestarts : RestartsTaken a step := by
    intro _ hfailure
    rw [ha.unfailing.annotations] at hfailure
    cases hfailure
  exact {
    unfailing := ha.unfailing.apply hstep
    active := ha.active.apply step
    filter := hfilter
    events := hevents
    tracingOn := ha.tracingOn.apply houtside
    tracingOff := ha.tracingOff.apply houtside htracing
    annotations := ha.annotations.apply hrestarts
    mirrored := ha.mirrored.turn (turn_apply a step) }

theorem Orderly.after (ha : a.Orderly) (hsteps : ∀ step ∈ steps, step.isUndisturbed) :
    (a.after steps).Orderly :=
  (Along.of_forall steps a hsteps).invariant (fun _ _ h hstep => h.apply hstep) ha

end Arbiter

end TraceArbiter
