import TraceArbiter.Proofs.Annotation.Steps

/-!
# Running annotations

The arbiter knows what the facility is recording: the lists that it believes to be running are those
that the facility was last started with. Joining keeps the lists that run when the start is refused,
and so does shrinking, so a belief changes only together with what is running.
-/

namespace TraceArbiter

open Std

namespace AnnotationState

/-- The lists have no repetitions, and annotations are on when there is a name in one of them. -/
structure NamesRight (s : AnnotationState) : Prop where
  apps : s.apps.Nodup
  categories : s.categories.Nodup
  on_iff : s.on ↔ s.apps ≠ [] ∨ s.categories ≠ []

/-- What is running is what is believed to be running. -/
def Mirrored (s : AnnotationState) : Prop :=
  s.running = if s.on then some ⟨s.apps, s.categories⟩ else none

/-- What a step may do to annotations. -/
inductive Turn (s : AnnotationState) : AnnotationState → Prop
  | kept : Turn s s
  | joined (r : Request) (errors : List String) (s' : AnnotationState)
      (hjoin : JoinCase r s errors s') : Turn s s'
  | shrunk (configs : List SessionConfig) (s' : AnnotationState)
      (hshrink : ShrinkCase configs s s') : Turn s s'
  | rigged (failure : Option String) (externalAgent : Bool) :
      Turn s { s with failure, externalAgent }

variable {s s' : AnnotationState} {r : Request} {errors : List String}
  {configs : List SessionConfig}

theorem nodup_keptApps (s : AnnotationState) (configs : List SessionConfig) :
    (s.keptApps configs).Nodup :=
  (Arbiter.nodup_unionOfApps configs).filter _

theorem nodup_keptCategories (s : AnnotationState) (configs : List SessionConfig) :
    (s.keptCategories configs).Nodup :=
  (Arbiter.nodup_unionOfCategories configs).filter _

theorem NamesRight.of_off (hoff : s.on = false) (happs : s.apps = [])
    (hcategories : s.categories = []) : s.NamesRight where
  apps := by rw [happs]; exact List.nodup_nil
  categories := by rw [hcategories]; exact List.nodup_nil
  on_iff := by simp [hoff, happs, hcategories]

theorem NamesRight.join (hs : s.NamesRight) (h : JoinCase r s errors s') : s'.NamesRight := by
  cases h with
  | started hwanted =>
    refine ⟨Arbiter.nodup_mergeNames hs.apps _, Arbiter.nodup_mergeNames hs.categories _,
      iff_of_true rfl ?_⟩
    exact hwanted.imp (fun happs h => happs (Arbiter.mergeNames_eq_nil.mp h).2)
      fun hcategories h => hcategories (Arbiter.mergeNames_eq_nil.mp h).2
  | unwanted | held | covered | refused => exact hs

theorem NamesRight.shrink (hs : s.NamesRight) (h : ShrinkCase configs s s') : s'.NamesRight := by
  cases h with
  | stopped => exact .of_off rfl rfl rfl
  | restarted hon hleft =>
    exact ⟨s.nodup_keptApps configs, s.nodup_keptCategories configs, iff_of_true hon hleft⟩
  | off | wanted | refused => exact hs

theorem NamesRight.turn (hs : s.NamesRight) (h : Turn s s') : s'.NamesRight := by
  cases h with
  | kept => exact hs
  | joined r errors _ hjoin => exact hs.join hjoin
  | shrunk configs _ hshrink => exact hs.shrink hshrink
  | rigged => exact ⟨hs.apps, hs.categories, hs.on_iff⟩

theorem Mirrored.join (hs : s.Mirrored) (h : JoinCase r s errors s') : s'.Mirrored := by
  cases h with
  | started => exact (if_pos rfl).symm
  | unwanted | held | covered | refused => exact hs

theorem Mirrored.shrink (hs : s.Mirrored) (h : ShrinkCase configs s s') : s'.Mirrored := by
  cases h with
  | stopped => exact (if_neg Bool.false_ne_true).symm
  | restarted hon => exact (if_pos hon).symm
  | off | wanted | refused => exact hs

theorem Mirrored.turn (hs : s.Mirrored) (h : Turn s s') : s'.Mirrored := by
  cases h with
  | kept => exact hs
  | joined r errors _ hjoin => exact hs.join hjoin
  | shrunk configs _ hshrink => exact hs.shrink hshrink
  | rigged => exact hs

end AnnotationState

namespace Arbiter

open AnnotationState

theorem turn_apply (a : Arbiter Simulation) (step : Step) :
    Turn a.annotationState (step.apply a).annotationState := by
  cases step with
  | setup r report =>
    match hrun : (setup r report).run a with
    | ((id, report'), a') =>
      have happly : Step.apply a (.setup r report) = a' := congrArg Prod.snd hrun
      rw [happly]
      obtain ⟨-, hsame, -⟩ | ⟨-, errors, -, hjoin, -⟩ := annotationState_setup hrun
      · rw [hsame]
        exact .kept
      · exact .joined r errors _ hjoin
  | activate id =>
    change Turn a.annotationState ((activate id).run a).2.annotationState
    rw [annotationState_activate]
    exact .kept
  | remove id =>
    change Turn a.annotationState ((remove id).run a).2.annotationState
    by_cases hregistered : a.isRegistered id
    · exact .shrunk _ _ (annotationState_remove hregistered)
    · rw [remove_run, if_neg hregistered]
      exact .kept
  | resetTracer =>
    change Turn a.annotationState (resetTracer.run a).2.annotationState
    rw [annotationState_resetTracer]
    exact .kept
  | rig rigging =>
    cases rigging with
    | failWritesTo | failReadsOf => exact .kept
    | failAnnotations reason => exact .rigged (some reason) a.facility.externalAgent
    | clearFailures => exact .rigged none a.facility.externalAgent
    | setExternalAgent active => exact .rigged a.facility.annotationFailure active
  | poke path value => exact .kept

theorem namesRight_after (facility : Simulation) (catalog : Catalog) (settings : Settings)
    (steps : List Step) :
    (({ facility, catalog, settings } : Arbiter Simulation).after steps).annotationState.NamesRight := by
  have hstart : ({ facility, catalog, settings } : Arbiter Simulation).annotationState.NamesRight :=
    .of_off rfl rfl rfl
  exact invariant_after (I := fun a => a.annotationState.NamesRight)
    (fun a step ha => ha.turn (turn_apply a step)) hstart steps

/-- The facility is recording annotations for the apps and categories that the arbiter believes to be
running, in the same order, and none when the arbiter believes that they are off. There are no
repetitions among them, and annotations are on exactly if there is an app or a category. -/
theorem annotations_after (catalog : Catalog) (settings : Settings) (steps : List Step) :
    let a := (fresh catalog settings).after steps
    a.facility.annotations =
        (if a.installed.annotationsOn then some ⟨a.installed.apps, a.installed.categories⟩
          else none) ∧
      a.installed.apps.Nodup ∧ a.installed.categories.Nodup ∧
      (a.installed.annotationsOn ↔ a.installed.apps ≠ [] ∨ a.installed.categories ≠ []) := by
  intro a
  have hfresh : (fresh catalog settings).annotationState.Mirrored := rfl
  have hmirrored : a.annotationState.Mirrored :=
    invariant_after (I := fun a => a.annotationState.Mirrored)
      (fun a step ha => ha.turn (turn_apply a step)) hfresh steps
  obtain ⟨happs, hcategories, hon⟩ := namesRight_after .idle catalog settings steps
  exact ⟨hmirrored, happs, hcategories, hon⟩

/-- Two sessions share an app, a third is refused its own, and then the first session is removed. -/
def sharedApp : List Step :=
  [.setup { apps := ["maps", "music"], categories := ["gfx"] } {}, .setup { apps := ["music"] } {},
    .rig (.failAnnotations "busy"), .setup { apps := ["camera"] } {}, .rig .clearFailures,
    .remove ⟨1⟩]

theorem annotations_after_sharedApp :
    let a := (fresh smallCatalog {}).after sharedApp
    a.installed.annotationsOn = true ∧ a.installed.apps = ["music"] ∧ a.installed.categories = [] ∧
      a.facility.annotations = some ⟨["music"], []⟩ := by
  have hruns : ((fresh smallCatalog {}).after sharedApp).installed.annotationsOn = true ∧
      ((fresh smallCatalog {}).after sharedApp).installed.apps = ["music"] ∧
      ((fresh smallCatalog {}).after sharedApp).installed.categories = [] := by
    decide +kernel
  obtain ⟨hon, happs, hcategories⟩ := hruns
  obtain ⟨hmirrored, -⟩ := annotations_after smallCatalog {} sharedApp
  rw [if_pos hon, happs, hcategories] at hmirrored
  exact ⟨hon, happs, hcategories, hmirrored⟩

end Arbiter

end TraceArbiter
