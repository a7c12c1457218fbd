import TraceArbiter.Proofs.Annotation.Calls
import TraceArbiter.Proofs.Annotation.Mirror
import TraceArbiter.Proofs.Arbiter.Registry

/-!
# When annotations are restarted

Whether the running names change is told by the lengths of lists only. The lists have no repetitions, so
the lengths tell it exactly: as long as annotations can be started, a removal calls for nothing if every
running name is still asked for, stops annotations if none is, and otherwise starts them once with the
names that are. A setup starts them once if it adds a name, and otherwise calls for nothing.
-/

namespace TraceArbiter

/-! ### What a change calls for -/

namespace AnnotationState

/-- Everything that is running is as the predicates say. -/
def AllRunning (s : AnnotationState) (ofApp ofCategory : String → Prop) : Prop :=
  (∀ app ∈ s.apps, ofApp app) ∧ ∀ category ∈ s.categories, ofCategory category

/-- The calls on the way from the first state to the second one are those that it takes to keep only
the wanted names running. -/
structure ShrinksTo (wantedApp wantedCategory : String → Prop) (s : AnnotationState)
    (calls : List AnnotationCall) (s' : AnnotationState) : Prop where
  unchanged : s.AllRunning wantedApp wantedCategory → calls = [] ∧ s' = s
  stopped : s.AllRunning (¬wantedApp ·) (¬wantedCategory ·) → calls = [.stop] ∧ s' = s.stop
  restarted : ¬s.AllRunning wantedApp wantedCategory →
    ¬s.AllRunning (¬wantedApp ·) (¬wantedCategory ·) →
    calls = [.start s'.apps s'.categories] ∧ s' = s.start s'.apps s'.categories
  apps : ∀ app, app ∈ s'.apps ↔ app ∈ s.apps ∧ wantedApp app
  categories : ∀ category, category ∈ s'.categories ↔
    category ∈ s.categories ∧ wantedCategory category

/-- The calls on the way from the first state to the second one are those that it takes to have the
names of the request running as well. -/
structure ExtendsBy (r : Request) (s : AnnotationState) (calls : List AnnotationCall)
    (s' : AnnotationState) : Prop where
  unchanged : r.apps ⊆ s.apps ∧ r.categories ⊆ s.categories → calls = [] ∧ s' = s
  restarted : ¬(r.apps ⊆ s.apps ∧ r.categories ⊆ s.categories) →
    calls = [.start s'.apps s'.categories] ∧ s' = s.start s'.apps s'.categories
  prefix_apps : s.apps <+: s'.apps
  prefix_categories : s.categories <+: s'.categories
  apps : ∀ app, app ∈ s'.apps ↔ app ∈ s.apps ∨ app ∈ r.apps
  categories : ∀ category, category ∈ s'.categories ↔
    category ∈ s.categories ∨ category ∈ r.categories

variable {s : AnnotationState} {wantedApp wantedCategory : String → Prop}

theorem NamesRight.not_allRunning (hs : s.NamesRight) (hon : s.on)
    (hall : s.AllRunning wantedApp wantedCategory) :
    ¬s.AllRunning (¬wantedApp ·) (¬wantedCategory ·) := by
  intro hnone
  obtain hsome | hsome := hs.on_iff.mp hon
  · obtain ⟨app, happ⟩ := List.exists_mem_of_ne_nil _ hsome
    exact hnone.1 app happ (hall.1 app happ)
  · obtain ⟨category, hcategory⟩ := List.exists_mem_of_ne_nil _ hsome
    exact hnone.2 category hcategory (hall.2 category hcategory)

namespace ShrinksTo

theorem of_all (hs : s.NamesRight) (hon : s.on) (hall : s.AllRunning wantedApp wantedCategory) :
    ShrinksTo wantedApp wantedCategory s [] s where
  unchanged _ := ⟨rfl, rfl⟩
  stopped hnone := absurd hnone (hs.not_allRunning hon hall)
  restarted hunwanted _ := absurd hall hunwanted
  apps app := (and_iff_left_of_imp (hall.1 app)).symm
  categories category := (and_iff_left_of_imp (hall.2 category)).symm

theorem of_none (hs : s.NamesRight) (hon : s.on)
    (hnone : s.AllRunning (¬wantedApp ·) (¬wantedCategory ·)) :
    ShrinksTo wantedApp wantedCategory s [.stop] s.stop where
  unchanged hall := absurd hnone (hs.not_allRunning hon hall)
  stopped _ := ⟨rfl, rfl⟩
  restarted _ hwanted := absurd hnone hwanted
  apps app := iff_of_false List.not_mem_nil fun h => hnone.1 app h.1 h.2
  categories category := iff_of_false List.not_mem_nil fun h => hnone.2 category h.1 h.2

theorem of_some {apps categories : List String} (hunwanted : ¬s.AllRunning wantedApp wantedCategory)
    (hwanted : ¬s.AllRunning (¬wantedApp ·) (¬wantedCategory ·))
    (happs : ∀ app, app ∈ apps ↔ app ∈ s.apps ∧ wantedApp app)
    (hcategories : ∀ category, category ∈ categories ↔
      category ∈ s.categories ∧ wantedCategory category) :
    ShrinksTo wantedApp wantedCategory s [.start apps categories] (s.start apps categories) where
  unchanged hall := absurd hall hunwanted
  stopped hnone := absurd hnone hwanted
  restarted _ _ := ⟨rfl, rfl⟩
  apps := happs
  categories := hcategories

end ShrinksTo

namespace ExtendsBy

variable {r : Request}

theorem of_all (hall : r.apps ⊆ s.apps ∧ r.categories ⊆ s.categories) : ExtendsBy r s [] s where
  unchanged _ := ⟨rfl, rfl⟩
  restarted hnew := absurd hall hnew
  prefix_apps := List.prefix_rfl
  prefix_categories := List.prefix_rfl
  apps _ := (or_iff_left_of_imp (hall.1 ·)).symm
  categories _ := (or_iff_left_of_imp (hall.2 ·)).symm

theorem of_new (hnew : ¬(r.apps ⊆ s.apps ∧ r.categories ⊆ s.categories)) :
    ExtendsBy r s
      [.start (Arbiter.mergeNames s.apps r.apps) (Arbiter.mergeNames s.categories r.categories)]
      (s.start (Arbiter.mergeNames s.apps r.apps)
        (Arbiter.mergeNames s.categories r.categories)) where
  unchanged hall := absurd hall hnew
  restarted _ := ⟨rfl, rfl⟩
  prefix_apps := Arbiter.prefix_mergeNames _ _
  prefix_categories := Arbiter.prefix_mergeNames _ _
  apps _ := Arbiter.mem_mergeNames
  categories _ := Arbiter.mem_mergeNames

end ExtendsBy

end AnnotationState

namespace Arbiter

section Parts

variable {σ : Type} {a : Arbiter σ} {r : Request}

/-! ### What lengths tell -/

/-- The running apps that the sessions ask for. -/
def appsLeft (a : Arbiter σ) : List String :=
  (unionOfApps a.configs).filter (· ∈ a.installed.apps)

def categoriesLeft (a : Arbiter σ) : List String :=
  (unionOfCategories a.configs).filter (· ∈ a.installed.categories)

/-- Whether annotations are on and the lengths tell that not all that is running is left. -/
def losesNames (a : Arbiter σ) : Bool :=
  a.installed.annotationsOn && (a.appsLeft.length ≠ a.installed.apps.length ||
    a.categoriesLeft.length ≠ a.installed.categories.length)

/-- Whether annotations are on and the lengths tell that the request adds no name. -/
def runsAll (a : Arbiter σ) (r : Request) : Bool :=
  a.installed.annotationsOn &&
    (mergeNames a.installed.apps r.apps).length = a.installed.apps.length &&
    (mergeNames a.installed.categories r.categories).length = a.installed.categories.length

theorem mem_appsLeft {app : String} :
    app ∈ a.appsLeft ↔ app ∈ a.installed.apps ∧ app ∈ unionOfApps a.configs :=
  mem_filter_mem

theorem mem_categoriesLeft {category : String} :
    category ∈ a.categoriesLeft ↔
      category ∈ a.installed.categories ∧ category ∈ unionOfCategories a.configs :=
  mem_filter_mem

theorem losesNames_eq_false_iff (hon : a.installed.annotationsOn) (happs : a.installed.apps.Nodup)
    (hcategories : a.installed.categories.Nodup) :
    a.losesNames = false ↔ a.installed.apps ⊆ unionOfApps a.configs ∧
      a.installed.categories ⊆ unionOfCategories a.configs := by
  rw [← length_filter_eq_iff happs (nodup_unionOfApps a.configs),
    ← length_filter_eq_iff hcategories (nodup_unionOfCategories a.configs)]
  simp only [losesNames, hon, Bool.true_and, Bool.or_eq_false_iff, ne_eq, decide_eq_false_iff_not,
    not_not]
  rfl

theorem runsAll_iff (hon : a.installed.annotationsOn) :
    a.runsAll r ↔ r.apps ⊆ a.installed.apps ∧ r.categories ⊆ a.installed.categories := by
  rw [← length_mergeNames_eq_iff, ← @length_mergeNames_eq_iff a.installed.categories]
  simp only [runsAll, hon, Bool.true_and, Bool.and_eq_true, decide_eq_true_eq]

/-! ### The calls of shrinking -/

variable [Facility σ]

def restartWithLeft (a : Arbiter σ) : ArbiterM σ Unit := do
  match ← access (Facility.startAnnotations a.appsLeft a.categoriesLeft) with
  | .ok () => modify (note ({ · with apps := a.appsLeft, categories := a.categoriesLeft }))
  | .error _ => pure ()

theorem shrinkAnnotations_eq :
    (shrinkAnnotations : ArbiterM σ Unit) = (do
      let a ← get
      if a.losesNames then
        if a.appsLeft.isEmpty && a.categoriesLeft.isEmpty then stopAnnotations
        else a.restartWithLeft) := rfl

theorem MakesCalls.restartWithLeft (a b : Arbiter σ) :
    MakesCalls (a.overheard []).restartWithLeft a.restartWithLeft b
      [.start a.appsLeft a.categoriesLeft] := by
  refine .bind_silent (fun _ => rfl) ?_
  rintro (e | ⟨⟩)
  · exact .pure _
  · exact .note fun _ => rfl

theorem MakesCalls.stopAnnotations (a : Arbiter σ) :
    MakesCalls stopAnnotations stopAnnotations a [.stop] :=
  .bind_silent (fun _ => rfl) fun _ => .note fun _ => rfl

theorem MakesCalls.shrinkAnnotations (a : Arbiter σ) :
    MakesCalls shrinkAnnotations shrinkAnnotations a
      (if a.losesNames then
        if a.appsLeft.isEmpty && a.categoriesLeft.isEmpty then [.stop]
        else [.start a.appsLeft a.categoriesLeft]
      else []) := by
  rw [shrinkAnnotations_eq, shrinkAnnotations_eq]
  refine .get_bind (fun _ => rfl) (.ite (.ite (.stopAnnotations a) ?_) (.pure () a))
  exact .restartWithLeft a a

/-! ### The calls of joining -/

def restartWithMore (a : Arbiter σ) (r : Request) : ArbiterM σ (List String) := do
  let categories := mergeNames a.installed.categories r.categories
  let apps := mergeNames a.installed.apps r.apps
  match ← access (Facility.startAnnotations apps categories) with
  | .ok () =>
    modify (note ({ · with annotationsOn := true, apps, categories }))
    pure []
  | .error e => pure [e.message]

theorem extendAnnotations_eq (r : Request) :
    (extendAnnotations r : ArbiterM σ _) = (do
      let a ← get
      if a.runsAll r then pure [] else a.restartWithMore r) := rfl

/-- While annotations are on, it does not matter who else holds them, nor whether the request wants
any. -/
theorem joinAnnotations_run (hon : a.installed.annotationsOn) (r : Request) :
    (joinAnnotations r).run a = (extendAnnotations r).run a := by
  unfold joinAnnotations
  rw [state_get_bind, hon]
  cases hwants : r.wantsAnnotations with
  | true => rfl
  | false =>
    obtain ⟨happs, hcategories⟩ := Request.wantsAnnotations_eq_false_iff.mp hwants
    have hall : a.runsAll r := by
      rw [runsAll_iff hon, happs, hcategories]
      exact ⟨List.nil_subset _, List.nil_subset _⟩
    rw [extendAnnotations_eq, state_get_bind, if_pos hall]
    rfl

theorem MakesCalls.restartWithMore (a b : Arbiter σ) (r : Request) :
    MakesCalls ((a.overheard []).restartWithMore r) (a.restartWithMore r) b
      [.start (mergeNames a.installed.apps r.apps)
        (mergeNames a.installed.categories r.categories)] := by
  refine .bind_silent (fun _ => rfl) ?_
  rintro (e | ⟨⟩)
  · exact .pure _
  · exact .bind (.note fun _ => rfl) fun _ => .pure _

theorem MakesCalls.extendAnnotations (a : Arbiter σ) (r : Request) :
    MakesCalls (extendAnnotations r) (extendAnnotations r) a
      (if a.runsAll r then []
      else [.start (mergeNames a.installed.apps r.apps)
        (mergeNames a.installed.categories r.categories)]) := by
  rw [extendAnnotations_eq, extendAnnotations_eq]
  exact .get_bind (fun _ => rfl) (.ite (.pure [] a) (.restartWithMore a a r))

theorem MakesCalls.joinAnnotations (hon : a.installed.annotationsOn) (r : Request) :
    MakesCalls (joinAnnotations r) (joinAnnotations r) a
      (if a.runsAll r then []
      else [.start (mergeNames a.installed.apps r.apps)
        (mergeNames a.installed.categories r.categories)]) := by
  intro calls
  have hon' : (a.overheard calls).installed.annotationsOn := hon
  rw [joinAnnotations_run hon, joinAnnotations_run hon']
  exact MakesCalls.extendAnnotations a r calls

end Parts

/-! ### Whole operations -/

open AnnotationState

variable {a : Arbiter Simulation} {id : SessionId} {r : Request}

/-- A session other than the given one asks for the name. -/
def AskedForBesides (a : Arbiter Simulation) (id : SessionId) (names : SessionConfig → List String)
    (name : String) : Prop :=
  ∃ id' ≠ id, ∃ config, a.session? id' = some config ∧ name ∈ names config

theorem exists_mem_configs_without (names : SessionConfig → List String) (name : String) :
    (∃ config ∈ (a.without id).configs, name ∈ names config) ↔ a.AskedForBesides id names name := by
  have hsession (id' : SessionId) :
      (a.without id).session? id' = if id = id' then none else a.session? id' :=
    session?_of_erase rfl
  constructor
  · rintro ⟨config, hmem, hname⟩
    obtain ⟨id', hconfig⟩ := mem_configs.mp hmem
    rw [hsession] at hconfig
    split at hconfig
    · cases hconfig
    · next hne => exact ⟨id', Ne.symm hne, config, hconfig, hname⟩
  · rintro ⟨id', hne, config, hconfig, hname⟩
    refine ⟨config, mem_configs.mpr ⟨id', ?_⟩, hname⟩
    rw [hsession, if_neg hne.symm]
    exact hconfig

theorem annotationState_restartWithLeft (hfailure : a.facility.annotationFailure = none) :
    (a.restartWithLeft.run a).2.annotationState =
      a.annotationState.start a.appsLeft a.categoriesLeft := by
  unfold restartWithLeft
  rw [state_bind, access_run, Simulation.startAnnotations_run, hfailure]
  rfl

theorem annotationState_restartWithMore (hon : a.installed.annotationsOn)
    (hfailure : a.facility.annotationFailure = none) (r : Request) :
    ((a.restartWithMore r).run a).2.annotationState =
      a.annotationState.start (mergeNames a.installed.apps r.apps)
        (mergeNames a.installed.categories r.categories) := by
  unfold restartWithMore
  rw [state_bind, access_run, Simulation.startAnnotations_run, hfailure]
  unfold AnnotationState.start annotationState
  rw [hon]
  rfl

theorem nothingLeft_iff : (a.appsLeft.isEmpty && a.categoriesLeft.isEmpty) = true ↔
    a.annotationState.AllRunning (· ∉ unionOfApps a.configs) (· ∉ unionOfCategories a.configs) := by
  simp only [Bool.and_eq_true, List.isEmpty_iff, List.eq_nil_iff_forall_not_mem, mem_appsLeft,
    mem_categoriesLeft, not_and]
  rfl

/-- Where annotations can be started, shrinking makes just the call that it takes. -/
theorem shrinksTo_shrinkAnnotations (ha : a.annotationState.NamesRight)
    (hon : a.installed.annotationsOn) (hfailure : a.facility.annotationFailure = none) :
    ShrinksTo (· ∈ unionOfApps a.configs) (· ∈ unionOfCategories a.configs) a.annotationState
      (annotationCalls shrinkAnnotations a) (shrinkAnnotations.run a).2.annotationState := by
  have hall : a.losesNames = false ↔
      a.annotationState.AllRunning (· ∈ unionOfApps a.configs) (· ∈ unionOfCategories a.configs) :=
    losesNames_eq_false_iff hon ha.apps ha.categories
  rw [(MakesCalls.shrinkAnnotations a).annotationCalls_eq, shrinkAnnotations_eq, state_get_bind]
  cases hloses : a.losesNames with
  | false => exact .of_all ha hon (hall.mp hloses)
  | true =>
    have hunwanted := hall.not.mp (ne_false_of_eq_true hloses)
    rw [if_pos rfl, if_pos rfl]
    by_cases hnone : (a.appsLeft.isEmpty && a.categoriesLeft.isEmpty) = true
    · rw [if_pos hnone, if_pos hnone]
      exact .of_none ha hon (nothingLeft_iff.mp hnone)
    · rw [if_neg hnone, if_neg hnone, annotationState_restartWithLeft hfailure]
      exact .of_some hunwanted (nothingLeft_iff.not.mp hnone) (fun _ => mem_appsLeft) fun _ =>
        mem_categoriesLeft

/-- Where annotations are on and can be started, joining makes just the call that it takes. -/
theorem extendsBy_joinAnnotations (hon : a.installed.annotationsOn)
    (hfailure : a.facility.annotationFailure = none) (r : Request) :
    ExtendsBy r a.annotationState (annotationCalls (joinAnnotations r) a)
      ((joinAnnotations r).run a).2.annotationState := by
  rw [(MakesCalls.joinAnnotations hon r).annotationCalls_eq, joinAnnotations_run hon,
    extendAnnotations_eq, state_get_bind]
  by_cases hall : a.runsAll r
  · rw [if_pos hall, if_pos hall]
    exact .of_all ((runsAll_iff hon).mp hall)
  · rw [if_neg hall, if_neg hall, annotationState_restartWithMore hon hfailure]
    exact .of_new ((runsAll_iff hon).not.mp hall)

theorem shrinksTo_remove (ha : a.annotationState.NamesRight) (hon : a.installed.annotationsOn)
    (hfailure : a.facility.annotationFailure = none) (hregistered : a.isRegistered id) :
    ShrinksTo (a.AskedForBesides id SessionConfig.apps)
      (a.AskedForBesides id SessionConfig.categories) a.annotationState
      (annotationCalls (remove id) a) ((remove id).run a).2.annotationState := by
  have hshrink : ShrinksTo (· ∈ unionOfApps (a.without id).configs)
      (· ∈ unionOfCategories (a.without id).configs) a.annotationState
      (annotationCalls shrinkAnnotations (a.without id))
      (shrinkAnnotations.run (a.without id)).2.annotationState :=
    shrinksTo_shrinkAnnotations ha hon hfailure
  have hcalls := MakesCalls.shrinkAnnotations (a.without id)
  rw [annotationState_remove_eq hregistered, (MakesCalls.remove hregistered hcalls).annotationCalls_eq,
    ← hcalls.annotationCalls_eq]
  simp only [mem_unionOfApps, mem_unionOfCategories, exists_mem_configs_without] at hshrink
  exact hshrink

theorem extendsBy_setup (hon : a.installed.annotationsOn)
    (hfailure : a.facility.annotationFailure = none) {report : SetupReport}
    (hworks : ((setup r report).run a).1.1 ≠ .invalid) :
    ExtendsBy r a.annotationState (annotationCalls (setup r report) a)
      ((setup r report).run a).2.annotationState := by
  match hrun : (setup r report).run a with
  | ((id, report'), a') =>
    rw [hrun] at hworks
    obtain ⟨a₁, -, hessentials, rfl, -⟩ := setup_reported hrun hworks
    have hsame : ((beforeJoining r (r.plan a.catalog).events).run a₁).2.annotationState =
        a.annotationState :=
      (annotationState_beforeJoining r _ a₁).trans (annotationState_essentials hessentials)
    have hon' := (congrArg AnnotationState.on hsame).trans hon
    have hfailure' := (congrArg AnnotationState.failure hsame).trans hfailure
    have hjoin := extendsBy_joinAnnotations hon' hfailure' r
    have hcalls := MakesCalls.joinAnnotations hon' r
    have hsetup : MakesCalls (setup r report) (setup r report) a _ :=
      .setup (preflight_of_setup hrun hworks) hessentials hcalls
    rw [hsetup.annotationCalls_eq, ← hcalls.annotationCalls_eq, ← hsame]
    exact hjoin

/-- As long as annotations are on and nothing is made to stop them from being started, they are
restarted exactly when what is running changes. A removal calls for nothing if the sessions that are
left ask for every running name, stops annotations if they ask for none of them, and otherwise starts
annotations once, so that what is running is what was running and is asked for. A setup that works
starts annotations once if it names an app or a category that is not running, and calls for nothing
otherwise; what was running keeps its place in front of what is added. -/
theorem restarts_iff_changed (s : Simulation) (catalog : Catalog) (settings : Settings)
    (steps : List Step) :
    let a := (freshOver s catalog settings).after steps
    a.installed.annotationsOn → a.facility.annotationFailure = none →
      (∀ id, a.isRegistered id →
        ShrinksTo (a.AskedForBesides id SessionConfig.apps)
          (a.AskedForBesides id SessionConfig.categories) a.annotationState
          (annotationCalls (remove id) a) ((remove id).run a).2.annotationState) ∧
      ∀ r report, ((setup r report).run a).1.1 ≠ .invalid →
        ExtendsBy r a.annotationState (annotationCalls (setup r report) a)
          ((setup r report).run a).2.annotationState := by
  intro a hon hfailure
  have ha : a.annotationState.NamesRight := namesRight_after s catalog settings steps
  exact ⟨fun id hregistered => shrinksTo_remove ha hon hfailure hregistered,
    fun r report hworks => extendsBy_setup hon hfailure hworks⟩

/-- Two sessions share an app, which the first one names twice. -/
def overlappingApps : List Step :=
  [.setup { apps := ["map", "mail", "map"] } {},
    .setup { apps := ["mail", "chat"], categories := ["gfx"] } {}]

def askForNews : Request where
  apps := ["mail", "news"]

theorem restarts_iff_changed_overlappingApps :
    let a := (freshOver .idle smallCatalog {}).after overlappingApps
    a.installed.annotationsOn ∧ a.facility.annotationFailure = none ∧ a.isRegistered ⟨1⟩ ∧
      annotationCalls (remove ⟨1⟩) a = [.start ["mail", "chat"] ["gfx"]] ∧
      ShrinksTo (a.AskedForBesides ⟨1⟩ SessionConfig.apps)
        (a.AskedForBesides ⟨1⟩ SessionConfig.categories) a.annotationState
        (annotationCalls (remove ⟨1⟩) a) ((remove ⟨1⟩).run a).2.annotationState ∧
      ((setup askForNews {}).run a).1.1 = ⟨3⟩ ∧
      annotationCalls (setup askForNews {}) a = [.start ["map", "mail", "chat", "news"] ["gfx"]] ∧
      ExtendsBy askForNews a.annotationState (annotationCalls (setup askForNews {}) a)
        ((setup askForNews {}).run a).2.annotationState := by
  have hruns :
      ((freshOver .idle smallCatalog {}).after overlappingApps).installed.annotationsOn ∧
      ((freshOver .idle smallCatalog {}).after overlappingApps).facility.annotationFailure = none ∧
      ((freshOver .idle smallCatalog {}).after overlappingApps).isRegistered ⟨1⟩ ∧
      annotationCalls (remove ⟨1⟩) ((freshOver .idle smallCatalog {}).after overlappingApps) =
        [.start ["mail", "chat"] ["gfx"]] ∧
      ((setup askForNews {}).run ((freshOver .idle smallCatalog {}).after overlappingApps)).1.1 = ⟨3⟩ ∧
      annotationCalls (setup askForNews {}) ((freshOver .idle smallCatalog {}).after overlappingApps) =
        [.start ["map", "mail", "chat", "news"] ["gfx"]] := by
    decide +kernel
  obtain ⟨hon, hfailure, hregistered, hremove, hid, hsetup⟩ := hruns
  obtain ⟨hshrinks, hextends⟩ := restarts_iff_changed .idle smallCatalog {} overlappingApps hon hfailure
  exact ⟨hon, hfailure, hregistered, hremove, hshrinks ⟨1⟩ hregistered, hid, hsetup,
    hextends askForNews {} (by rw [hid]; decide)⟩

end Arbiter

end TraceArbiter
