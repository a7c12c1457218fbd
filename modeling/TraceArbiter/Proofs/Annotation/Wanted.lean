import Mathlib.Data.List.Induction
import TraceArbiter.Proofs.Annotation.Mirror

/-!
# Annotations and the sessions that want them

What is running lies between two bounds that the sessions set. A session whose annotations were not
refused has all of them running for as long as it is there, because joining only adds names and
shrinking drops none that a session left wants. And whatever is running is wanted by a session that is
there, unless a removal failed to start what was left. Between the bounds the running lists depend on
what was refused along the way, so they are no function of the sessions.
-/

namespace TraceArbiter

open Std

namespace AnnotationState

variable {s s' : AnnotationState} {r : Request} {errors : List String}
  {configs configs' : List SessionConfig}

/-! ### What has been given stays -/

/-- The request has everything that it asked for. -/
structure Serves (s : AnnotationState) (r : Request) : Prop where
  apps : r.apps ⊆ s.apps
  categories : r.categories ⊆ s.categories

theorem serves_of_join (h : JoinCase r s [] s') : s'.Serves r := by
  cases h with
  | unwanted happs hcategories =>
    exact ⟨happs ▸ List.nil_subset _, hcategories ▸ List.nil_subset _⟩
  | covered _ happs hcategories => exact ⟨happs, hcategories⟩
  | started =>
    exact ⟨Arbiter.subset_mergeNames_right _ _, Arbiter.subset_mergeNames_right _ _⟩

theorem Serves.join {r' : Request} (hs : s.Serves r') (h : JoinCase r s errors s') :
    s'.Serves r' := by
  cases h with
  | started =>
    exact ⟨List.Subset.trans hs.apps (Arbiter.subset_mergeNames_left _ _),
      List.Subset.trans hs.categories (Arbiter.subset_mergeNames_left _ _)⟩
  | unwanted | held | covered | refused => exact hs

theorem Serves.shrink (hs : s.Serves r) (h : ShrinkCase configs s s')
    (hasks : ∃ c ∈ configs, c.apps = r.apps ∧ c.categories = r.categories) : s'.Serves r := by
  obtain ⟨c, hc, happs, hcategories⟩ := hasks
  have hkeptApps : r.apps ⊆ s.keptApps configs :=
    Arbiter.subset_filter_mem (happs ▸ Arbiter.subset_unionOfApps hc) hs.apps
  have hkeptCategories : r.categories ⊆ s.keptCategories configs :=
    Arbiter.subset_filter_mem (hcategories ▸ Arbiter.subset_unionOfCategories hc) hs.categories
  cases h with
  | stopped hnoApps hnoCategories =>
    rw [hnoApps] at hkeptApps
    rw [hnoCategories] at hkeptCategories
    exact ⟨hkeptApps, hkeptCategories⟩
  | restarted => exact ⟨hkeptApps, hkeptCategories⟩
  | off | wanted | refused => exact hs

/-! ### What is running is wanted -/

/-- Everything that is running is asked for by one of the sessions. -/
structure Wanted (s : AnnotationState) (configs : List SessionConfig) : Prop where
  apps : s.apps ⊆ Arbiter.unionOfApps configs
  categories : s.categories ⊆ Arbiter.unionOfCategories configs

theorem Wanted.mono (hs : s.Wanted configs) (h : configs ⊆ configs') : s.Wanted configs' :=
  ⟨List.Subset.trans hs.apps (Arbiter.unionOfApps_mono h),
    List.Subset.trans hs.categories (Arbiter.unionOfCategories_mono h)⟩

theorem Wanted.join (hs : s.Wanted configs) (h : JoinCase r s errors s')
    (hasks : ∃ c ∈ configs, c.apps = r.apps ∧ c.categories = r.categories) : s'.Wanted configs := by
  cases h with
  | started =>
    obtain ⟨c, hc, happs, hcategories⟩ := hasks
    exact ⟨Arbiter.mergeNames_subset hs.apps (happs ▸ Arbiter.subset_unionOfApps hc),
      Arbiter.mergeNames_subset hs.categories (hcategories ▸ Arbiter.subset_unionOfCategories hc)⟩
  | unwanted | held | covered | refused => exact hs

theorem wanted_of_length (happs : (s.keptApps configs).length = s.apps.length)
    (hcategories : (s.keptCategories configs).length = s.categories.length) : s.Wanted configs :=
  ⟨Arbiter.subset_of_length_filter (Arbiter.nodup_unionOfApps configs) happs,
    Arbiter.subset_of_length_filter (Arbiter.nodup_unionOfCategories configs) hcategories⟩

theorem wanted_of_off (hs : s.NamesRight) (hoff : s.on = false) : s.Wanted configs := by
  have hnone : s.apps = [] ∧ s.categories = [] := by
    have hon := hs.on_iff.not.mp (Bool.not_eq_true _ ▸ hoff)
    rwa [not_or, not_not, not_not] at hon
  constructor
  · rw [hnone.1]
    exact List.nil_subset _
  · rw [hnone.2]
    exact List.nil_subset _

/-- Shrinking leaves only what is wanted, if nothing unwanted is left when it is refused. -/
theorem wanted_of_shrink (hs : s.NamesRight) (h : ShrinkCase configs s s')
    (hrefused : s.failure.isSome → s.keptApps configs ≠ [] ∨ s.keptCategories configs ≠ [] →
      s.Wanted configs) : s'.Wanted configs := by
  cases h with
  | off hoff => exact wanted_of_off hs hoff
  | wanted happs hcategories => exact wanted_of_length happs hcategories
  | stopped => exact ⟨List.nil_subset _, List.nil_subset _⟩
  | restarted =>
    exact ⟨fun _ happ => (List.mem_filter.mp happ).1,
      fun _ hcategory => (List.mem_filter.mp hcategory).1⟩
  | refused hleft reason hreason => exact hrefused (Option.isSome_iff_exists.mpr ⟨_, hreason⟩) hleft

/-- If shrinking would start nothing though something is left, there is nothing unwanted. -/
theorem wanted_of_unstarted (hs : s.NamesRight)
    (hleft : s.keptApps configs ≠ [] ∨ s.keptCategories configs ≠ [])
    (h : ShrinkCase configs { s with failure := none } s') (hstarts : s'.starts = s.starts) :
    s.Wanted configs := by
  cases h with
  | off hoff => exact wanted_of_off hs hoff
  | wanted happs hcategories => exact wanted_of_length happs hcategories
  | stopped happs hcategories =>
    obtain hsome | hsome := hleft
    · exact absurd happs hsome
    · exact absurd hcategories hsome
  | restarted => exact absurd hstarts (Nat.succ_ne_self s.starts)
  | refused _ _ hreason => cases hreason

end AnnotationState

namespace Arbiter

open AnnotationState

variable {a start : Arbiter Simulation} {id : SessionId} {r : Request} {errors : List String}
  {step : Step} {steps : List Step}

/-! ### Where sessions come from -/

/-- A session of the run was there already or has just been set up, with what its request asked
for. -/
theorem session?_of_apply {config : SessionConfig}
    (hconfig : (step.apply a).session? id = some config) :
    a.session? id = some config ∨ ∃ r report errors, step = .setup r report ∧
      ((setup r report).run a).1.1 = id ∧ id.isValid ∧
      ((setup r report).run a).1.2.annotationErrors = report.annotationErrors ++ errors ∧
      config.apps = r.apps ∧ config.categories = r.categories := by
  have hsame {a' : Arbiter Simulation} (hsessions : a'.sessions = a.sessions)
      (h : a'.session? id = some config) : a.session? id = some config := by
    unfold session? at h ⊢
    rw [← hsessions]
    exact h
  cases step with
  | setup r report =>
    change ((setup r report).run a).2.session? id = some config at hconfig
    match hrun : (setup r report).run a with
    | ((id', report'), a') =>
      rw [hrun] at hconfig
      obtain ⟨-, -, hsessions⟩ | ⟨hid, errors, herrors, -, config', happs, hcategories, hsessions⟩ :=
        annotationState_setup hrun
      · exact .inl (hsame hsessions hconfig)
      unfold session? at hconfig
      rw [hsessions, ExtTreeMap.getElem?_insert] at hconfig
      split at hconfig
      · next heq =>
        obtain rfl := LawfulEqOrd.eq_of_compare heq
        cases hconfig
        have hvalid : id'.isValid := SessionId.isValid_iff.mpr (SessionId.next?_ne_invalid hid)
        exact .inr ⟨r, report, errors, rfl, by rw [hrun], hvalid, by rw [hrun]; exact herrors, happs,
          hcategories⟩
      · exact .inl hconfig
  | activate id' => exact .inl (hsame (frame_activate id' a).sessions hconfig)
  | remove id' =>
    change ((remove id').run a).2.session? id = some config at hconfig
    unfold session? at hconfig
    rw [sessions_remove] at hconfig
    split at hconfig
    · exact .inl (session?_of_without hconfig)
    · exact .inl hconfig
  | resetTracer => exact .inl (hsame (framed_resetTracer a).sessions hconfig)
  | rig rigging => exact .inl hconfig
  | poke path value => exact .inl hconfig

/-- The session was set up in the run, by this request and with these problems about annotations, and
is still registered at the end of the run. -/
def SetUpIn (start : Arbiter Simulation) (steps : List Step) (id : SessionId) (r : Request)
    (errors : List String) : Prop :=
  ∃ before report rest, steps = before ++ .setup r report :: rest ∧
    ((setup r report).run (start.after before)).1.1 = id ∧
    ((setup r report).run (start.after before)).1.2.annotationErrors =
      report.annotationErrors ++ errors ∧
    (start.after steps).isRegistered id

theorem SetUpIn.isRegistered (h : SetUpIn start steps id r errors) :
    (start.after steps).isRegistered id := by
  obtain ⟨-, -, -, -, -, -, hregistered⟩ := h
  exact hregistered

theorem SetUpIn.snoc (h : SetUpIn start steps id r errors)
    (hregistered : (start.after (steps ++ [step])).isRegistered id) :
    SetUpIn start (steps ++ [step]) id r errors := by
  obtain ⟨before, report, rest, rfl, hid, herrors, -⟩ := h
  exact ⟨before, report, rest ++ [step], by simp, hid, herrors, hregistered⟩

theorem setUpIn_of_session? (hnobody : start.sessions = ∅) {config : SessionConfig}
    (hconfig : (start.after steps).session? id = some config) :
    ∃ r errors, SetUpIn start steps id r errors ∧ config.apps = r.apps ∧
      config.categories = r.categories := by
  -- The run is taken from its end: its last step tells whether the session is a new one.
  induction steps using List.reverseRecOn generalizing config with
  | nil =>
    change start.sessions[id]? = some config at hconfig
    simp [hnobody] at hconfig
  | append_singleton steps step ih =>
    have hsome : ((start.after (steps ++ [step])).session? id).isSome :=
      Option.isSome_iff_exists.mpr ⟨config, hconfig⟩
    rw [after_snoc] at hconfig
    obtain hbefore | ⟨r, report, errors, rfl, hid, hvalid, herrors, happs, hcategories⟩ :=
      session?_of_apply hconfig
    · obtain ⟨r, errors, hsetup, hasked⟩ := ih hbefore
      have hvalid := (isRegistered_iff_isValid.mp hsetup.isRegistered).1
      exact ⟨r, errors, hsetup.snoc (isRegistered_iff_isValid.mpr ⟨hvalid, hsome⟩), hasked⟩
    · exact ⟨r, errors, ⟨steps, report, [], rfl, hid, herrors,
        isRegistered_iff_isValid.mpr ⟨hvalid, hsome⟩⟩, happs, hcategories⟩

/-! ### The session that was given its annotations -/

/-- The id has been given to a session of the request, and as long as the session is there it has
everything that it asked for. -/
structure ServedAs (id : SessionId) (r : Request) (a : Arbiter Simulation) : Prop where
  allotted : id.raw.toNat ≤ a.lastId.raw.toNat
  serves : ∀ config, a.session? id = some config →
    config.apps = r.apps ∧ config.categories = r.categories ∧ a.annotationState.Serves r

theorem servedAs_setup {report : SetupReport} (hvalid : id.isValid)
    (hid : ((setup r report).run a).1.1 = id)
    (herrors : ((setup r report).run a).1.2.annotationErrors = report.annotationErrors) :
    ServedAs id r ((setup r report).run a).2 := by
  match hrun : (setup r report).run a with
  | ((id', report'), a') =>
    rw [hrun] at hid herrors
    obtain rfl : id' = id := hid
    obtain ⟨hinvalid, -⟩ | ⟨hnext, errors, hadded, hjoin, config, happs, hcategories, hsessions⟩ :=
      annotationState_setup hrun
    · exact absurd hinvalid (SessionId.isValid_iff.mp hvalid)
    obtain rfl : errors = [] := List.self_eq_append_right.mp (herrors.symm.trans hadded)
    constructor
    · exact Nat.le_of_eq (congrArg (·.raw.toNat)
        (lastId_setup hrun (SessionId.isValid_iff.mp hvalid))).symm
    · intro config' hconfig
      unfold session? at hconfig
      rw [hsessions, ExtTreeMap.getElem?_insert_self] at hconfig
      cases hconfig
      exact ⟨happs, hcategories, serves_of_join hjoin⟩

namespace ServedAs

theorem setup (h : ServedAs id r a) (r' : Request) (report : SetupReport) :
    ServedAs id r ((setup r' report).run a).2 := by
  have hlast := lastId_le_apply a (.setup r' report)
  change _ ≤ ((Arbiter.setup r' report).run a).2.lastId.raw.toNat at hlast
  refine ⟨Nat.le_trans h.allotted hlast, fun config hconfig => ?_⟩
  match hrun : (Arbiter.setup r' report).run a with
  | ((id', report'), a') =>
    rw [hrun] at hconfig
    unfold session? at hconfig
    obtain ⟨-, hsame, hsessions⟩ | ⟨hnext, errors, -, hjoin, config', -, -, hsessions⟩ :=
      annotationState_setup hrun
    · rw [hsessions] at hconfig
      rw [hsame]
      exact h.serves config hconfig
    · -- No id is given out twice, so it is another session that has been set up.
      have hnew : id' ≠ id := by
        rintro rfl
        have hallotted := h.allotted
        rw [SessionId.toNat_next? hnext] at hallotted
        omega
      rw [hsessions, ExtTreeMap.getElem?_insert, if_neg fun heq =>
        hnew (LawfulEqOrd.eq_of_compare heq)] at hconfig
      obtain ⟨happs, hcategories, hserves⟩ := h.serves config hconfig
      exact ⟨happs, hcategories, hserves.join hjoin⟩

theorem remove (h : ServedAs id r a) (id' : SessionId) : ServedAs id r ((remove id').run a).2 := by
  have hlast := lastId_le_apply a (.remove id')
  change _ ≤ ((Arbiter.remove id').run a).2.lastId.raw.toNat at hlast
  refine ⟨Nat.le_trans h.allotted hlast, fun config hconfig => ?_⟩
  by_cases hregistered : a.isRegistered id'
  · unfold session? at hconfig
    rw [sessions_remove, if_pos hregistered] at hconfig
    obtain ⟨happs, hcategories, hserves⟩ := h.serves config (session?_of_without hconfig)
    have hleft : config ∈ (a.without id').configs := mem_configs.mpr ⟨id, hconfig⟩
    exact ⟨happs, hcategories,
      hserves.shrink (annotationState_remove hregistered) ⟨config, hleft, happs, hcategories⟩⟩
  · rw [remove_run, if_neg hregistered] at hconfig ⊢
    exact h.serves config hconfig

theorem of_same {a' : Arbiter Simulation} (h : ServedAs id r a)
    (hlast : a.lastId.raw.toNat ≤ a'.lastId.raw.toNat) (hsessions : a'.sessions = a.sessions)
    (hsame : a'.annotationState = a.annotationState) : ServedAs id r a' := by
  refine ⟨Nat.le_trans h.allotted hlast, fun config hconfig => ?_⟩
  unfold session? at hconfig
  rw [hsessions] at hconfig
  rw [hsame]
  exact h.serves config hconfig

theorem apply (h : ServedAs id r a) (step : Step) : ServedAs id r (step.apply a) := by
  cases step with
  | setup r' report => exact h.setup r' report
  | activate id' =>
    exact h.of_same (lastId_le_apply a (.activate id')) (frame_activate id' a).sessions
      (annotationState_activate id' a)
  | remove id' => exact h.remove id'
  | resetTracer =>
    exact h.of_same (lastId_le_apply a .resetTracer) (framed_resetTracer a).sessions
      (annotationState_resetTracer a)
  | rig rigging =>
    refine ⟨h.allotted, fun config hconfig => ?_⟩
    obtain ⟨happs, hcategories, hserves⟩ := h.serves config hconfig
    exact ⟨happs, hcategories, hserves.apps, hserves.categories⟩
  | poke path value => exact ⟨h.allotted, h.serves⟩

end ServedAs

theorem serves_of_setUpIn (h : SetUpIn start steps id r []) :
    (start.after steps).annotationState.Serves r := by
  obtain ⟨before, report, rest, rfl, hid, herrors, hregistered⟩ := h
  obtain ⟨hvalid, hsome⟩ := isRegistered_iff_isValid.mp hregistered
  obtain ⟨config, hconfig⟩ := Option.isSome_iff_exists.mp hsome
  rw [List.append_nil] at herrors
  have hrest : ServedAs id r ((((setup r report).run (start.after before)).2).after rest) :=
    invariant_after (fun _ step ha => ha.apply step) (servedAs_setup hvalid hid herrors) rest
  rw [after_append] at hconfig ⊢
  exact (hrest.serves config hconfig).2.2

/-! ### Removals that are refused a start -/

/-- The arbiter with a facility that can start annotations. -/
def startable (a : Arbiter Simulation) : Arbiter Simulation :=
  { a with facility := { a.facility with annotationFailure := none } }

/-- A removal that cannot start annotations would not start any if it could. -/
def RestartsTaken (a : Arbiter Simulation) (step : Step) : Prop :=
  step.isRemoval → a.facility.annotationFailure.isSome →
    (step.apply a.startable).facility.annotationStarts = a.facility.annotationStarts

instance (a : Arbiter Simulation) (step : Step) : Decidable (RestartsTaken a step) :=
  inferInstanceAs (Decidable (_ → _ → _))

theorem wanted_remove (ha : a.annotationState.NamesRight) (hregistered : a.isRegistered id)
    (htaken : RestartsTaken a (.remove id)) :
    ((remove id).run a).2.annotationState.Wanted (a.without id).configs := by
  refine wanted_of_shrink ha (annotationState_remove hregistered) fun hfailure hleft => ?_
  -- What the removal would do if annotations could be started, which is nothing.
  have hstartable := annotationState_remove (show a.startable.isRegistered id from hregistered)
  exact wanted_of_unstarted ha hleft hstartable (htaken rfl hfailure)

theorem wanted_setup (ha : a.annotationState.Wanted a.configs) (hids : a.IdsAllotted) (r : Request)
    (report : SetupReport) :
    ((setup r report).run a).2.annotationState.Wanted ((setup r report).run a).2.configs := by
  match hrun : (setup r report).run a with
  | ((id, report'), a') =>
    dsimp only
    obtain ⟨-, hsame, hsessions⟩ | ⟨hid, errors, -, hjoin, config, happs, hcategories, hsessions⟩ :=
      annotationState_setup hrun
    · unfold configs
      rw [hsame, hsessions]
      exact ha
    · have hperm : a'.configs.Perm (config :: a.configs) := by
        unfold configs
        rw [hsessions]
        exact configs_insert (hids.session?_next hid)
      have hgrown : a.annotationState.Wanted a'.configs :=
        ha.mono fun c hc => hperm.mem_iff.mpr (.tail _ hc)
      exact hgrown.join hjoin ⟨config, hperm.mem_iff.mpr (.head _), happs, hcategories⟩

theorem wanted_apply (ha : a.annotationState.Wanted a.configs)
    (hnames : a.annotationState.NamesRight) (hids : a.IdsAllotted) (htaken : RestartsTaken a step) :
    (step.apply a).annotationState.Wanted (step.apply a).configs := by
  cases step with
  | setup r report => exact wanted_setup ha hids r report
  | activate id =>
    change ((activate id).run a).2.annotationState.Wanted ((activate id).run a).2.configs
    rw [annotationState_activate, (frame_activate id a).configs]
    exact ha
  | remove id =>
    change ((remove id).run a).2.annotationState.Wanted ((remove id).run a).2.configs
    by_cases hregistered : a.isRegistered id
    · rw [configs_remove hregistered]
      exact wanted_remove hnames hregistered htaken
    · rw [remove_run, if_neg hregistered]
      exact ha
  | resetTracer =>
    change (resetTracer.run a).2.annotationState.Wanted (resetTracer.run a).2.configs
    rw [annotationState_resetTracer, (framed_resetTracer a).configs]
    exact ha
  | rig rigging => exact ⟨ha.apps, ha.categories⟩
  | poke path value => exact ha

structure OnlyWanted (a : Arbiter Simulation) : Prop where
  names : a.annotationState.NamesRight
  ids : a.IdsAllotted
  wanted : a.annotationState.Wanted a.configs

theorem OnlyWanted.apply (ha : a.OnlyWanted) (htaken : RestartsTaken a step) :
    (step.apply a).OnlyWanted where
  names := ha.names.turn (turn_apply a step)
  ids := ha.ids.apply step
  wanted := wanted_apply ha.wanted ha.names ha.ids htaken

/-! ### Runs -/

/-- Whatever the facility is like when the arbiter takes it over, and whatever fails: every session that
was set up without problems about annotations has all the apps and categories of its request running
for as long as it is registered. If no removal was refused to start annotations anew, then whatever is
running is asked for by the request of a registered session, so annotations are off once no registered
session asks for anything that is running. -/
theorem wantedAnnotations_after (facility : Simulation) (catalog : Catalog) (settings : Settings)
    (steps : List Step) :
    let start : Arbiter Simulation := { facility, catalog, settings }
    let a := start.after steps
    (∀ id r, SetUpIn start steps id r [] →
        r.apps ⊆ a.installed.apps ∧ r.categories ⊆ a.installed.categories) ∧
      (Along RestartsTaken start steps →
        (∀ app ∈ a.installed.apps,
          ∃ id r errors, SetUpIn start steps id r errors ∧ app ∈ r.apps) ∧
        (∀ category ∈ a.installed.categories,
          ∃ id r errors, SetUpIn start steps id r errors ∧ category ∈ r.categories) ∧
        ((∀ id r errors, SetUpIn start steps id r errors →
            (∀ app ∈ r.apps, app ∉ a.installed.apps) ∧
              ∀ category ∈ r.categories, category ∉ a.installed.categories) →
          a.installed.annotationsOn = false)) := by
  intro start a
  refine ⟨fun id r hsetup => ?_, fun htaken => ?_⟩
  · obtain ⟨happs, hcategories⟩ := serves_of_setUpIn hsetup
    exact ⟨happs, hcategories⟩
  have hstart : start.OnlyWanted :=
    ⟨.of_off rfl rfl rfl, fun _ _ hconfig => (nomatch hconfig), ⟨List.nil_subset _, List.nil_subset _⟩⟩
  have hwanted : a.annotationState.Wanted a.configs :=
    (htaken.invariant (fun _ _ ha hstep => ha.apply hstep) hstart).wanted
  have happs : ∀ app ∈ a.installed.apps,
      ∃ id r errors, SetUpIn start steps id r errors ∧ app ∈ r.apps := by
    intro app happ
    obtain ⟨config, hmem, hasks⟩ := (mem_unionOfApps _).mp (hwanted.apps happ)
    obtain ⟨id, hconfig⟩ := mem_configs.mp hmem
    obtain ⟨r, errors, hsetup, hsame, -⟩ := setUpIn_of_session? rfl hconfig
    exact ⟨id, r, errors, hsetup, hsame ▸ hasks⟩
  have hcategories : ∀ category ∈ a.installed.categories,
      ∃ id r errors, SetUpIn start steps id r errors ∧ category ∈ r.categories := by
    intro category hcategory
    obtain ⟨config, hmem, hasks⟩ := (mem_unionOfCategories _).mp (hwanted.categories hcategory)
    obtain ⟨id, hconfig⟩ := mem_configs.mp hmem
    obtain ⟨r, errors, hsetup, -, hsame⟩ := setUpIn_of_session? rfl hconfig
    exact ⟨id, r, errors, hsetup, hsame ▸ hasks⟩
  refine ⟨happs, hcategories, fun hunwanted => ?_⟩
  have hon := (namesRight_after facility catalog settings steps).on_iff
  rw [Bool.eq_false_iff]
  intro hrunning
  obtain hsome | hsome := hon.mp hrunning
  · obtain ⟨app, happ⟩ := List.exists_mem_of_ne_nil _ hsome
    obtain ⟨id, r, errors, hsetup, hasks⟩ := happs app happ
    exact (hunwanted id r errors hsetup).1 app hasks happ
  · obtain ⟨category, hcategory⟩ := List.exists_mem_of_ne_nil _ hsome
    obtain ⟨id, r, errors, hsetup, hasks⟩ := hcategories category hcategory
    exact (hunwanted id r errors hsetup).2 category hasks hcategory

theorem wantedAnnotations_after_sharedApp :
    let start := fresh smallCatalog {}
    let a := start.after sharedApp
    SetUpIn start sharedApp ⟨2⟩ { apps := ["music"] } [] ∧ Along RestartsTaken start sharedApp ∧
      a.installed.annotationsOn = true ∧ "music" ∈ a.installed.apps ∧
      (∀ app ∈ a.installed.apps,
        ∃ id r errors, SetUpIn start sharedApp id r errors ∧ app ∈ r.apps) ∧
      "camera" ∉ a.installed.apps := by
  have hruns : ((setup { apps := ["music"] } {}).run
        ((fresh smallCatalog {}).after (sharedApp.take 1))).1.1 = ⟨2⟩ ∧
      ((setup { apps := ["music"] } {}).run
        ((fresh smallCatalog {}).after (sharedApp.take 1))).1.2.annotationErrors = [] ∧
      ((fresh smallCatalog {}).after sharedApp).isRegistered ⟨2⟩ ∧
      Along RestartsTaken (fresh smallCatalog {}) sharedApp ∧
      ((fresh smallCatalog {}).after sharedApp).installed.annotationsOn = true ∧
      "camera" ∉ ((fresh smallCatalog {}).after sharedApp).installed.apps := by
    decide +kernel
  obtain ⟨hid, herrors, hregistered, htaken, hon, hrefused⟩ := hruns
  have hsetup : SetUpIn (fresh smallCatalog {}) sharedApp ⟨2⟩ { apps := ["music"] } [] :=
    ⟨sharedApp.take 1, {}, sharedApp.drop 2, rfl, hid, herrors, hregistered⟩
  have hfresh : { facility := .idle, catalog := smallCatalog } = fresh smallCatalog {} := rfl
  have hafter := wantedAnnotations_after .idle smallCatalog {} sharedApp
  rw [hfresh] at hafter
  obtain ⟨hserved, hwanted⟩ := hafter
  have hasks : "music" ∈ ({ apps := ["music"] } : Request).apps := List.mem_singleton_self "music"
  exact ⟨hsetup, htaken, hon, (hserved ⟨2⟩ _ hsetup).1 hasks, (hwanted htaken).1, hrefused⟩

end Arbiter

end TraceArbiter
