import Mathlib.Data.List.Induction
import TraceArbiter.Proofs.Arbiter.FailedSetup

/-!
# Which tracer is engaged

The file of the tracer names the tracer that the arbiter believes to be in use. A setup either keeps
the tracer, engages it because it wants it and works, or leaves no trace of having tried; a reset
either fails at its first write, which changes nothing, or has put the idle tracer back. Main
statement: as long as nobody else writes control files this holds in every state, and the tracer is
engaged from a session that wants it to the next reset that puts the idle tracer back.
-/

namespace TraceArbiter

open Std

/-- The tracer that is believed to be in use. -/
def Installed.tracer (i : Installed) : String :=
  if i.functionGraph then Control.functionGraphTracer else Control.idleTracer

namespace Arbiter

open Simulation

variable {a a₁ a₂ a' : Arbiter Simulation} {r : Request} {step : Step} {steps : List Step}
  {p q : Prop}

/-! ### Steps that leave the tracer alone -/

structure SameTracer (a a' : Arbiter Simulation) : Prop where
  functionGraph : a'.installed.functionGraph = a.installed.functionGraph
  files : ∀ path ∈ Control.tracerFiles, a'.facility.value? path = a.facility.value? path

theorem SameTracer.refl (a : Arbiter Simulation) : SameTracer a a :=
  ⟨rfl, fun _ _ => rfl⟩

theorem Frame.sameTracer {P : String → Prop} {view : Installed → Installed} {lastId : SessionId}
    {sessions : ExtTreeMap SessionId SessionConfig} {active : ExtTreeSet SessionId}
    (h : Frame P view { a with lastId, sessions, active } a') (hP : ∀ path ∈ Control.tracerFiles, ¬P path)
    (hview : ∀ i, (view i).functionGraph = i.functionGraph) : SameTracer a a' :=
  ⟨h.belief Installed.functionGraph hview,
    fun path hpath => h.facility.value?_eq path (hP path hpath)⟩

/-! ### Setups -/

/-- What a step other than a reset can do to the tracer, by whether it wants the tracer and gets
it. -/
inductive TracerTurn (engages : Prop) (a a' : Arbiter Simulation) : Prop
  | kept (hengaged : a.installed.functionGraph) (hengaged' : a'.installed.functionGraph)
      (htracer : a'.facility.value? Control.currentTracer =
        a.facility.value? Control.currentTracer)
  | engaged (hidle : a.installed.functionGraph = false) (hengaged' : a'.installed.functionGraph)
      (hengages : engages)
      (htracer : a'.facility.value? Control.currentTracer = some Control.functionGraphTracer)
  /-- The tracer is not engaged, though the setup may have tried. -/
  | apart (hidle : a.installed.functionGraph = false)
      (hidle' : a'.installed.functionGraph = false) (hunwanted : ¬engages)
      (hfiles : ∀ path ∈ Control.tracerFiles, a'.facility.value? path = a.facility.value? path ∨
        a'.facility.value? path = idle.value? path)

namespace TracerTurn

theorem congr (h : TracerTurn p a a') (hpq : p ↔ q) : TracerTurn q a a' :=
  propext hpq ▸ h

theorem of_same (h : SameTracer a a') (hunwanted : a.installed.functionGraph = false → ¬p) :
    TracerTurn p a a' := by
  cases hengaged : a.installed.functionGraph with
  | true => exact .kept hengaged (h.functionGraph.trans hengaged) (h.files _ (by decide))
  | false =>
    exact .apart hengaged (h.functionGraph.trans hengaged) (hunwanted hengaged) fun path hpath =>
      .inl (h.files path hpath)

/-- What happens before and after without touching the tracer does not count. -/
theorem between (hbefore : SameTracer a a₁) (h : TracerTurn p a₁ a₂) (hafter : SameTracer a₂ a') :
    TracerTurn p a a' := by
  cases h with
  | kept hengaged hengaged' htracer =>
    refine .kept (hbefore.functionGraph ▸ hengaged) (hafter.functionGraph ▸ hengaged') ?_
    rw [hafter.files _ (by decide), htracer, hbefore.files _ (by decide)]
  | engaged hidle hengaged' hengages htracer =>
    refine .engaged (hbefore.functionGraph ▸ hidle) (hafter.functionGraph ▸ hengaged') hengages ?_
    rw [hafter.files _ (by decide), htracer]
  | apart hidle hidle' hunwanted hfiles =>
    refine .apart (hbefore.functionGraph ▸ hidle) (hafter.functionGraph ▸ hidle') hunwanted ?_
    intro path hpath
    rw [hafter.files path hpath, ← hbefore.files path hpath]
    exact hfiles path hpath

theorem of_undone (hidle : a.installed.functionGraph = false)
    (hinstalled : a'.installed = a.installed) (hfiles : a.facility.KeepsOrRests a'.facility)
    (hunwanted : ¬p) : TracerTurn p a a' :=
  .apart hidle (hinstalled ▸ hidle) hunwanted fun path _ => (hfiles path).imp_right And.right

theorem engageFunctionGraph {result : Except SetupFailure Bool}
    (h : (engageFunctionGraph r).run.run a = (result, a')) :
    TracerTurn (r.functionGraph ∧ ∃ engaged, result = .ok engaged) a a' := by
  have hshared (hengaged : a.installed.functionGraph) {p : Prop} :
      a.installed.functionGraph = false → ¬p := fun hidle => by
    rw [hengaged] at hidle
    cases hidle
  cases engage_case h with
  | unwanted hunwanted =>
    refine .of_same (.refl a) fun _ hwanted => ?_
    rw [hunwanted] at hwanted
    exact Bool.false_ne_true hwanted.1
  | filtersRefused _ hengaged => exact .of_same (.refl a) (hshared hengaged)
  | rootsRefused _ hengaged => exact .kept hengaged hengaged (value?_withLines_of_ne (by decide))
  | added _ hengaged =>
    refine .kept hengaged hengaged ?_
    exact (value?_withLines_of_ne (by decide)).trans (value?_withLines_of_ne (by decide))
  | switchRefused _ a₁ _ hidle hswitch =>
    obtain ⟨hinstalled, hfiles⟩ := switchToFunctionGraph_undone hswitch
    exact .of_undone hidle hinstalled hfiles nofun
  | switched _ hwanted hidle hswitch =>
    obtain ⟨-, rfl⟩ := switchToFunctionGraph_made hswitch
    refine .engaged hidle rfl ⟨hwanted, true, rfl⟩ ?_
    exact (value?_written ..).trans (if_pos rfl)

theorem installTracerAndBuffer {result : Except SetupFailure Unit}
    (h : (installTracerAndBuffer r).run.run a = (result, a')) :
    TracerTurn (r.functionGraph ∧ result = .ok ()) a a' := by
  cases result with
  | ok =>
    obtain ⟨engaged, a₁, hengage, hpin⟩ := installTracerAndBuffer_made h
    have hbuffer := (framed_pinBuffer r).of_run hpin
    have hturn := TracerTurn.engageFunctionGraph hengage
    refine (hturn.between (.refl a) (hbuffer.sameTracer (by decide) fun _ => rfl)).congr ?_
    exact and_congr_right fun _ => iff_of_true ⟨engaged, rfl⟩ rfl
  | error failure =>
    have hfails : ¬(r.functionGraph = true ∧
        (.error failure : Except SetupFailure Unit) = .ok ()) := nofun
    obtain hengage | ⟨engaged, a₁, hengage, -, rfl⟩ := installTracerAndBuffer_refused h
    · exact (TracerTurn.engageFunctionGraph hengage).congr (iff_of_false nofun hfails)
    -- The buffer is refused, and takes the tracer with it if the setup has just engaged it.
    · cases engage_case hengage with
      | unwanted => exact .of_same (.refl a) fun _ => hfails
      | added _ hengaged =>
        refine .kept hengaged hengaged ?_
        exact (value?_withLines_of_ne (by decide)).trans (value?_withLines_of_ne (by decide))
      | switched _ _ hidle hswitch =>
        obtain ⟨hinstalled, hfiles⟩ := disengageFunctionGraph_undone hidle hswitch
        exact .of_undone hidle hinstalled hfiles hfails

theorem installEssentials {filter : SyscallFilter} {result : Except SetupFailure Unit}
    (h : (installEssentials r filter).run.run a = (result, a')) :
    TracerTurn (r.functionGraph ∧ result = .ok ()) a a' := by
  have hinstall {result : Except SetupFailure Bool} {a₁ : Arbiter Simulation}
      (hrun : (installSyscallFilter filter).run.run a = (result, a₁)) : SameTracer a a₁ :=
    ((framed_installSyscallFilter filter).of_run hrun).sameTracer (by decide) fun _ => rfl
  cases essentials_case h with
  | filterRefused _ a₁ hrefused =>
    have hrestore := (framed_restoreSyscallFilter a₁).sameTracer (by decide) fun _ => rfl
    have hturn : TracerTurn False a a₁ := .of_same (hinstall hrefused) fun _ => id
    exact (hturn.between (.refl a) hrestore).congr (iff_of_false id nofun)
  | restRefused wrote a₁ _ a₂ hinstalled hrest =>
    have hundo := (framed_undoFilter wrote a₂).sameTracer (by decide) fun _ => rfl
    refine ((TracerTurn.installTracerAndBuffer hrest).between (hinstall hinstalled) hundo).congr ?_
    exact and_congr_right fun _ => iff_of_false nofun nofun
  | installed _ a₁ _ hinstalled hrest =>
    exact (TracerTurn.installTracerAndBuffer hrest).between (hinstall hinstalled) (.refl a')

theorem setup {id : SessionId} {report report' : SetupReport}
    (h : (setup r report).run a = ((id, report'), a')) :
    TracerTurn (r.functionGraph ∧ id ≠ .invalid) a a' := by
  cases setup_case h with
  | refused => exact .of_same (.refl a) fun _ hengages => hengages.2 rfl
  | undone _ _ _ _ _ hundone =>
    refine (TracerTurn.installEssentials hundone).congr ?_
    exact and_congr_right fun _ => iff_of_false nofun fun hid => hid rfl
  | completed _ _ a₁ hid _ hdone =>
    have hsame := (frame_completeSetup r id (r.plan a.catalog) a₁).sameTracer
      (by unfold isCompletionFile; decide) fun _ => rfl
    refine ((TracerTurn.installEssentials hdone).between (.refl a) hsame).congr ?_
    exact and_congr_right fun _ => iff_of_true rfl (SessionId.next?_ne_invalid hid)

end TracerTurn

/-! ### Steps -/

/-- The step sets up a session that wants the function graph tracer. -/
def EngagesTracer (a : Arbiter Simulation) : Step → Prop
  | .setup r report => r.functionGraph ∧ ((setup r report).run a).1.1 ≠ .invalid
  | _ => False

/-- The step is a reset after which the idle tracer is back. -/
def RestsTracer (a : Arbiter Simulation) (step : Step) : Prop :=
  step.isTracerReset ∧
    (step.apply a).facility.value? Control.currentTracer = some Control.idleTracer

theorem tracerTurn_apply (houtside : ¬step.isOutside) (hreset : ¬step.isTracerReset) :
    TracerTurn (EngagesTracer a step) a (step.apply a) := by
  cases step with
  | setup r report =>
    match hrun : (setup r report).run a with
    | ((id, report'), a') =>
      have hturn := TracerTurn.setup hrun
      have happly : Step.apply a (.setup r report) = a' := congrArg Prod.snd hrun
      rw [happly]
      refine hturn.congr (and_congr_right fun _ => ?_)
      rw [hrun]
  | activate id =>
    exact .of_same ((frame_activate id a).sameTracer (by decide) fun _ => rfl) fun _ hengages =>
      hengages
  | remove id =>
    have hsame := (frame_remove id a).sameTracer (by unfold isRemovalFile; decide) fun _ => rfl
    exact .of_same hsame fun _ hengages => hengages
  | resetTracer => exact absurd rfl hreset
  | rig rigging =>
    exact .of_same ⟨rfl, fun _ _ => Rigging.value?_apply ..⟩ fun _ hengages => hengages
  | poke path value => exact absurd rfl houtside

/-- A reset changes nothing, or it found the tracer engaged and has put the idle one back. -/
theorem resetTracer_case (a : Arbiter Simulation) :
    (resetTracer.run a).2 = a ∨ a.installed.functionGraph ∧
      (resetTracer.run a).2.installed.functionGraph = false ∧
      (resetTracer.run a).2.facility.value? Control.currentTracer = some Control.idleTracer := by
  have hidled : a.idled.facility.value? Control.currentTracer = some Control.idleTracer :=
    (value?_written ..).trans (if_pos rfl)
  have hdropped : (a.idled.facility.emptied Control.functionFilter).value? Control.currentTracer =
      some Control.idleTracer := value?_emptied.trans hidled
  rw [resetTracer_run]
  split
  · exact .inl rfl
  next hengaged =>
  have hengaged : a.installed.functionGraph = true := by simpa using hengaged
  split
  · exact .inl rfl
  split
  · exact .inr ⟨hengaged, rfl, hidled⟩
  split
  · exact .inr ⟨hengaged, rfl, hdropped⟩
  · exact .inr ⟨hengaged, rfl, value?_emptied.trans hdropped⟩

/-! ### The file of the tracer -/

/-- The file of the tracer names the tracer that the arbiter believes to be in use. -/
def TracerNamed (a : Arbiter Simulation) : Prop :=
  a.facility.value? Control.currentTracer = some a.installed.tracer

namespace TracerNamed

theorem of_engaged (hengaged : a.installed.functionGraph)
    (htracer : a.facility.value? Control.currentTracer = some Control.functionGraphTracer) :
    a.TracerNamed := by
  unfold TracerNamed Installed.tracer
  rw [if_pos hengaged, htracer]

theorem of_idle (hidle : a.installed.functionGraph = false)
    (htracer : a.facility.value? Control.currentTracer = some Control.idleTracer) :
    a.TracerNamed := by
  unfold TracerNamed Installed.tracer
  rw [if_neg (by simp [hidle]), htracer]

theorem engaged (ha : a.TracerNamed) (hengaged : a.installed.functionGraph) :
    a.facility.value? Control.currentTracer = some Control.functionGraphTracer :=
  ha.trans (congrArg some (if_pos hengaged))

theorem idle (ha : a.TracerNamed) (hidle : a.installed.functionGraph = false) :
    a.facility.value? Control.currentTracer = some Control.idleTracer :=
  ha.trans (congrArg some (if_neg (by simp [hidle])))

theorem turn (ha : a.TracerNamed) (h : TracerTurn p a a') :
    a'.TracerNamed ∧ (a'.installed.functionGraph ↔ p ∨ a.installed.functionGraph) := by
  cases h with
  | kept hengaged hengaged' htracer =>
    refine ⟨.of_engaged hengaged' (htracer.trans (ha.engaged hengaged)), ?_⟩
    exact iff_of_true hengaged' (.inr hengaged)
  | engaged _ hengaged' hengages htracer =>
    exact ⟨.of_engaged hengaged' htracer, iff_of_true hengaged' (.inl hengages)⟩
  | apart hidle hidle' hunwanted hfiles =>
    refine ⟨.of_idle hidle' ?_, ?_⟩
    · obtain hkeep | hrest := hfiles Control.currentTracer (by decide)
      · rw [hkeep, ha.idle hidle]
      · rw [hrest]
        decide +kernel
    · rw [hidle, hidle']
      exact iff_of_false Bool.false_ne_true (not_or_intro hunwanted Bool.false_ne_true)

/-- The tracer is engaged after a step if the step engages it, or it was engaged and the step does not
put the idle one back. -/
theorem apply (ha : a.TracerNamed) (houtside : ¬step.isOutside) :
    (step.apply a).TracerNamed ∧ ((step.apply a).installed.functionGraph ↔
      EngagesTracer a step ∨ a.installed.functionGraph ∧ ¬RestsTracer a step) := by
  by_cases hreset : step.isTracerReset
  · obtain rfl := Step.eq_resetTracer hreset
    have hrests : RestsTracer a .resetTracer ↔
        (Arbiter.resetTracer.run a).2.facility.value? Control.currentTracer =
          some Control.idleTracer := and_iff_right rfl
    rw [hrests, show EngagesTracer a .resetTracer ↔ False from Iff.rfl, false_or]
    change (Arbiter.resetTracer.run a).2.TracerNamed ∧
      ((Arbiter.resetTracer.run a).2.installed.functionGraph ↔ _)
    obtain hsame | ⟨hengaged, hidle', htracer⟩ := resetTracer_case a
    · rw [hsame]
      refine ⟨ha, (and_iff_left_of_imp fun hengaged hrests => ?_).symm⟩
      rw [ha.engaged hengaged] at hrests
      revert hrests
      decide
    · refine ⟨.of_idle hidle' htracer, iff_of_false (by simp [hidle']) fun h => h.2 htracer⟩
  · obtain ⟨hnamed, hengaged⟩ := ha.turn (tracerTurn_apply houtside hreset)
    refine ⟨hnamed, hengaged.trans (or_congr_right ?_)⟩
    exact (and_iff_left fun hrests => hreset hrests.1).symm

theorem fresh (catalog : Catalog) (settings : Settings) :
    (Arbiter.fresh catalog settings).TracerNamed :=
  show Simulation.idle.value? Control.currentTracer = some Control.idleTracer by decide +kernel

end TracerNamed

/-! ### Runs -/

theorem tracer_after {start : Arbiter Simulation} (hstart : start.TracerNamed)
    (hidle : start.installed.functionGraph = false) (houtside : ∀ step ∈ steps, ¬step.isOutside) :
    (start.after steps).TracerNamed ∧ ((start.after steps).installed.functionGraph ↔
      Since EngagesTracer (fun a step => ¬RestsTracer a step) start steps) := by
  induction steps using List.reverseRecOn with
  | nil => exact ⟨hstart, iff_of_false (by simp [after, hidle]) not_since_nil⟩
  | append_singleton steps step ih =>
    obtain ⟨hnamed, hengaged⟩ := ih fun s hs => houtside s (List.mem_append_left _ hs)
    obtain ⟨hnamed', hengaged'⟩ := hnamed.apply (houtside step (List.mem_append_right _ (.head _)))
    rw [after_snoc, since_snoc, ← hengaged]
    exact ⟨hnamed', hengaged'⟩

theorem tracer_eq {s : Simulation} {content tracer : String}
    (hvalue : s.value? Control.currentTracer = some content)
    (htracer : Control.tracer s = .ok tracer) : tracer = Text.trim content := by
  have hread : Facility.read s Control.currentTracer =
      if s.failingReads.contains Control.currentTracer then
        .error (.readFailed Control.currentTracer injected)
      else .ok content := by
    change s.read Control.currentTracer = _
    unfold Simulation.read
    rw [hvalue]
  unfold Control.tracer at htracer
  rw [hread] at htracer
  split at htracer
  · cases htracer
  · cases htracer
    rfl

/-- A setup looks at the tracer only if it believes the idle one to be in use. -/
theorem TracerNamed.not_tracerBusy {report report' : SetupReport} (ha : a.TracerNamed)
    (hrun : (Arbiter.setup r report).run a = ((.invalid, report'), a')) (tracer : String) :
    report'.failure ≠ some (.tracerBusy tracer) := by
  intro hfailure
  generalize hinvalid : SessionId.invalid = id at hrun
  cases setup_case hrun with
  | refused _ failure hreport hpreflight =>
    obtain rfl : failure = .tracerBusy tracer := Option.some.inj (hreport.symm.trans hfailure)
    cases preflight_case hpreflight with
    | busy _ _ hidle htracer hbusy =>
      rw [tracer_eq (ha.idle (by simpa using hidle)) htracer] at hbusy
      revert hbusy
      decide +kernel
  | undone _ failure _ hreport _ hundone =>
    obtain ⟨path, rfl⟩ := essentials_failure hundone
    exact absurd (hreport.symm.trans hfailure) nofun
  | completed _ _ _ hid => exact absurd hinvalid.symm (SessionId.next?_ne_invalid hid)

/-- As long as nobody else writes control files: the file of the tracer names the function graph tracer
while the arbiter believes it to be engaged, and the idle tracer otherwise, so no setup fails because
the tracer is busy; and it is engaged exactly if a session that wants it was set up and no reset has
put the idle tracer back since. -/
theorem engagedTracer_after (catalog : Catalog) (settings : Settings) {steps : List Step}
    (houtside : ∀ step ∈ steps, ¬step.isOutside) :
    let a := (fresh catalog settings).after steps
    a.facility.value? Control.currentTracer = some
        (if a.installed.functionGraph then Control.functionGraphTracer else Control.idleTracer) ∧
      (∀ r report tracer, ((setup r report).run a).1.1 = .invalid →
        ((setup r report).run a).1.2.failure ≠ some (.tracerBusy tracer)) ∧
      (a.installed.functionGraph ↔ Since EngagesTracer (fun a step => ¬RestsTracer a step)
        (fresh catalog settings) steps) := by
  intro a
  obtain ⟨hnamed, hengaged⟩ := tracer_after (.fresh catalog settings) rfl houtside
  refine ⟨hnamed, fun r report tracer hinvalid => ?_, hengaged⟩
  exact hnamed.not_tracerBusy (Prod.ext (Prod.ext hinvalid rfl) rfl) tracer

/-- A session that wants the tracer comes and goes, and then the tracer can no longer be written. -/
def lockedReset : List Step :=
  [.setup (recordCallAndGraph "0") {}, .remove ⟨1⟩, .rig (.failWritesTo Control.currentTracer),
    .resetTracer]

theorem engagedTracer_after_lockedReset :
    (∀ step ∈ lockedReset, ¬step.isOutside) ∧
      let a := (fresh smallCatalog {}).after lockedReset
      a.sessions.isEmpty ∧ a.installed.functionGraph ∧
        a.facility.value? Control.currentTracer = some Control.functionGraphTracer ∧
        Since EngagesTracer (fun a step => ¬RestsTracer a step) (fresh smallCatalog {})
          lockedReset := by
  have houtside : ∀ step ∈ lockedReset, ¬step.isOutside := by decide
  have hgone : ((fresh smallCatalog {}).after lockedReset).sessions.isEmpty ∧
      ((fresh smallCatalog {}).after lockedReset).installed.functionGraph := by
    decide +kernel
  obtain ⟨htracer, -, hsince⟩ := engagedTracer_after smallCatalog {} houtside
  exact ⟨houtside, hgone.1, hgone.2, htracer.trans (congrArg some (if_pos hgone.2)),
    hsince.mp hgone.2⟩

end Arbiter

end TraceArbiter
