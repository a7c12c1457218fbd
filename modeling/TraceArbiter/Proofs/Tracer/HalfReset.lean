import TraceArbiter.Proofs.Tracer.Engaged

/-!
# Resets that stop half-way

A reset puts the idle tracer back before it drops the filters, and from then on the arbiter takes the
tracer for disengaged. So a reset that is refused to drop the filters fails, but the next one finds
nothing to do and works: what the first has left in the filters stays until a session engages the
tracer again. Main statement: as long as nobody else writes control files, that is the only way for a
reset to work and leave filters behind.
-/

namespace TraceArbiter

open Std Simulation

namespace Arbiter

variable {a : Arbiter Simulation} {step : Step} {steps : List Step} {path : String}

/-! ### Resets that cannot drop the filters -/

/-- The step is a reset that is refused to drop the filters. -/
def DropRefused (a : Arbiter Simulation) (step : Step) : Prop :=
  step.isTracerReset ∧ ∃ path ∈ Control.filterFiles, path ∈ step.refusedWrites a

instance (a : Arbiter Simulation) (step : Step) : Decidable (DropRefused a step) :=
  inferInstanceAs (Decidable (_ ∧ _))

theorem dropRefused_resetTracer_iff :
    DropRefused a .resetTracer ↔ a.installed.functionGraph ∧
      Control.currentTracer ∉ a.facility.failingWrites ∧
      ∃ path ∈ Control.filterFiles, path ∈ a.facility.failingWrites := by
  have hrefused : DropRefused a .resetTracer ↔
      ∃ path ∈ Control.filterFiles, path ∈ refusedWrites resetTracer a := and_iff_right rfl
  have hne : Control.currentTracer ∉ Control.filterFiles := by decide
  rw [hrefused, refusedWrites_resetTracer, resetRefusal?]
  cases a.installed.functionGraph with
  | false => simp
  | true =>
    by_cases htracer : Control.currentTracer ∈ a.facility.failingWrites
    · simp [Control.tracerFiles, htracer, hne]
    by_cases hfunction : Control.functionFilter ∈ a.facility.failingWrites
    · simp [Control.tracerFiles, Control.filterFiles, htracer, hfunction]
    by_cases hgraph : Control.graphFilter ∈ a.facility.failingWrites
    · simp [Control.tracerFiles, Control.filterFiles, htracer, hfunction, hgraph]
    · simp [Control.tracerFiles, Control.filterFiles, htracer, hfunction, hgraph]

theorem DropRefused.disengaged (h : DropRefused a step) :
    (step.apply a).installed.functionGraph = false := by
  obtain rfl := Step.eq_resetTracer h.1
  obtain ⟨hengaged, htracer, -⟩ := dropRefused_resetTracer_iff.mp h
  change (resetTracer.run a).2.installed.functionGraph = false
  rw [resetTracer_run, if_neg (by simp [hengaged]), if_neg htracer]
  split
  · rfl
  · split <;> rfl

/-! ### What is left in the filters -/

def Lingers (path : String) (a : Arbiter Simulation) : Prop :=
  a.installed.functionGraph = false ∧ a.facility.value? path ≠ some ""

/-- A reset was refused to drop the filters when the file was not empty, and since then the file has
not changed and the tracer has not been engaged. -/
def LeftOver (path : String) : Arbiter Simulation → List Step → Prop :=
  Since
    (fun a step => DropRefused a step ∧ (step.apply a).facility.value? path ≠ some "")
    (fun a step => (step.apply a).facility.value? path = a.facility.value? path ∧
      (step.apply a).installed.functionGraph = false)

theorem Lingers.of_resetTracer (hpath : path ∈ Control.filterFiles)
    (h : Lingers path (resetTracer.run a).2) :
    DropRefused a .resetTracer ∨ Lingers path a ∧ (resetTracer.run a).2 = a := by
  obtain ⟨hidle', hvalue⟩ := h
  by_cases hidle : a.installed.functionGraph = false
  · have hsame : (resetTracer.run a).2 = a := by rw [resetTracer_run, if_pos hidle]
    rw [hsame] at hvalue
    exact .inr ⟨⟨hidle, hvalue⟩, hsame⟩
  refine .inl (dropRefused_resetTracer_iff.mpr ⟨by simpa using hidle, ?_⟩)
  rw [resetTracer_run, if_neg hidle] at hidle' hvalue
  by_cases htracer : Control.currentTracer ∈ a.facility.failingWrites
  · rw [if_pos htracer] at hidle'
    exact absurd hidle' hidle
  rw [if_neg htracer] at hvalue
  refine ⟨htracer, ?_⟩
  by_cases hfunction : Control.functionFilter ∈ a.facility.failingWrites
  · exact ⟨_, by decide, hfunction⟩
  rw [if_neg hfunction] at hvalue
  by_cases hgraph : Control.graphFilter ∈ a.facility.failingWrites
  · exact ⟨_, by decide, hgraph⟩
  -- Nothing is refused, so both files are empty.
  rw [if_neg hgraph] at hvalue
  refine absurd ?_ hvalue
  dsimp only
  rw [value?_emptied, value?_emptied]
  obtain rfl | rfl := List.mem_pair.mp hpath
  · rw [if_neg (by decide), if_pos rfl]
  · rw [if_pos rfl]

/-- What is left in a file while the tracer is not engaged was there before the step already, unless
the step is a reset that is refused to drop it. -/
theorem Lingers.of_apply (houtside : ¬step.isOutside) (hpath : path ∈ Control.filterFiles)
    (h : Lingers path (step.apply a)) :
    DropRefused a step ∨
      Lingers path a ∧ (step.apply a).facility.value? path = a.facility.value? path := by
  by_cases hreset : step.isTracerReset
  · obtain rfl := Step.eq_resetTracer hreset
    refine (Lingers.of_resetTracer hpath h).imp_right fun ⟨hlingers, hsame⟩ => ⟨hlingers, ?_⟩
    exact congrArg (·.facility.value? path) hsame
  · obtain ⟨hidle', hvalue⟩ := h
    have hturn : TracerTurn (EngagesTracer a step) a (step.apply a) :=
      tracerTurn_apply houtside hreset
    obtain ⟨hpathTracer, hrests⟩ := rests_of_mem_filterFiles hpath
    cases hturn with
    | kept _ hengaged' => exact absurd hengaged' (by simp [hidle'])
    | engaged _ hengaged' => exact absurd hengaged' (by simp [hidle'])
    | apart hidle _ _ hfiles =>
      obtain hkeep | hrest := hfiles path hpathTracer
      · exact .inr ⟨⟨hidle, hkeep ▸ hvalue⟩, hkeep⟩
      · exact absurd (hrest.trans hrests.symm) hvalue

theorem leftOver_iff_lingers {start : Arbiter Simulation} (hstart : ¬Lingers path start)
    (houtside : ∀ step ∈ steps, ¬step.isOutside) (hpath : path ∈ Control.filterFiles) :
    LeftOver path start steps ↔ Lingers path (start.after steps) := by
  induction steps using List.reverseRecOn with
  | nil => exact iff_of_false not_since_nil hstart
  | append_singleton steps step ih =>
    have ih := ih fun s hs => houtside s (List.mem_append_left _ hs)
    have hstep := houtside step (List.mem_append_right _ (.head _))
    unfold LeftOver at ih ⊢
    rw [since_snoc, ih, after_snoc]
    constructor
    · rintro (⟨hrefused, hvalue⟩ | ⟨⟨-, hvalue⟩, hkeep, hidle⟩)
      · exact ⟨hrefused.disengaged, hvalue⟩
      · exact ⟨hidle, hkeep ▸ hvalue⟩
    · intro h
      obtain hrefused | ⟨hlingers, hkeep⟩ := Lingers.of_apply hstep hpath h
      · exact .inl ⟨hrefused, h.2⟩
      · exact .inr ⟨hlingers, hkeep, h.1⟩

theorem not_leftOver_of_dropped {start : Arbiter Simulation}
    (hdropped : Along (fun a step => ¬DropRefused a step) start steps) :
    ¬LeftOver path start steps := by
  rintro ⟨before, step, rest, rfl, ⟨hrefused, -⟩, -⟩
  exact hdropped.at_step hrefused

/-! ### Resets that work -/

/-- As long as nobody else writes control files: a reset that works leaves the idle tracer in use, and
each file of filters empty unless an earlier reset was refused to drop the filters and has left
something over in it. So it leaves both empty if no earlier reset was refused that, however often
resets were refused to put the idle tracer back. -/
theorem resetTracer_quiescent_iff (catalog : Catalog) (settings : Settings) {steps : List Step}
    (houtside : ∀ step ∈ steps, ¬step.isOutside)
    (hworks : (resetTracer.run ((fresh catalog settings).after steps)).1 = true) :
    let quiet := (resetTracer.run ((fresh catalog settings).after steps)).2
    quiet.facility.value? Control.currentTracer = some Control.idleTracer ∧
      (∀ path ∈ Control.filterFiles, quiet.facility.value? path = some "" ↔
        ¬LeftOver path (fresh catalog settings) steps) ∧
      (Along (fun a step => ¬DropRefused a step) (fresh catalog settings) steps →
        ∀ path ∈ Control.filterFiles, quiet.facility.value? path = some "") := by
  intro quiet
  have hrun : resetTracer.run ((fresh catalog settings).after steps) = (true, quiet) :=
    Prod.ext hworks rfl
  have hnamed := (tracer_after (.fresh catalog settings) rfl houtside).1
  have hleft {path : String} (hpath : path ∈ Control.filterFiles) :
      LeftOver path (fresh catalog settings) steps ↔
        Lingers path ((fresh catalog settings).after steps) :=
    leftOver_iff_lingers (fun h => h.2 (rests_of_mem_filterFiles hpath).2.symm) houtside hpath
  have hquiet : quiet.facility.value? Control.currentTracer = some Control.idleTracer ∧
      ∀ path ∈ Control.filterFiles, quiet.facility.value? path = some "" ↔
        ¬LeftOver path (fresh catalog settings) steps := by
    obtain ⟨hsame, hidle⟩ | ⟨hengaged, -, hrests⟩ := resetTracer_works hrun
    · rw [hsame]
      refine ⟨hnamed.idle hidle, fun path hpath => ?_⟩
      rw [hleft hpath, Lingers, and_iff_right hidle, not_not]
    · refine ⟨hrests _ (by decide), fun path hpath => ?_⟩
      obtain ⟨hpathTracer, hempty⟩ := rests_of_mem_filterFiles hpath
      rw [hleft hpath, hrests path hpathTracer]
      refine iff_of_true hempty.symm fun hlingers => ?_
      rw [hlingers.1] at hengaged
      cases hengaged
  exact ⟨hquiet.1, hquiet.2, fun hdropped path hpath =>
    (hquiet.2 path hpath).mpr (not_leftOver_of_dropped hdropped)⟩

/-- A session that traces functions is set up, and a reset is refused to put the idle tracer back. -/
def retriedReset : List Step :=
  [.setup (traceFunctions ["vfs_read"] []) {}, .rig (.failWritesTo Control.currentTracer),
    .resetTracer, .rig .clearFailures]

/-- The reset is retried, and finishes. -/
theorem resetTracer_quiescent_retriedReset :
    (∀ step ∈ retriedReset, ¬step.isOutside) ∧
      let a := (fresh smallCatalog {}).after retriedReset
      a.facility.value? Control.functionFilter = some "vfs_read" ∧
        (resetTracer.run a).1 = true ∧
        (resetTracer.run a).2.facility.value? Control.currentTracer = some Control.idleTracer ∧
        ∀ path ∈ Control.filterFiles, (resetTracer.run a).2.facility.value? path = some "" := by
  have houtside : ∀ step ∈ retriedReset, ¬step.isOutside := by decide
  have hruns : ((fresh smallCatalog {}).after retriedReset).facility.value?
        Control.functionFilter = some "vfs_read" ∧
      (resetTracer.run ((fresh smallCatalog {}).after retriedReset)).1 = true ∧
      Along (fun a step => ¬DropRefused a step) (fresh smallCatalog {}) retriedReset := by
    decide +kernel
  obtain ⟨hfilter, hworks, hdropped⟩ := hruns
  obtain ⟨htracer, -, hempty⟩ := resetTracer_quiescent_iff smallCatalog {} houtside hworks
  exact ⟨houtside, hfilter, hworks, htracer, hempty hdropped⟩

/-- A session that traces functions is set up, and a reset is refused to drop its filters. -/
def abandonedReset : List Step :=
  [.setup (traceFunctions ["vfs_read"] []) {}, .rig (.failWritesTo Control.functionFilter),
    .resetTracer, .rig .clearFailures]

/-- The reset is retried and works, but the filters are still there. -/
theorem not_quiescent_after_abandonedReset :
    (∀ step ∈ abandonedReset, ¬step.isOutside) ∧
      let a := (fresh smallCatalog {}).after abandonedReset
      (resetTracer.run a).1 = true ∧
        (resetTracer.run a).2.facility.value? Control.functionFilter = some "vfs_read" := by
  refine ⟨by decide, ?_⟩
  decide +kernel

end Arbiter

end TraceArbiter
