import TraceArbiter.Proofs.Arbiter.Sessions
import TraceArbiter.Proofs.Run
import TraceArbiter.Proofs.Tracer.Stages

/-!
# The installed tracer

As long as the tracer is not engaged, its files are those of a facility that nobody uses, and while it
is, the size of the buffer is set. A setup that is refused keeps that, since it undoes a switch of its
own and otherwise only adds lines. A reset that is refused half-way does not: the arbiter takes the
tracer for disengaged while filters are left over.
-/

namespace TraceArbiter

open Std

namespace Arbiter

/-- The files of the tracer and the buffer fit what the arbiter believes of the tracer. -/
structure TracerRight (a : Arbiter Simulation) : Prop where
  rests : a.installed.functionGraph = false → ∀ path ∈ Control.tracerFiles,
    a.facility.value? path = Simulation.idle.value? path
  pinned : a.installed.functionGraph → a.installed.bufferPages ≠ 0
  present : ∃ content, a.facility.value? Control.functionFilter = some content

namespace TracerRight

variable {a a' : Arbiter Simulation} {r : Request}

theorem fresh (catalog : Catalog) (settings : Settings) :
    (Arbiter.fresh catalog settings).TracerRight :=
  ⟨fun _ _ _ => rfl, fun h => (Bool.false_ne_true h).elim, "",
    show Simulation.idle.value? Control.functionFilter = some "" by decide +kernel⟩

theorem of_frame {P : String → Prop} {view : Installed → Installed} {lastId : SessionId}
    {sessions : ExtTreeMap SessionId SessionConfig} {active : ExtTreeSet SessionId}
    (ha : a.TracerRight) (h : Frame P view { a with lastId, sessions, active } a')
    (hP : ∀ path ∈ Control.tracerFiles, ¬P path)
    (htracer : ∀ i, (view i).functionGraph = i.functionGraph)
    (hbuffer : ∀ i, (view i).bufferPages = i.bufferPages) : a'.TracerRight := by
  have hfiles : ∀ path ∈ Control.tracerFiles, a'.facility.value? path = a.facility.value? path :=
    fun path hpath => h.facility.value?_eq path (hP path hpath)
  have htracer : a'.installed.functionGraph = a.installed.functionGraph := by
    rw [← htracer, h.installed, htracer]
  have hbuffer : a'.installed.bufferPages = a.installed.bufferPages := by
    rw [← hbuffer, h.installed, hbuffer]
  refine ⟨fun hidle path hpath => ?_, ?_, ?_⟩
  · rw [hfiles path hpath]
    exact ha.rests (htracer ▸ hidle) path hpath
  · rw [htracer, hbuffer]
    exact ha.pinned
  · rw [hfiles _ (by decide)]
    exact ha.present

/-! ### Setups -/

theorem refused {failure : SetupFailure} (ha : a.TracerRight)
    (h : (installTracerAndBuffer r).run.run a = (.error failure, a')) : a'.TracerRight := by
  cases refusal_case ha.pinned h with
  | undone _ _ _ hinstalled hfiles =>
    refine ⟨fun hidle path hpath => ?_, ?_, ?_⟩
    · rw [hinstalled] at hidle
      obtain hkeep | ⟨-, hrest⟩ := hfiles path
      · rw [hkeep, ha.rests hidle path hpath]
      · exact hrest
    · rw [hinstalled]
      exact ha.pinned
    · obtain hkeep | ⟨-, hrest⟩ := hfiles Control.functionFilter
      · rw [hkeep]
        exact ha.present
      · exact ⟨"", by rw [hrest]; decide +kernel⟩
  | filtersRefused => exact ha
  | rootsRefused _ hshared =>
    obtain ⟨content, hcontent⟩ := ha.present
    refine ⟨fun hidle => ?_, ha.pinned, _, Simulation.value?_withLines hcontent⟩
    rw [hshared] at hidle
    cases hidle

theorem engageFunctionGraph {engaged : Bool} (ha : a.TracerRight)
    (h : (engageFunctionGraph r).run.run a = (.ok engaged, a')) :
    (a'.installed.functionGraph = false → a' = a) ∧
      ∃ content, a'.facility.value? Control.functionFilter = some content := by
  obtain ⟨content, hcontent⟩ := ha.present
  cases engage_case h with
  | unwanted => exact ⟨fun _ => rfl, content, hcontent⟩
  | added _ hshared =>
    refine ⟨fun hidle => ?_, r.functionFilters.foldl Simulation.withLine content, ?_⟩
    · rw [hshared] at hidle
      cases hidle
    · exact (Simulation.value?_withLines_of_ne (by decide)).trans
        (Simulation.value?_withLines hcontent)
  | switched _ _ _ hswitch =>
    obtain ⟨-, rfl⟩ := switchToFunctionGraph_made hswitch
    refine ⟨nofun, r.functionFilters.foldl Simulation.withLine "", ?_⟩
    dsimp only
    rw [Simulation.value?_written, if_neg (by decide),
      Simulation.value?_withFilters_functionFilter]

theorem installTracerAndBuffer (ha : a.TracerRight)
    (h : (installTracerAndBuffer r).run.run a = (.ok (), a')) : a'.TracerRight := by
  obtain ⟨engaged, a₁, hengage, hpin⟩ := installTracerAndBuffer_made h
  obtain ⟨hsame, content, hcontent⟩ := ha.engageFunctionGraph hengage
  have hframe := (framed_pinBuffer r).of_run hpin
  have hfiles : ∀ path ∈ Control.tracerFiles, a'.facility.value? path = a₁.facility.value? path :=
    fun path hpath => hframe.facility.value?_eq path (by revert path; decide)
  refine ⟨fun hidle path hpath => ?_, fun _ => pinBuffer_pinned hpin, content, ?_⟩
  · have hidle : a₁.installed.functionGraph = false :=
      (congrArg Installed.functionGraph hframe.installed).symm.trans hidle
    obtain rfl := hsame hidle
    rw [hfiles path hpath]
    exact ha.rests hidle path hpath
  · rw [hfiles _ (by decide)]
    exact hcontent

/-- Whether a setup goes through or is refused, its essentials keep the tracer right. -/
theorem installEssentials {filter : SyscallFilter} {result : Except SetupFailure Unit}
    (ha : a.TracerRight) (h : (installEssentials r filter).run.run a = (result, a')) :
    a'.TracerRight := by
  cases essentials_case h with
  | filterRefused _ a₁ hrefused =>
    have hfilter := (framed_installSyscallFilter filter).of_run hrefused
    have hfiltered := ha.of_frame hfilter (by decide) (fun _ => rfl) fun _ => rfl
    exact hfiltered.of_frame (framed_restoreSyscallFilter a₁) (by decide) (fun _ => rfl) fun _ => rfl
  | restRefused wrote a₁ _ a₂ hinstalled hrest =>
    have hfilter := (framed_installSyscallFilter filter).of_run hinstalled
    have hfiltered := ha.of_frame hfilter (by decide) (fun _ => rfl) fun _ => rfl
    exact (hfiltered.refused hrest).of_frame (framed_undoFilter wrote a₂) (by decide) (fun _ => rfl)
      fun _ => rfl
  | installed wrote a₁ _ hinstalled hrest =>
    have hfilter := (framed_installSyscallFilter filter).of_run hinstalled
    exact (ha.of_frame hfilter (by decide) (fun _ => rfl) fun _ => rfl).installTracerAndBuffer hrest

theorem completeSetup (ha : a.TracerRight) (r : Request) (id : SessionId) (plan : Plan) :
    ((completeSetup r id plan).run a).2.TracerRight := by
  refine ha.of_frame (frame_completeSetup r id plan a) ?_ (fun _ => rfl) fun _ => rfl
  unfold isCompletionFile
  decide

theorem setup (ha : a.TracerRight) (r : Request) (report : SetupReport) :
    ((setup r report).run a).2.TracerRight := by
  match hrun : (Arbiter.setup r report).run a with
  | ((id, report'), a') =>
    cases setup_case hrun with
    | refused => exact ha
    | undone _ _ _ _ _ hundone => exact ha.installEssentials hundone
    | completed _ _ _ _ _ hdone => exact (ha.installEssentials hdone).completeSetup r _ _

/-! ### Other operations -/

theorem remove (ha : a.TracerRight) (id : SessionId) : ((remove id).run a).2.TracerRight := by
  refine ha.of_frame (frame_remove id a) ?_ (fun _ => rfl) fun _ => rfl
  unfold isRemovalFile
  decide

theorem resetTracer (ha : a.TracerRight) (hrefused : refusedWrites resetTracer a = []) :
    (resetTracer.run a).2.TracerRight := by
  have hworks := resetTracer_of_not_refused hrefused
  match hrun : Arbiter.resetTracer.run a with
  | (worked, a') =>
    rw [hrun] at hworks
    obtain rfl : worked = true := hworks
    obtain ⟨rfl, -⟩ | ⟨-, hidle, hrests⟩ := resetTracer_works hrun
    · exact ha
    · refine ⟨fun _ => hrests, fun h => ?_, _, hrests Control.functionFilter (by decide)⟩
      rw [hidle] at h
      cases h

theorem rig (ha : a.TracerRight) (rigging : Rigging) :
    TracerRight { a with facility := rigging.apply a.facility } := by
  refine ⟨fun hidle path hpath => ?_, ha.pinned, ?_⟩
  · rw [Rigging.value?_apply]
    exact ha.rests hidle path hpath
  · rw [Rigging.value?_apply]
    exact ha.present

end TracerRight

/-- No write is refused when the step is a removal or a tracer reset. -/
def Cleans (a : Arbiter Simulation) (step : Step) : Prop :=
  step.isRemoval ∨ step.isTracerReset → step.refusedWrites a = []

instance (a : Arbiter Simulation) (step : Step) : Decidable (Cleans a step) :=
  inferInstanceAs (Decidable (_ → _))

theorem TracerRight.after {a : Arbiter Simulation} {steps : List Step}
    (houtside : ∀ step ∈ steps, ¬step.isOutside) (hcleans : Along Cleans a steps)
    (ha : a.TracerRight) : (a.after steps).TracerRight := by
  refine ((Along.of_forall steps a houtside).and hcleans).invariant (fun a step ha hstep => ?_) ha
  obtain ⟨houtside, hcleans⟩ := hstep
  cases step with
  | setup r report => exact ha.setup r report
  | activate id => exact ha.of_frame (frame_activate id a) (by decide) (fun _ => rfl) fun _ => rfl
  | remove id => exact ha.remove id
  | resetTracer => exact ha.resetTracer (hcleans (.inr rfl))
  | rig rigging => exact ha.rig rigging
  | poke path value => exact absurd rfl houtside

end Arbiter

end TraceArbiter
