import TraceArbiter.Proofs.Syscall.Installed
import TraceArbiter.Proofs.Tracer.Installed

/-!
# Setups that are refused

What a setup that gives no session leaves in the control files. Each file holds what it held before,
with one exception: function filters that were added to a shared tracer stay there when the graph
filters are refused after them. Which lines of a filter belong to which session is written nowhere, so
the files alone do not tell what to take back.
-/

namespace TraceArbiter

open Std

namespace Simulation

/-- What a file holds, where a filter on system calls that is not there counts as cleared. -/
def content? (s : Simulation) (path : String) : Option String :=
  if path ∈ Control.syscallFilters then
    some ((s.value? path).getD SyscallFilter.clearExpression)
  else s.value? path

/-- Every file of the second facility holds what it holds in the first. -/
def SameFiles (s s' : Simulation) : Prop :=
  ∀ path, s'.content? path = s.content? path

theorem content?_eq {s s' : Simulation} {path : String} (h : s'.value? path = s.value? path) :
    s'.content? path = s.content? path := by
  unfold content?
  rw [h]

end Simulation

namespace Arbiter

variable {a a' : Arbiter Simulation} {r : Request} {failure : SetupFailure}

/-! ### Checks -/

/-- If it is the facility that failed, a file could not be read. -/
def IsReadFailure (failure : SetupFailure) : Prop :=
  ∀ e, failure = .facility e → ∃ path reason, e = .readFailed path reason

theorem preflight_failure (h : (preflight r).run.run a = (.error failure, a')) :
    IsReadFailure failure := by
  intro e he
  cases preflight_case h with
  | unreadable path e' hread =>
    cases he
    change a.facility.read path = .error e at hread
    unfold Simulation.read at hread
    split at hread
    · cases hread
      exact ⟨path, _, rfl⟩
    split at hread <;> cases hread
    exact ⟨path, _, rfl⟩
  | inUse | disabled | busy | exhausted => cases he

/-! ### Essentials -/

/-- The setup shares the tracer, and its graph filters are refused after it has added function
filters. -/
def StrandsFilters (r : Request) (a : Arbiter Simulation) (failure : Option SetupFailure) : Prop :=
  r.functionGraph ∧ a.installed.functionGraph ∧
    failure = some (.facility (.writeFailed Control.graphFilter Simulation.injected)) ∧
    ∃ line ∈ r.functionFilters,
      a.facility.value? Control.functionFilter ≠ some "" ∨ line ≠ ""

instance (r : Request) (a : Arbiter Simulation) (failure : Option SetupFailure) :
    Decidable (StrandsFilters r a failure) :=
  inferInstanceAs (Decidable (_ ∧ _))

theorem IsReadFailure.not_strandsFilters (h : IsReadFailure failure) :
    ¬StrandsFilters r a (some failure) := by
  rintro ⟨-, -, hfailure, -⟩
  obtain ⟨path, reason, hread⟩ := h _ (Option.some.inj hfailure)
  cases hread

namespace TracerRight

/-- A tracer or a buffer that is refused leaves the files as they were, but for function filters that
are stranded. -/
theorem value?_refused (ha : a.TracerRight)
    (h : (Arbiter.installTracerAndBuffer r).run.run a = (.error failure, a')) :
    (∀ path ≠ Control.functionFilter, a'.facility.value? path = a.facility.value? path) ∧
      (a'.facility.value? Control.functionFilter = a.facility.value? Control.functionFilter ↔
        ¬StrandsFilters r a (some failure)) := by
  cases refusal_case ha.pinned h with
  | undone _ _ hidle _ hfiles =>
    have hsame : ∀ path, a'.facility.value? path = a.facility.value? path := by
      intro path
      obtain hkeep | ⟨hpath, hrest⟩ := hfiles path
      · exact hkeep
      · rw [hrest, ha.rests hidle path hpath]
    refine ⟨fun path _ => hsame path, iff_of_true (hsame _) ?_⟩
    rintro ⟨-, hshared, -⟩
    rw [hidle] at hshared
    cases hshared
  | filtersRefused =>
    refine ⟨fun path _ => rfl, iff_of_true rfl ?_⟩
    rintro ⟨-, -, hfailure, -⟩
    revert hfailure
    decide
  | rootsRefused hwanted hshared =>
    -- The lines stay, and they are noticed unless they and the file are empty.
    refine ⟨fun path hpath => Simulation.value?_withLines_of_ne hpath.symm, ?_⟩
    obtain ⟨content, hcontent⟩ := ha.present
    dsimp only
    rw [Simulation.value?_withLines hcontent, hcontent, Option.some_inj,
      Simulation.foldl_withLine_eq_iff]
    simp only [StrandsFilters, hwanted, hshared, hcontent, ne_eq, Option.some_inj, true_and,
      not_exists, not_and, not_or, not_not]

end TracerRight

theorem installSyscallFilter_failure {filter : SyscallFilter}
    (h : (installSyscallFilter filter).run.run a = (.error failure, a')) :
    ∃ path ∈ Control.syscallFilters,
      failure = .facility (.writeFailed path Simulation.injected) := by
  rw [installSyscallFilter_run] at h
  split at h
  · cases h
  rw [Simulation.setSyscallFilter_run] at h
  split at h
  · cases h
  next hwrite =>
  cases h
  split at hwrite
  · cases hwrite
    exact ⟨_, by decide, rfl⟩
  split at hwrite
  · cases hwrite
    exact ⟨_, by decide, rfl⟩
  · cases hwrite

theorem Frame.strandsFilters_iff {P : String → Prop} {view : Installed → Installed}
    (h : Frame P view a a') (hP : ¬P Control.functionFilter)
    (hview : ∀ i, (view i).functionGraph = i.functionGraph) (failure : Option SetupFailure) :
    StrandsFilters r a' failure ↔ StrandsFilters r a failure := by
  unfold StrandsFilters
  rw [h.belief Installed.functionGraph hview, h.facility.value?_eq _ hP]

theorem FilterInstalled.content?_eq {filter : SyscallFilter} (ha : a.FilterInstalled filter)
    (ha' : a'.FilterInstalled filter) {path : String} (hpath : path ∈ Control.syscallFilters) :
    a'.facility.content? path = a.facility.content? path := by
  unfold Simulation.content?
  rw [if_pos hpath, if_pos hpath, ha.written path hpath, ha'.written path hpath]

/-- Essentials that are refused leave the files as they were, but for function filters that are
stranded. -/
theorem content?_essentials_refused {filter : SyscallFilter} (hright : a.FilterRight)
    (htracer : a.TracerRight) (h : (installEssentials r filter).run.run a = (.error failure, a')) :
    (∀ path ≠ Control.functionFilter, a'.facility.content? path = a.facility.content? path) ∧
      (a'.facility.content? Control.functionFilter = a.facility.content? Control.functionFilter ↔
        ¬StrandsFilters r a (some failure)) := by
  have hinstalled : ∀ path ∈ Control.syscallFilters,
      a'.facility.content? path = a.facility.content? path :=
    fun _ => hright.installed.content?_eq (hright.installed.essentials_refused h)
  cases essentials_case h with
  | filterRefused _ a₁ hrefused =>
    have hframe := (framed_installSyscallFilter filter).of_run hrefused
    have hsame : ∀ path ∉ Control.syscallFilters,
        (restoreSyscallFilter.run a₁).2.facility.content? path = a.facility.content? path := by
      intro path hpath
      refine Simulation.content?_eq ?_
      rw [(framed_restoreSyscallFilter a₁).facility.value?_eq path hpath,
        hframe.facility.value?_eq path hpath]
    refine ⟨fun path _ => ?_, iff_of_true (hsame _ (by decide)) ?_⟩
    · by_cases hpath : path ∈ Control.syscallFilters
      · exact hinstalled path hpath
      · exact hsame path hpath
    · rintro ⟨-, -, hgraph, -⟩
      obtain ⟨path, hpath, rfl⟩ := installSyscallFilter_failure hrefused
      cases hgraph
      revert hpath
      decide
  | restRefused wrote a₁ _ a₂ hwrote hrest =>
    have hframe := (framed_installSyscallFilter filter).of_run hwrote
    have hright₁ := htracer.of_frame hframe (by decide) (fun _ => rfl) fun _ => rfl
    obtain ⟨hsame, hstrands⟩ := hright₁.value?_refused hrest
    have hkeep : ∀ path ∉ Control.syscallFilters, a₁.facility.value? path = a.facility.value? path :=
      hframe.facility.value?_eq
    have hundo : ∀ path ∉ Control.syscallFilters,
        ((undoFilter wrote).run a₂).2.facility.value? path = a₂.facility.value? path :=
      (framed_undoFilter wrote a₂).facility.value?_eq
    constructor
    · intro path hfunction
      by_cases hpath : path ∈ Control.syscallFilters
      · exact hinstalled path hpath
      · refine Simulation.content?_eq ?_
        rw [hundo path hpath, hsame path hfunction, hkeep path hpath]
    · change ((undoFilter wrote).run a₂).2.facility.value? _ = a.facility.value? _ ↔ _
      rw [hundo _ (by decide), ← hkeep _ (by decide), hstrands,
        hframe.strandsFilters_iff (by decide) fun _ => rfl]

/-! ### Runs -/

theorem content?_refusedSetup {report report' : SetupReport} (hright : a.FilterRight)
    (htracer : a.TracerRight) (hrun : (setup r report).run a = ((.invalid, report'), a')) :
    (∀ path ≠ Control.functionFilter, a'.facility.content? path = a.facility.content? path) ∧
      (a'.facility.content? Control.functionFilter = a.facility.content? Control.functionFilter ↔
        ¬StrandsFilters r a report'.failure) := by
  generalize hinvalid : SessionId.invalid = id at hrun
  cases setup_case hrun with
  | refused _ failure hreport hpreflight =>
    rw [hreport]
    exact ⟨fun _ _ => rfl, iff_of_true rfl (preflight_failure hpreflight).not_strandsFilters⟩
  | undone _ failure _ hreport _ hundone =>
    rw [hreport]
    exact content?_essentials_refused hright htracer hundone
  | completed _ _ _ hid => exact absurd hinvalid.symm (SessionId.next?_ne_invalid hid)

/-- As long as nobody else writes control files and no write is refused during a removal or a tracer
reset, a setup that gives no session leaves every file as it was, unless it strands function
filters. Then the other files are as they were. -/
theorem sameFiles_refusedSetup_iff (catalog : Catalog) (settings : Settings) {steps : List Step}
    (houtside : ∀ step ∈ steps, ¬step.isOutside)
    (hcleans : Along Cleans (fresh catalog settings) steps) {r : Request} {report : SetupReport}
    (hinvalid : ((setup r report).run ((fresh catalog settings).after steps)).1.1 = .invalid) :
    let a := (fresh catalog settings).after steps
    let refused := (setup r report).run a
    (∀ path ≠ Control.functionFilter,
        refused.2.facility.content? path = a.facility.content? path) ∧
      (a.facility.SameFiles refused.2.facility ↔
        ¬StrandsFilters r a refused.1.2.failure) := by
  intro a refused
  have hright : a.FilterRight := (FilterRight.fresh catalog settings).after houtside <|
    hcleans.mono fun a step hclean hremoval path hpath => by
      rw [hclean (.inl hremoval)] at hpath
      cases hpath
  have htracer : a.TracerRight := (TracerRight.fresh catalog settings).after houtside hcleans
  have hrun : (setup r report).run a = ((.invalid, refused.1.2), refused.2) :=
    Prod.ext (Prod.ext hinvalid rfl) rfl
  obtain ⟨hothers, hfilter⟩ := content?_refusedSetup hright htracer hrun
  refine ⟨hothers, ?_⟩
  rw [← hfilter]
  refine ⟨fun hsame => hsame Control.functionFilter, fun hsame path => ?_⟩
  by_cases hpath : path = Control.functionFilter
  · rw [hpath, hsame]
  · exact hothers path hpath

/-- Traces the given functions, and what is called below the given roots. -/
def traceFunctions (filters roots : List String) : Request where
  functionGraph := true
  functionFilters := filters
  functionGraphRoots := roots

/-- A session that traces functions comes and goes, another one comes, and then its filters can no
longer be added to. -/
def lockedFilters (path : String) : List Step :=
  [.setup (traceFunctions ["vfs_read"] []) {}, .remove ⟨1⟩, .resetTracer,
    .setup (traceFunctions ["vfs_read"] []) {}, .rig (.failWritesTo path)]

theorem sameFiles_lockedFilters :
    (∀ step ∈ lockedFilters Control.functionFilter, ¬step.isOutside) ∧
      Along Cleans (fresh smallCatalog {}) (lockedFilters Control.functionFilter) ∧
      let a := (fresh smallCatalog {}).after (lockedFilters Control.functionFilter)
      let refused := (setup (traceFunctions ["vfs_write"] ["do_sys_open"]) {}).run a
      refused.1.1 = .invalid ∧ a.facility.SameFiles refused.2.facility := by
  have houtside : ∀ step ∈ lockedFilters Control.functionFilter, ¬step.isOutside := by decide
  have hcleans : Along Cleans (fresh smallCatalog {}) (lockedFilters Control.functionFilter) := by
    decide +kernel
  have hinvalid : ((setup (traceFunctions ["vfs_write"] ["do_sys_open"]) {}).run
      ((fresh smallCatalog {}).after (lockedFilters Control.functionFilter))).1.1 = .invalid := by
    decide +kernel
  obtain ⟨-, hsame⟩ := sameFiles_refusedSetup_iff smallCatalog {} houtside hcleans hinvalid
  exact ⟨houtside, hcleans, hinvalid, hsame.mpr (by decide +kernel)⟩

/-- The graph filters are refused after a line was added to the function filters, and that line
stays. -/
theorem not_sameFiles_lockedRoots :
    (∀ step ∈ lockedFilters Control.graphFilter, ¬step.isOutside) ∧
      Along Cleans (fresh smallCatalog {}) (lockedFilters Control.graphFilter) ∧
      let a := (fresh smallCatalog {}).after (lockedFilters Control.graphFilter)
      let refused := (setup (traceFunctions ["vfs_write"] ["do_sys_open"]) {}).run a
      refused.1.1 = .invalid ∧ ¬a.facility.SameFiles refused.2.facility := by
  refine ⟨by decide, by decide +kernel, by decide +kernel, fun hsame => ?_⟩
  have hfilter := hsame Control.functionFilter
  revert hfilter
  decide +kernel

end Arbiter

end TraceArbiter
